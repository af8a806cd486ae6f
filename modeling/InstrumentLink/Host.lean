import InstrumentLink.LineSettings
import InstrumentLink.Net.Address
import InstrumentLink.Stream

/-!
# Hosts

A host is the system that endpoints ask for names, sockets and serial lines. Every request is a
function of the host's state, so whatever a host may answer, and in whatever order, is some value
of `Host`. Opening requests answer a handle. Queries leave the state as it is.
-/

namespace InstrumentLink

inductive Shutdown
  | write
  | both
deriving DecidableEq, Repr

/-- The system under the endpoints, with states `σ`. -/
structure Host (σ : Type) extends Channels σ where
  /-- The addresses of a host name. -/
  lookup : String → σ → Except IoError (List IpAddress) × σ
  /-- Opens a stream to an address. -/
  connect : SocketAddress → σ → Except IoError Handle × σ
  /-- Opens a socket that listens on a port of all addresses; port 0 leaves the choice to the
  host. -/
  listen : UInt16 → σ → Except IoError Handle × σ
  /-- Takes the oldest pending connection of a listening socket. -/
  accept : Handle → σ → Except IoError Handle × σ
  /-- Opens a datagram socket on a port that the host chooses. -/
  bindDatagram : σ → Except IoError Handle × σ
  /-- Sends one datagram. -/
  sendTo : Handle → ByteArray → SocketAddress → σ → Except IoError Nat × σ
  /-- Opens a serial line with all its settings. -/
  openLine : LineSettings → LineTimeout → σ → Except IoError Handle × σ
  /-- Chooses whether operations on a socket wait. -/
  setBlocking : Handle → Bool → σ → Except IoError Unit × σ
  /-- Chooses how long operations on a line wait. -/
  setTimeout : Handle → LineTimeout → σ → Except IoError Unit × σ
  /-- Ends a connection in an orderly way; a failure to do so is of no consequence. -/
  shutdown : Handle → Shutdown → σ → σ
  /-- Puts a line into the break state. -/
  setBreak : Handle → σ → Except IoError Unit × σ
  /-- Ends the break state of a line. -/
  clearBreak : Handle → σ → Except IoError Unit × σ
  /-- Lets so many milliseconds pass. -/
  pause : Nat → σ → σ
  /-- The port that a socket is bound to. -/
  localPort : Handle → σ → Except IoError UInt16
  /-- The address at the other end of a connection. -/
  peer : Handle → σ → Except IoError SocketAddress

namespace Host

variable {σ : Type}

def closeHeld (host : Host σ) (held : Option Handle) (os : σ) : σ :=
  match held with
  | some h => host.close h os
  | none => os

/-- Shuts a connection down and closes it, if there is one. -/
def endHeld (host : Host σ) (how : Shutdown) (held : Option Handle) (os : σ) : σ :=
  match held with
  | some h => host.close h (host.shutdown h how os)
  | none => os

/-- Changes the blocking mode of a socket, if there is one. A mode that cannot be changed is left
alone. -/
def setHeldBlocking (host : Host σ) (held : Option Handle) (blocking : Bool) (os : σ) : σ :=
  match held with
  | some h => (host.setBlocking h blocking os).2
  | none => os

/-- Changes the timeout of a line, if there is one. -/
def setHeldTimeout (host : Host σ) (held : Option Handle) (timeout : LineTimeout) (os : σ) : σ :=
  match held with
  | some h => (host.setTimeout h timeout os).2
  | none => os

/-- Puts a socket that has just been opened into its blocking mode, and closes it if it cannot be
put there. -/
def withMode (host : Host σ) (blocking : Bool) (opened : Except IoError Handle × σ) :
    Except IoError Handle × σ :=
  match opened with
  | (.error e, os) => (.error e, os)
  | (.ok h, os) =>
      match host.setBlocking h blocking os with
      | (.ok (), os) => (.ok h, os)
      | (.error e, os) => (.error e, host.close h os)

/-- Connects to the first address that answers; the error is that of the last one tried. -/
def connectAny (host : Host σ) (failed : IoError) (os : σ) :
    List SocketAddress → Except IoError Handle × σ
  | [] => (.error failed, os)
  | address :: rest =>
      match host.connect address os with
      | (.ok h, os) => (.ok h, os)
      | (.error e, os) => host.connectAny e os rest

end Host

end InstrumentLink
