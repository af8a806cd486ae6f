import InstrumentLink.Host

namespace InstrumentLink

/-- A socket was bound to another port than the one asked for. -/
def Fault.wrongPort (wanted bound : UInt16) : Fault :=
  .connectFailure
    ("bind to port " ++ toString wanted.toNat ++ " failed, got " ++ toString bound.toNat)

structure Listener where
  port : Option UInt16 := none
  socket : Option Handle := none
  client : Option Handle := none
  blocking : Bool := false
deriving DecidableEq, Repr, Inhabited

namespace Listener

variable {σ : Type}

/-- A listener on a port that the host chooses. -/
def ephemeral : Listener := { port := some 0 }

/-- A copy with the configuration only. -/
def template (listener : Listener) : Listener :=
  { port := listener.port, blocking := listener.blocking }

def isConfigured (listener : Listener) : Bool := listener.port.isSome

def isListening (listener : Listener) : Bool := listener.socket.isSome

def isConnected (listener : Listener) : Bool := listener.client.isSome

/-- Changes the port; a socket that listens keeps its own. -/
def setPort (listener : Listener) (port : UInt16) : Listener :=
  { listener with port := some port }

/-- Takes the port out of the configuration; a socket that listens keeps its own. -/
def clearPort (listener : Listener) : Listener :=
  { listener with port := none }

/-- Chooses the blocking mode, also of the open handles. -/
def setBlocking (host : Host σ) (listener : Listener) (blocking : Bool) (os : σ) : Listener × σ :=
  ({ listener with blocking },
    host.setHeldBlocking listener.client blocking
      (host.setHeldBlocking listener.socket blocking os))

/-- The port that the socket is bound to; 0 if there is no socket or the host does not tell. -/
def boundPort (host : Host σ) (listener : Listener) (os : σ) : UInt16 :=
  match listener.socket with
  | some h => ((host.localPort h os).toOption).getD 0
  | none => 0

def clientAddress? (host : Host σ) (listener : Listener) (os : σ) : Option SocketAddress :=
  listener.client.bind fun h => (host.peer h os).toOption

/-- Ends the connection to the client and keeps on listening. -/
def disconnectClient (host : Host σ) (listener : Listener) (os : σ) : Listener × σ :=
  ({ listener with client := none }, host.endHeld .both listener.client os)

/-- Ends the connection to the client, then closes the socket. -/
def disconnect (host : Host σ) (listener : Listener) (os : σ) : Listener × σ :=
  let (listener, os) := listener.disconnectClient host os
  ({ listener with socket := none }, host.closeHeld listener.socket os)

/-- Closes both handles without a word to the client. -/
def release (host : Host σ) (listener : Listener) (os : σ) : σ :=
  host.closeHeld listener.client (host.closeHeld listener.socket os)

/-- Accepts the oldest pending connection. Without one the answer is `false`. -/
def accept (host : Host σ) (listener : Listener) (os : σ) : Outcome σ Listener Bool :=
  match listener.socket, listener.client with
  | none, _ => ⟨.error .notInitialized, listener, os⟩
  | some _, some _ => ⟨.error .alreadyConnected, listener, os⟩
  | some socket, none =>
      match host.accept socket os with
      | (.error e, os) =>
          if e.isTransient then ⟨.ok false, listener, os⟩
          else ⟨.error (.ofConnect e), listener, os⟩
      | (.ok h, os) =>
          match host.withMode listener.blocking (.ok h, os) with
          | (.ok h, os) => ⟨.ok true, { listener with client := some h }, os⟩
          | (.error e, os) => ⟨.error (.ofConnect e), listener, os⟩

/-- Listens anew on the configured port. The old handles are closed first, and a socket that was
bound to another port than the one asked for is not kept. -/
def bringUp (host : Host σ) (listener : Listener) (os : σ) : Outcome σ Listener Bool :=
  match listener.port with
  | none => ⟨.error .missingPort, listener, os⟩
  | some port =>
      let (listener, os) := listener.disconnect host os
      match host.withMode listener.blocking (host.listen port os) with
      | (.error e, os) => ⟨.error (.ofConnect e), listener, os⟩
      | (.ok h, os) =>
          let up := { listener with socket := some h }
          let bound := up.boundPort host os
          if port ≠ 0 ∧ bound ≠ port then
            ⟨.error (.wrongPort port bound), listener, host.close h os⟩
          else ⟨.ok true, up, os⟩

/-- The fault of reading or writing without a client. -/
def noClient? (listener : Listener) : Option Fault :=
  if listener.socket.isNone then some .notInitialized
  else if listener.client.isNone then some .notConnected
  else none

/-- Writes all bytes to the client; a failure closes the client's handle. -/
def write (host : Host σ) (listener : Listener) (bytes : ByteArray) (os : σ) :
    Outcome σ Listener Nat :=
  match listener.noClient? with
  | some fault => ⟨.error fault, listener, os⟩
  | none =>
      (host.writeFully listener.client bytes os).inState fun client => { listener with client }

/-- Reads once from the client. No bytes mean that there are none yet, or that the client has
closed, which ends its connection on this side too. -/
def read (host : Host σ) (listener : Listener) (room : Nat) (os : σ) :
    Outcome σ Listener ByteArray :=
  match listener.noClient? with
  | some fault => ⟨.error fault, listener, os⟩
  | none =>
      let outcome := host.readOnce listener.client room os
      let listener := { listener with client := outcome.state }
      match outcome.answer with
      | .error fault => ⟨.error fault, listener, outcome.host⟩
      | .ok (.data bytes) => ⟨.ok bytes, listener, outcome.host⟩
      | .ok .wouldBlock => ⟨.ok ByteArray.empty, listener, outcome.host⟩
      | .ok .closed =>
          let (listener, os) := listener.disconnectClient host outcome.host
          ⟨.ok ByteArray.empty, listener, os⟩

end Listener

end InstrumentLink
