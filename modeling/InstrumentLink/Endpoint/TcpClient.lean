import InstrumentLink.SocketSettings

namespace InstrumentLink

structure TcpClient where
  settings : SocketSettings := {}
  stream : Option Handle := none
  blocking : Bool := false
deriving DecidableEq, Repr, Inhabited

namespace TcpClient

variable {σ : Type}

/-- A copy with the configuration only. -/
def template (client : TcpClient) : TcpClient :=
  { settings := client.settings, blocking := client.blocking }

def isConfigured (client : TcpClient) : Bool := client.settings.isConfigured

def isConnected (client : TcpClient) : Bool := client.stream.isSome

def setHostname (client : TcpClient) (hostname : String) : TcpClient :=
  { client with settings := { client.settings with hostname } }

def setPort (client : TcpClient) (port : UInt16) : TcpClient :=
  { client with settings := { client.settings with port } }

/-- Chooses the blocking mode, also of an open stream. -/
def setBlocking (host : Host σ) (client : TcpClient) (blocking : Bool) (os : σ) : TcpClient × σ :=
  ({ client with blocking }, host.setHeldBlocking client.stream blocking os)

def disconnect (host : Host σ) (client : TcpClient) (os : σ) : TcpClient × σ :=
  ({ client with stream := none }, host.endHeld .write client.stream os)

/-- Closes the stream without a word to the peer. -/
def release (host : Host σ) (client : TcpClient) (os : σ) : σ :=
  host.closeHeld client.stream os

/-- Looks the host up and connects to the first of its addresses that answers. -/
def openStream (host : Host σ) (settings : SocketSettings) (blocking : Bool) (os : σ) :
    Except Fault Handle × σ :=
  match settings.resolve host os with
  | (.error fault, os) => (.error fault, os)
  | (.ok addresses, os) =>
      match host.withMode blocking (host.connectAny .noAddress os addresses) with
      | (.ok h, os) => (.ok h, os)
      | (.error e, os) => (.error (.ofConnect e), os)

/-- Connects anew. An incomplete configuration is refused before anything happens; otherwise the
old stream is ended first, so that there are never two. -/
def bringUp (host : Host σ) (client : TcpClient) (os : σ) : Outcome σ TcpClient Bool :=
  match client.settings.missing? with
  | some fault => ⟨.error fault, client, os⟩
  | none =>
      let (client, os) := client.disconnect host os
      match openStream host client.settings client.blocking os with
      | (.ok h, os) => ⟨.ok true, { client with stream := some h }, os⟩
      | (.error fault, os) => ⟨.error fault, client, os⟩

/-- Writes all bytes; a failure closes the stream. -/
def write (host : Host σ) (client : TcpClient) (bytes : ByteArray) (os : σ) :
    Outcome σ TcpClient Nat :=
  (host.writeFully client.stream bytes os).inState fun stream => { client with stream }

/-- Reads once. No bytes mean that there are none yet, or that the peer has closed, which ends the
stream on this side too. -/
def read (host : Host σ) (client : TcpClient) (room : Nat) (os : σ) :
    Outcome σ TcpClient ByteArray :=
  let outcome := host.readOnce client.stream room os
  let client := { client with stream := outcome.state }
  match outcome.answer with
  | .error fault => ⟨.error fault, client, outcome.host⟩
  | .ok (.data bytes) => ⟨.ok bytes, client, outcome.host⟩
  | .ok .wouldBlock => ⟨.ok ByteArray.empty, client, outcome.host⟩
  | .ok .closed =>
      let (client, os) := client.disconnect host outcome.host
      ⟨.ok ByteArray.empty, client, os⟩

/-- The address at the other end of the stream. -/
def peer? (host : Host σ) (client : TcpClient) (os : σ) : Option SocketAddress :=
  client.stream.bind fun h => (host.peer h os).toOption

end TcpClient

end InstrumentLink
