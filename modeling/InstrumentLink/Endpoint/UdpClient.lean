import InstrumentLink.SocketSettings

/-!
# UDP clients

A client sends datagrams and never receives any. There is no handshake: a datagram counts as
written once the host has taken it. The destination is looked up for every write, so a change of
the configuration takes effect with the next datagram.
-/

namespace InstrumentLink

/-- The largest payload of a datagram in bytes. -/
def maxDatagramSize : Nat := 65507

def Fault.datagramTooLarge (size : Nat) : Fault :=
  .writeFailure
    ("datagram of " ++ toString size ++ " bytes exceeds " ++ toString maxDatagramSize)

structure UdpClient where
  settings : SocketSettings := {}
  socket : Option Handle := none
  blocking : Bool := false
deriving DecidableEq, Repr, Inhabited

namespace UdpClient

variable {σ : Type}

/-- A copy with the configuration only. -/
def template (client : UdpClient) : UdpClient :=
  { settings := client.settings, blocking := client.blocking }

def isConfigured (client : UdpClient) : Bool := client.settings.isConfigured

def isConnected (client : UdpClient) : Bool := client.socket.isSome

def setHostname (client : UdpClient) (hostname : String) : UdpClient :=
  { client with settings := { client.settings with hostname } }

def setPort (client : UdpClient) (port : UInt16) : UdpClient :=
  { client with settings := { client.settings with port } }

/-- Chooses the blocking mode, also of an open socket. -/
def setBlocking (host : Host σ) (client : UdpClient) (blocking : Bool) (os : σ) : UdpClient × σ :=
  ({ client with blocking }, host.setHeldBlocking client.socket blocking os)

def disconnect (host : Host σ) (client : UdpClient) (os : σ) : UdpClient × σ :=
  ({ client with socket := none }, host.closeHeld client.socket os)

/-- Closes the socket of a client that is given up. -/
def release (host : Host σ) (client : UdpClient) (os : σ) : σ :=
  host.closeHeld client.socket os

/-- Opens a socket, after a look-up that finds an unknown host early. -/
def openSocket (host : Host σ) (settings : SocketSettings) (blocking : Bool) (os : σ) :
    Except Fault Handle × σ :=
  match settings.destination host os with
  | (.error fault, os) => (.error fault, os)
  | (.ok _, os) =>
      match host.withMode blocking (host.bindDatagram os) with
      | (.ok h, os) => (.ok h, os)
      | (.error e, os) => (.error (.ofConnect e), os)

/-- Opens a socket anew. An incomplete configuration is refused before anything happens; otherwise
the old socket is closed first. -/
def bringUp (host : Host σ) (client : UdpClient) (os : σ) : Outcome σ UdpClient Bool :=
  match client.settings.missing? with
  | some fault => ⟨.error fault, client, os⟩
  | none =>
      let (client, os) := client.disconnect host os
      match openSocket host client.settings client.blocking os with
      | (.ok h, os) => ⟨.ok true, { client with socket := some h }, os⟩
      | (.error fault, os) => ⟨.error fault, client, os⟩

/-- Sends the bytes as one datagram to where the configuration points now. Only a failed send
closes the socket. -/
def write (host : Host σ) (client : UdpClient) (bytes : ByteArray) (os : σ) :
    Outcome σ UdpClient Nat :=
  match client.settings.missing?, client.socket with
  | some fault, _ => ⟨.error fault, client, os⟩
  | none, none => ⟨.error .notInitialized, client, os⟩
  | none, some h =>
      if maxDatagramSize < bytes.size then
        ⟨.error (.datagramTooLarge bytes.size), client, os⟩
      else
        match client.settings.destination host os with
        | (.error fault, os) => ⟨.error fault, client, os⟩
        | (.ok address, os) =>
            match host.sendTo h bytes address os with
            | (.ok sent, os) => ⟨.ok sent, client, os⟩
            | (.error e, os) =>
                ⟨.error (.ofWrite e), { client with socket := none }, host.close h os⟩

/-- Receiving is not offered. -/
def read (client : UdpClient) (os : σ) : Outcome σ UdpClient ByteArray :=
  ⟨.error (.notImplemented "UDP client read"), client, os⟩

end UdpClient

end InstrumentLink
