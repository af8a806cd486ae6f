import InstrumentLink.Endpoint.Listener
import InstrumentLink.Endpoint.SerialLine
import InstrumentLink.Endpoint.TcpClient
import InstrumentLink.Endpoint.UdpClient
import InstrumentLink.Identity

/-!
# Endpoints

An endpoint of any kind, and the operations that all kinds offer. Its life goes from not
configured to configured, when the needed fields are set, and from there up and down: up while it
owns its handle.
-/

namespace InstrumentLink

inductive Endpoint
  | tcpClient (client : TcpClient)
  | udpClient (client : UdpClient)
  | listener (l : Listener)
  | serialLine (line : SerialLine)
deriving DecidableEq, Repr

namespace Endpoint

variable {σ : Type}

/-- What the endpoint is configured to be. -/
def identity : Endpoint → Identity
  | tcpClient client => .tcpClient client.settings
  | udpClient client => .udpClient client.settings
  | listener l => .listener l.port
  | serialLine line => .serialLine line.settings

def kind : Endpoint → EndpointKind
  | tcpClient _ => .tcpClient
  | udpClient _ => .udpClient
  | listener _ => .listener
  | serialLine _ => .serialLine

/-- Whether two endpoints stand for the same channel. -/
def sameChannel (a b : Endpoint) : Bool := a.identity = b.identity

/-- A copy with the configuration only. -/
def template : Endpoint → Endpoint
  | tcpClient client => .tcpClient client.template
  | udpClient client => .udpClient client.template
  | listener l => .listener l.template
  | serialLine line => .serialLine line.template

def blocking : Endpoint → Bool
  | tcpClient client => client.blocking
  | udpClient client => client.blocking
  | listener l => l.blocking
  | serialLine line => line.blocking

/-- Whether every field that the kind needs is present. -/
def isConfigured : Endpoint → Bool
  | tcpClient client => client.isConfigured
  | udpClient client => client.isConfigured
  | listener l => l.isConfigured
  | serialLine line => line.isConfigured

/-- Whether the endpoint owns its resource; a listener does as soon as it listens. -/
def isUp : Endpoint → Bool
  | tcpClient client => client.isConnected
  | udpClient client => client.isConnected
  | listener l => l.isListening
  | serialLine line => line.isConnected

/-- Whether bytes can flow. -/
def isConnected : Endpoint → Bool
  | tcpClient client => client.isConnected
  | udpClient client => client.isConnected
  | listener l => l.isConnected
  | serialLine line => line.isConnected

/-- The handle that carries data through a socket; serial lines keep theirs to themselves. -/
def dataHandle? : Endpoint → Option Handle
  | tcpClient client => client.stream
  | udpClient client => client.socket
  | listener l => l.client
  | serialLine _ => none

def handles : Endpoint → List Handle
  | tcpClient client => client.stream.toList
  | udpClient client => client.socket.toList
  | listener l => l.socket.toList ++ l.client.toList
  | serialLine line => line.port.toList

def setBlocking (host : Host σ) (endpoint : Endpoint) (blocking : Bool) (os : σ) : Endpoint × σ :=
  match endpoint with
  | tcpClient client => (client.setBlocking host blocking os).map .tcpClient id
  | udpClient client => (client.setBlocking host blocking os).map udpClient id
  | listener l => (l.setBlocking host blocking os).map listener id
  | serialLine line => (line.setBlocking host blocking os).map serialLine id

def bringUp (host : Host σ) (endpoint : Endpoint) (os : σ) : Outcome σ Endpoint Bool :=
  match endpoint with
  | tcpClient client => (client.bringUp host os).inState tcpClient
  | udpClient client => (client.bringUp host os).inState udpClient
  | listener l => (l.bringUp host os).inState listener
  | serialLine line => (line.bringUp host os).inState serialLine

/-- Makes a way for data. A listener accepts a client; the other kinds are brought up. -/
def attach (host : Host σ) (endpoint : Endpoint) (os : σ) : Outcome σ Endpoint Bool :=
  match endpoint with
  | listener l => (l.accept host os).inState listener
  | other => other.bringUp host os

/-- Gives the handles up in an orderly way; the configuration stays. -/
def disconnect (host : Host σ) (endpoint : Endpoint) (os : σ) : Endpoint × σ :=
  match endpoint with
  | tcpClient client => (client.disconnect host os).map tcpClient id
  | udpClient client => (client.disconnect host os).map udpClient id
  | listener l => (l.disconnect host os).map listener id
  | serialLine line => (line.disconnect host os).map serialLine id

/-- Closes the handles of an endpoint that is given up. -/
def release (host : Host σ) (endpoint : Endpoint) (os : σ) : σ :=
  match endpoint with
  | tcpClient client => client.release host os
  | udpClient client => client.release host os
  | listener l => l.release host os
  | serialLine line => line.release host os

/-- Sends bytes; answers how many. -/
def write (host : Host σ) (endpoint : Endpoint) (bytes : ByteArray) (os : σ) :
    Outcome σ Endpoint Nat :=
  match endpoint with
  | tcpClient client => (client.write host bytes os).inState tcpClient
  | udpClient client => (client.write host bytes os).inState udpClient
  | listener l => (l.write host bytes os).inState listener
  | serialLine line => (line.write host bytes os).inState serialLine

/-- Receives at most so many bytes with a single attempt. -/
def read (host : Host σ) (endpoint : Endpoint) (room : Nat) (os : σ) :
    Outcome σ Endpoint ByteArray :=
  match endpoint with
  | tcpClient client => (client.read host room os).inState tcpClient
  | udpClient client => (client.read os).inState udpClient
  | listener l => (l.read host room os).inState listener
  | serialLine line => (line.read host room os).inState serialLine

/-- Changes the host of a client socket; other kinds have none. -/
def setHostname (endpoint : Endpoint) (hostname : String) : Endpoint :=
  match endpoint with
  | tcpClient client => .tcpClient (client.setHostname hostname)
  | udpClient client => .udpClient (client.setHostname hostname)
  | other => other

end Endpoint

end InstrumentLink
