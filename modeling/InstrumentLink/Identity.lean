import InstrumentLink.SocketSettings

/-!
# Identities of endpoints

Two endpoints stand for the same channel when their identities are equal: the same kind and the
same configuration. Handles never take part.
-/

namespace InstrumentLink

inductive EndpointKind
  | tcpClient
  | udpClient
  | listener
  | serialLine
deriving DecidableEq, Repr, Inhabited

def EndpointKind.name : EndpointKind → String
  | tcpClient => "tcp-client"
  | udpClient => "udp-client"
  | listener => "tcp-listener"
  | serialLine => "serial"

/-- What an endpoint is configured to be. -/
inductive Identity
  | tcpClient (settings : SocketSettings)
  | udpClient (settings : SocketSettings)
  | listener (port : Option UInt16)
  | serialLine (settings : LineSettings)
deriving DecidableEq, Repr

/-- The kind of endpoint that an identity belongs to. -/
def Identity.kind : Identity → EndpointKind
  | tcpClient _ => .tcpClient
  | udpClient _ => .udpClient
  | listener _ => .listener
  | serialLine _ => .serialLine

end InstrumentLink
