import InstrumentLink.Bench.Names
import InstrumentLink.Link

namespace InstrumentLink.Bench

/-- The identity of an endpoint as a report shows it. -/
inductive IdentityReport
  | socket (hostname : String) (port : PortLabel)
  | listener (port : Option PortLabel)
  | serialLine (settings : LineSettings)

/-- What only some kinds of endpoints have to show. -/
inductive KindReport
  | socket
  | listener (isListening : Bool) (boundPort : PortLabel) (hasSocket : Bool)
  | serialLine (applied : Option LineSettings)

structure EndpointReport where
  kind : EndpointKind
  identity : IdentityReport
  isConfigured : Bool
  isUp : Bool
  isConnected : Bool
  blocking : Bool
  hasDataHandle : Bool
  ofKind : KindReport

/-- The report on a role of a link: its endpoint, and what the link says of the role. -/
structure RoleReport where
  role : Role
  endpoint : EndpointReport
  isConfigured : Bool
  isUp : Bool
  isConnected : Bool

structure LinkReport where
  topology : Topology
  isConfigured : Bool
  isUp : Bool
  isConnected : Bool
  roles : List RoleReport

/-- The report on an object that has a state to show. -/
inductive StateReport
  | endpoint (report : EndpointReport)
  | link (report : LinkReport)

namespace Names

/-- The settings of a line with the name of its device. -/
def lineSettings (names : Names) (settings : LineSettings) : LineSettings :=
  { settings with devicePath := names.deviceLabel settings.devicePath }

def identityReport (names : Names) : Identity → IdentityReport
  | .tcpClient settings => .socket settings.hostname (names.label settings.port)
  | .udpClient settings => .socket settings.hostname (names.label settings.port)
  | .listener port => .listener (port.map names.label)
  | .serialLine settings => .serialLine (names.lineSettings settings)

end Names

variable {σ : Type}

/-- What only the kind of an endpoint has to show. -/
def kindReport (names : Names) (host : Host σ) (os : σ) : Endpoint → KindReport
  | .tcpClient _ | .udpClient _ => .socket
  | .listener l => .listener l.isListening (names.label (l.boundPort host os)) l.socket.isSome
  | .serialLine line => .serialLine (line.applied.map names.lineSettings)

def endpointReport (names : Names) (host : Host σ) (os : σ) (endpoint : Endpoint) :
    EndpointReport where
  kind := endpoint.kind
  identity := names.identityReport endpoint.identity
  isConfigured := endpoint.isConfigured
  isUp := endpoint.isUp
  isConnected := endpoint.isConnected
  blocking := endpoint.blocking
  hasDataHandle := endpoint.dataHandle?.isSome
  ofKind := kindReport names host os endpoint

/-- The report on a role, if the link has it. -/
def roleReport? (names : Names) (host : Host σ) (os : σ) (link : Link) (role : Role) :
    Option RoleReport :=
  (link.endpoint? role).map fun endpoint =>
    { role
      endpoint := endpointReport names host os endpoint
      isConfigured := link.roleHas role Endpoint.isConfigured
      isUp := link.roleHas role Endpoint.isUp
      isConnected := link.roleHas role Endpoint.isConnected }

def linkReport (names : Names) (host : Host σ) (os : σ) (link : Link) : LinkReport where
  topology := link.topology
  isConfigured := link.isConfigured
  isUp := link.isUp
  isConnected := link.isConnected
  roles := Role.all.filterMap (roleReport? names host os link)

inductive Answer
  | done
  | flag (b : Bool)
  | count (n : Nat)
  | bytes (bytes : ByteArray)
  | text (text : String)
  /-- An address of which only the host is shown. -/
  | address (ip : Option IpAddress)
  | socketAddress (address : Option (IpAddress × PortLabel))
  /-- Whether an endpoint is of each of the kinds. -/
  | kinds (isKind : List Bool)
  | socketSettings (hostname : String) (port : PortLabel) (isConfigured : Bool)
  | listenerSettings (port : Option PortLabel)
  | lineSettings (settings : LineSettings)
  | endpoint (report : EndpointReport)

/-- Why a step was not done. -/
inductive StepError
  | fault (fault : Fault)
  /-- There is no such object or role. -/
  | noEndpoint
  /-- The object does not have such a call. -/
  | wrongKind
  /-- A value names no topology. -/
  | enumParse
  /-- A value is no configuration. -/
  | configParse

structure StepReport where
  answer : Except StepError Answer
  /-- The answers of the changes of a reconfiguration. -/
  changes : Option (List (Except StepError Answer)) := none
  state : Option StateReport := none

end InstrumentLink.Bench
