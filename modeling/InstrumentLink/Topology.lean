import InstrumentLink.Endpoint

/-!
# Topologies

A topology is the shape of a link between an instrument and an observatory. It fixes which roles
the link has, which of them it cannot do without, and which kind of endpoint serves each role.
-/

namespace InstrumentLink

/-- What an endpoint is for within a link. -/
inductive Role
  | data
  | command
  | dataTx
  | dataRx
deriving DecidableEq, Repr, Inhabited

namespace Role

def all : List Role := [data, command, dataTx, dataRx]

def name : Role → String
  | data => "data"
  | command => "command"
  | dataTx => "data_tx"
  | dataRx => "data_rx"

def displayName : Role → String
  | data => "data"
  | command => "command"
  | dataTx => "data-tx"
  | dataRx => "data-rx"

def ofName? (name : String) : Option Role :=
  all.find? (·.name = name)

/-- The roles in role order, each as often as it occurs. -/
def sort (roles : List Role) : List Role :=
  all.flatMap fun role => roles.filter (· = role)

end Role

/-- The shape of a link. -/
inductive Topology
  /-- The shore side, which listens for data and for commands. -/
  | observatoryStandard
  /-- An instrument reached over a TCP data port, and possibly another one for commands. -/
  | instrumentTcp
  /-- An instrument with one TCP port to send and another one to receive. -/
  | instrumentBotpt
  /-- An instrument on a serial line. -/
  | instrumentSerial
deriving DecidableEq, Repr

instance : Inhabited Topology := ⟨.instrumentTcp⟩

namespace Topology

def all : List Topology :=
  [observatoryStandard, instrumentTcp, instrumentBotpt, instrumentSerial]

def name : Topology → String
  | observatoryStandard => "observatory_standard"
  | instrumentTcp => "instrument_tcp"
  | instrumentBotpt => "instrument_botpt"
  | instrumentSerial => "instrument_serial"

def displayName : Topology → String
  | observatoryStandard => "observatory-standard"
  | instrumentTcp => "instrument-tcp"
  | instrumentBotpt => "instrument-botpt"
  | instrumentSerial => "instrument-serial"

def ofName? (name : String) : Option Topology :=
  all.find? (·.name = name)

/-- The roles that must all be up for the link to be up. -/
def requiredRoles : Topology → List Role
  | observatoryStandard => [.data, .command]
  | instrumentTcp => [.data]
  | instrumentBotpt => [.dataTx, .dataRx]
  | instrumentSerial => [.data]

/-- The roles that may stay without a configuration. -/
def optionalRoles : Topology → List Role
  | instrumentTcp => [.command]
  | _ => []

/-- All roles of the topology, the required ones first. -/
def roles (topology : Topology) : List Role :=
  topology.requiredRoles ++ topology.optionalRoles

def hasRole (topology : Topology) (role : Role) : Bool :=
  topology.roles.contains role

/-- The kind of endpoint that serves the roles of the topology. -/
def servedBy : Topology → EndpointKind
  | observatoryStandard => .listener
  | instrumentTcp => .tcpClient
  | instrumentBotpt => .tcpClient
  | instrumentSerial => .serialLine

/-- The kind of endpoint that serves a role, if the topology has it. -/
def endpointKind? (topology : Topology) (role : Role) : Option EndpointKind :=
  if topology.hasRole role then some topology.servedBy else none

/-- The endpoint that serves a role at first. Only the data listener of an observatory is
configured from the start: it takes a port that the host chooses. -/
def initialEndpoint? (topology : Topology) (role : Role) : Option Endpoint :=
  (topology.endpointKind? role).map fun
    | .listener => if role = .data then .listener .ephemeral else .listener {}
    | .serialLine => .serialLine {}
    | .udpClient => .udpClient {}
    | .tcpClient => .tcpClient {}

end Topology

end InstrumentLink
