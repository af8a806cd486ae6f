import InstrumentLink.Bench.Names
import InstrumentLink.Json.Value
import InstrumentLink.Topology

namespace InstrumentLink.Bench

inductive EndpointRecipe
  | tcpClient (hostname : String) (port : PortRef)
  | udpClient (hostname : String) (port : PortRef)
  | listener (port : Option PortRef)
  /-- A baud rate counts only together with a path. -/
  | serialLine (path : Option String) (baudRate : Option UInt32)
deriving Repr

inductive Recipe
  | endpoint (recipe : EndpointRecipe)
  /-- A link of a topology, given as a value that should name one. -/
  | link (topology : Json.Value)
  /-- A link that a configuration describes. -/
  | configuredLink (config : Json.Value)
  /-- A port that is taken but refuses connections. -/
  | closedPort
  /-- A receiver of datagrams. -/
  | sink
  /-- The far end of a serial line. -/
  | line
  | unknown

/-- What can be done with an endpoint, and in part with other objects. -/
inductive Action
  | bringUp
  | attach
  | disconnect
  | setBlocking (blocking : Bool)
  | write (bytes : ByteArray)
  | read (room : Nat)
  | look
  | replace (recipe : EndpointRecipe)
  | accessors
  | peerAddress
  | setHostname (hostname : String)
  | setPort (port : PortRef)
  | settings
  | require
  | clearPort
  | accept
  | disconnectClient
  | clientAddress
  | setDevicePath (path : String)
  | setBaudRate (baudRate : UInt32)
  | setParity (code : UInt8)
  | setDataBits (code : UInt8)
  | setStopBits (code : UInt8)
  | setFlowControl (code : UInt8)
  | sendBreak (milliseconds : Nat)
  | describe

inductive Call
  | make (recipe : Recipe)
  | drop
  | template (copy : String)
  | compare (other : String)
  /-- An action, on behalf of a role where the object is a link. -/
  | act (role : Option Role) (action : Action)
  | setHost (hostname : String)
  | setRolePort (role : Role) (port : PortRef)
  /-- Changes of a role's endpoint that are settled together; a change that is no action of an
  endpoint is refused. -/
  | reconfigure (role : Option Role) (changes : List (Option Action))
  | receive
  | hangUp
  | unknown

/-- What a step is about: an object, or a part of it. -/
structure Path where
  object : String
  part : Option String := none

/-- The path that a text gives; the object's name ends at the first dot. -/
def Path.ofText (text : String) : Path :=
  let object := text.toList.takeWhile (· ≠ '.')
  match text.toList.dropWhile (· ≠ '.') with
  | _ :: part => ⟨String.ofList object, some (String.ofList part)⟩
  | [] => ⟨String.ofList object, none⟩

structure Step where
  path : Path
  call : Call

end InstrumentLink.Bench
