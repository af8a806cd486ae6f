import InstrumentLink.Loopback.World
import InstrumentLink.Net.Literal

namespace InstrumentLink.Loopback.World

/-- The error of looking up a name that nobody knows. -/
def unknownName : IoError where
  condition := .failed
  text := "failed to lookup address information: Name or service not known"

/-- The error of looking up a text that cannot be a name. -/
def impossibleName : IoError where
  condition := .failed
  text := "file name contained an unexpected NUL byte"

/-- Looks a host up: addresses stand for themselves, and one name is known. -/
def lookup (hostname : String) (world : World) : Except IoError (List IpAddress) × World :=
  match IpAddress.ofText? hostname with
  | some ip => (.ok [ip], world)
  | none =>
      if hostname = "localhost" then (.ok [loopback], world)
      else if '\x00' ∈ hostname.toList then (.error impossibleName, world)
      else (.error unknownName, world)

/-- Connects to a listener, which need not accept for that. -/
def connect (address : SocketAddress) (world : World) : Except IoError Handle × World :=
  if world.isNetworkUp = false ∨ reachesLoopback address.ip = false then
    (.error (.ofNumber 101), world)
  else
    match world.listeners.keyOf? (·.port = address.port) with
    | none => (.error (.ofNumber 111), world)
    | some listening =>
        let (near, world) := world.freshHandle
        let (far, world) := world.freshHandle
        let (port, world) := world.freshPort
        let nearEnd : StreamEnd := { peer := far, address }
        let farEnd : StreamEnd := { peer := near, address := ⟨loopback, port⟩ }
        let backlog := (world.listeners.get? listening).getD { port := address.port }
        (.ok near,
          { world with
            streams := (world.streams.insert near nearEnd).insert far farEnd
            listeners := world.listeners.insert listening
              { backlog with pending := backlog.pending ++ [far] } })

/-- Starts to listen on a port, or on one that nobody uses. -/
def listen (port : UInt16) (world : World) : Except IoError Handle × World :=
  if world.isTaken port then (.error (.ofNumber 98), world)
  else
    let (port, world) := if port = 0 then world.freshPort else (port, world)
    let (h, world) := world.freshHandle
    (.ok h, { world with listeners := world.listeners.insert h { port } })

/-- Takes the oldest connection that a listener has not accepted. -/
def accept (listening : Handle) (world : World) : Except IoError Handle × World :=
  match world.listeners.get? listening with
  | none => (.error (.ofNumber 9), world)
  | some backlog =>
      match backlog.pending with
      | [] => (.error (.ofNumber 11), world)
      | h :: later =>
          (.ok h,
            { world with
              listeners := world.listeners.insert listening { backlog with pending := later } })

def localPort (h : Handle) (world : World) : Except IoError UInt16 :=
  match world.listeners.get? h with
  | some backlog => .ok backlog.port
  | none => .error (.ofNumber 9)

/-- The address of the other end of a stream, while the stream is whole. -/
def peer (h : Handle) (world : World) : Except IoError SocketAddress :=
  match world.streams.get? h with
  | some streamEnd =>
      match streamEnd.peerState with
      | .present | .closed => .ok streamEnd.address
      | .broken | .reset => .error (.ofNumber 107)
  | none => .error (.ofNumber 9)

/-- Announces that an end will send no more. -/
def shutdown (h : Handle) (_how : Shutdown) (world : World) : World :=
  world.modifyEnd h fun streamEnd => { streamEnd with isShut := true }

/-- Closes an end of a stream, which the other end gets to know. -/
def closeStream (world : World) (h : Handle) (streamEnd : StreamEnd) (farewell : PeerState) :
    World :=
  let world := world.modifyEnd streamEnd.peer fun peer => { peer with peerState := farewell }
  { world with streams := world.streams.erase h }

/-- Breaks off connections that were never accepted. -/
def dropPending (world : World) : List Handle → World
  | [] => world
  | h :: rest =>
      match world.streams.get? h with
      | some streamEnd => dropPending (world.closeStream h streamEnd .reset) rest
      | none => dropPending world rest

end InstrumentLink.Loopback.World
