import InstrumentLink.Host
import InstrumentLink.Table

/-!
# A host in memory

The world is a single machine. Its listeners, streams, datagram sinks and serial lines live in
tables, and whatever is sent arrives at once. The loopback network may be down: then sockets can
still be bound, but every address is unreachable.
-/

namespace InstrumentLink.Loopback

/-- A socket that listens, and the connections that it has not accepted yet, oldest first. -/
structure Backlog where
  port : UInt16
  pending : List Handle := []
deriving Repr

/-- What an end of a stream knows of the other end. -/
inductive PeerState
  | present
  /-- It was closed in an orderly way. -/
  | closed
  /-- It was closed and is known not to take any more bytes. -/
  | broken
  /-- It broke the stream off. -/
  | reset
deriving DecidableEq, Repr

/-- One end of a stream. -/
structure StreamEnd where
  peer : Handle
  /-- The address of the other end. -/
  address : SocketAddress
  /-- The bytes that have arrived and are not read yet. -/
  inbox : ByteArray := ByteArray.empty
  peerState : PeerState := .present
  /-- Whether this end has announced that it will send no more. -/
  isShut : Bool := false

/-- What the other end learns when an end is closed. Bytes that nobody will read break the stream;
they break it off unless the end was shut down before. -/
def StreamEnd.farewell (streamEnd : StreamEnd) : PeerState :=
  if streamEnd.inbox.size = 0 then .closed
  else if streamEnd.isShut then .broken
  else .reset

/-- The two queues of a serial line whose far end is there. -/
structure Wire where
  toDevice : ByteArray := ByteArray.empty
  toFarEnd : ByteArray := ByteArray.empty

structure World where
  isNetworkUp : Bool := true
  nextHandle : Nat := 0
  nextPort : Nat := 49152
  nextLine : Nat := 0
  listeners : Table Handle Backlog := {}
  streams : Table Handle StreamEnd := {}
  /-- Ports that are taken without anybody listening there. -/
  closedPorts : List UInt16 := []
  /-- The datagrams that have arrived at the port of a sink, oldest first. -/
  sinks : Table UInt16 (List ByteArray) := {}
  /-- The serial lines by device path. -/
  wires : Table String Wire := {}
  /-- The device paths of open lines. -/
  openLines : Table Handle String := {}

namespace World

/-- How many bytes a stream holds for a reader. -/
def inboxCapacity : Nat := 4194304

def loopback : IpAddress := .v4 127 0 0 1

def loopbackBroadcast : IpAddress := .v4 127 255 255 255

/-- The address of the machine itself as an IPv6 address. -/
def mappedLoopback : IpAddress := .v6 ⟨#[0, 0, 0, 0, 0, 0xffff, 0x7f00, 1], rfl⟩

/-- Whether a connection to an address reaches the machine itself. -/
def reachesLoopback (ip : IpAddress) : Bool := ip = loopback || ip = mappedLoopback

/-- A handle that was never used before. -/
def freshHandle (world : World) : Handle × World :=
  (⟨world.nextHandle⟩, { world with nextHandle := world.nextHandle + 1 })

/-- Whether binding a port would meet another socket. -/
def isTaken (world : World) (port : UInt16) : Bool :=
  world.listeners.any (·.port = port) || world.closedPorts.contains port

/-- The first of so many successive ports that is not taken. -/
def firstFree (world : World) : Nat → Nat → UInt16
  | 0, port => UInt16.ofNat port
  | count + 1, port =>
      if UInt16.ofNat port ≠ 0 ∧ world.isTaken (UInt16.ofNat port) = false then UInt16.ofNat port
      else world.firstFree count (port + 1)

/-- A port that nobody uses. -/
def freshPort (world : World) : UInt16 × World :=
  let port := world.firstFree 65536 world.nextPort
  (port, { world with nextPort := port.toNat + 1 })

/-- Changes an end of a stream, if it is still there. -/
def modifyEnd (world : World) (h : Handle) (f : StreamEnd → StreamEnd) : World :=
  match world.streams.get? h with
  | some streamEnd => { world with streams := world.streams.insert h (f streamEnd) }
  | none => world

/-- Takes a port that nobody uses, without listening there. -/
def takePort (world : World) : UInt16 × World :=
  let (port, world) := world.freshPort
  (port, { world with closedPorts := port :: world.closedPorts })

def returnPort (world : World) (port : UInt16) : World :=
  { world with closedPorts := world.closedPorts.filter (· ≠ port) }

end World

end InstrumentLink.Loopback
