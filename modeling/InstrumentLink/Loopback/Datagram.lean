import InstrumentLink.Loopback.World

namespace InstrumentLink.Loopback.World

def bindDatagram (world : World) : Except IoError Handle × World :=
  let (h, world) := world.freshHandle
  (.ok h, world)

/-- Sends a datagram. It arrives if there is a sink, and is lost without an error if not. -/
def sendTo (_h : Handle) (bytes : ByteArray) (address : SocketAddress) (world : World) :
    Except IoError Nat × World :=
  if world.isNetworkUp = false then (.error (.ofNumber 101), world)
  else if address.ip = loopbackBroadcast then (.error (.ofNumber 13), world)
  else if address.ip ≠ loopback then (.error (.ofNumber 101), world)
  else
    match world.sinks.get? address.port with
    | some queue =>
        (.ok bytes.size,
          { world with sinks := world.sinks.insert address.port (queue ++ [bytes]) })
    | none => (.ok bytes.size, world)

/-- Opens a sink for datagrams on a port that nobody uses. -/
def openSink (world : World) : UInt16 × World :=
  let (port, world) := world.freshPort
  (port, { world with sinks := world.sinks.insert port [] })

/-- Takes the oldest datagram of a sink. -/
def receive (world : World) (port : UInt16) : Option ByteArray × World :=
  match world.sinks.get? port with
  | some (bytes :: later) => (some bytes, { world with sinks := world.sinks.insert port later })
  | _ => (none, world)

def closeSink (world : World) (port : UInt16) : World :=
  { world with sinks := world.sinks.erase port }

end InstrumentLink.Loopback.World
