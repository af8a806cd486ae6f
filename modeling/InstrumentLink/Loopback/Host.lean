import InstrumentLink.Loopback.Datagram
import InstrumentLink.Loopback.Socket
import InstrumentLink.Loopback.Stream

namespace InstrumentLink.Loopback.World

def close (h : Handle) (world : World) : World :=
  match world.streams.get? h, world.listeners.get? h with
  | some streamEnd, _ => world.closeStream h streamEnd streamEnd.farewell
  | none, some backlog =>
      let world := { world with listeners := world.listeners.erase h }
      world.dropPending backlog.pending
  | none, none => { world with openLines := world.openLines.erase h }

def host : Host World where
  stream := stream
  close := close
  lookup := lookup
  connect := connect
  listen := listen
  accept := accept
  bindDatagram := bindDatagram
  sendTo := sendTo
  openLine := openLine
  setBlocking := fun _ _ world => (.ok (), world)
  setTimeout := fun _ _ world => (.ok (), world)
  shutdown := shutdown
  setBreak := breakState
  clearBreak := breakState
  pause := fun _ world => world
  localPort := localPort
  peer := peer

end InstrumentLink.Loopback.World
