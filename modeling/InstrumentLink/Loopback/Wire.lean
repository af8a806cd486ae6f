import InstrumentLink.Loopback.World

namespace InstrumentLink.Loopback.World

/-- Lays a serial line; answers the path of its device. -/
def layLine (world : World) : String × World :=
  let path := "/dev/pts/" ++ toString world.nextLine
  (path, { world with nextLine := world.nextLine + 1, wires := world.wires.insert path {} })

/-- Opens the device of a line whose far end is there. -/
def openLine (settings : LineSettings) (_timeout : LineTimeout) (world : World) :
    Except IoError Handle × World :=
  match world.wires.get? settings.devicePath with
  | none => (.error (.ofNumber 2), world)
  | some _ =>
      let (h, world) := world.freshHandle
      (.ok h, { world with openLines := world.openLines.insert h settings.devicePath })

def wire? (world : World) (h : Handle) : Option (String × Wire) := do
  let path ← world.openLines.get? h
  let wire ← world.wires.get? path
  return (path, wire)

/-- Enters or leaves the break state of a line, which needs the far end. -/
def breakState (h : Handle) (world : World) : Except IoError Unit × World :=
  match world.wire? h with
  | some _ => (.ok (), world)
  | none => (.error (.ofNumber 5), world)

def sendFromFarEnd (world : World) (path : String) (bytes : ByteArray) : World :=
  match world.wires.get? path with
  | some wire =>
      { world with
        wires := world.wires.insert path { wire with toDevice := wire.toDevice ++ bytes } }
  | none => world

/-- The far end of a line takes at most so many bytes. -/
def takeAtFarEnd (world : World) (path : String) (room : Nat) : ByteArray × World :=
  match world.wires.get? path with
  | some wire =>
      (wire.toFarEnd.extract 0 room,
        { world with
          wires := world.wires.insert path
            { wire with toFarEnd := wire.toFarEnd.extract room wire.toFarEnd.size } })
  | none => (ByteArray.empty, world)

def hangUp (world : World) (path : String) : World :=
  { world with wires := world.wires.erase path }

end InstrumentLink.Loopback.World
