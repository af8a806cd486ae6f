import InstrumentLink.Table

namespace InstrumentLink.Bench

inductive PortRef
  | number (port : UInt16)
  | name (name : String)
deriving DecidableEq, Repr

inductive PortLabel
  | number (port : UInt16)
  | name (name : String)
deriving DecidableEq, Repr

/-- The names that a bench has given. A name stands for the last value that was given it, and a
value keeps its name. -/
structure Names where
  ports : Table String UInt16 := {}
  portNames : Table UInt16 String := {}
  devices : Table String String := {}
  deviceNames : Table String String := {}
  /-- The last port seen under each path of a listener. -/
  lastPorts : Table String UInt16 := {}
  /-- How many ports were named after each path of a listener. -/
  counts : Table String Nat := {}

namespace Names

def reference (name : String) : String := "@" ++ name

def referred? (text : String) : Option String :=
  match text.toList with
  | '@' :: name => some (String.ofList name)
  | _ => none

/-- The port of a reference; an unknown name is port 0. -/
def port (names : Names) : PortRef → UInt16
  | .number port => port
  | .name name => (names.ports.get? name).getD 0

def label (names : Names) (port : UInt16) : PortLabel :=
  match names.portNames.get? port with
  | some name => .name name
  | none => .number port

/-- The device path of a text, which may stand for a name. -/
def devicePath (names : Names) (text : String) : String :=
  (((referred? text).bind names.devices.get?)).getD text

def deviceLabel (names : Names) (path : String) : String :=
  match names.deviceNames.get? path with
  | some name => reference name
  | none => path

def addPort (names : Names) (name : String) (port : UInt16) : Names :=
  { names with
    ports := names.ports.insert name port, portNames := names.portNames.insert port name }

def addDevice (names : Names) (name path : String) : Names :=
  { names with
    devices := names.devices.insert name path, deviceNames := names.deviceNames.insert path name }

/-- Names the port that a listener was given, if it is not the last one seen under its path. Later
ports of a path are counted. -/
def seePort (names : Names) (path : String) (port : UInt16) : Names :=
  if names.lastPorts.get? path = some port then names
  else
    let count := (names.counts.get? path).getD 0 + 1
    let name := if count = 1 then path else path ++ "#" ++ toString count
    { names.addPort name port with
      lastPorts := names.lastPorts.insert path port, counts := names.counts.insert path count }

end Names

end InstrumentLink.Bench
