import InstrumentLink.Json.Parser
import InstrumentLink.Json.Printer
import InstrumentLink.LinkConfig

/-!
# Configurations as JSON

A configuration is written as an object with all its fields in order. It is read from an object,
where every field may be missing and unknown keys are skipped, or from an array, which gives the
fields by position. A field that occurs twice is refused.
-/

namespace InstrumentLink

namespace Json

/-- A named value: its name as a string, or as the only key of an object that holds null. -/
def named? {α : Type} (ofName? : String → Option α) : Value → Option α
  | .string (some name) => ofName? name
  | .object [(some name, .null)] => ofName? name
  | _ => none

def nullable? {α : Type} (decode? : Value → Option α) : Value → Option (Option α)
  | .null => some none
  | v => (decode? v).map some

def word16? : Value → Option UInt16
  | .number literal => (naturalBelow? 65536 literal).map UInt16.ofNat
  | _ => none

def word32? : Value → Option UInt32
  | .number literal => (naturalBelow? 4294967296 literal).map UInt32.ofNat
  | _ => none

def word8? : Value → Option UInt8
  | .number literal => (naturalBelow? 256 literal).map UInt8.ofNat
  | _ => none

end Json

inductive ConfigField
  | topology
  | host
  | dataPort
  | commandPort
  | dataTxPort
  | dataRxPort
  | devicePath
  | baud
  | parity
  | flowControl
  | dataBits
  | stopBits
  | blocking
deriving DecidableEq, Repr

namespace ConfigField

def all : List ConfigField :=
  [topology, host, dataPort, commandPort, dataTxPort, dataRxPort, devicePath, baud, parity,
    flowControl, dataBits, stopBits, blocking]

def name : ConfigField → String
  | topology => "topology"
  | host => "host"
  | dataPort => "data_port"
  | commandPort => "command_port"
  | dataTxPort => "data_tx_port"
  | dataRxPort => "data_rx_port"
  | devicePath => "device_path"
  | baud => "baud"
  | parity => "parity"
  | flowControl => "flow_control"
  | dataBits => "data_bits"
  | stopBits => "stop_bits"
  | blocking => "blocking"

def ofName? (name : String) : Option ConfigField :=
  all.find? (·.name = name)

end ConfigField

namespace LinkConfig

open Json (Value)

def get (config : LinkConfig) : ConfigField → Value
  | .topology => .ofText config.topology.name
  | .host => .ofOption .ofText config.host
  | .dataPort => .ofOption (fun port => .ofNat port.toNat) config.dataPort
  | .commandPort => .ofOption (fun port => .ofNat port.toNat) config.commandPort
  | .dataTxPort => .ofOption (fun port => .ofNat port.toNat) config.dataTxPort
  | .dataRxPort => .ofOption (fun port => .ofNat port.toNat) config.dataRxPort
  | .devicePath => .ofOption .ofText config.devicePath
  | .baud => .ofOption (fun baud => .ofNat baud.toNat) config.baud
  | .parity => .ofOption (fun code => .ofNat code.toNat) config.parity
  | .flowControl => .ofOption (fun code => .ofNat code.toNat) config.flowControl
  | .dataBits => .ofOption (fun code => .ofNat code.toNat) config.dataBits
  | .stopBits => .ofOption (fun code => .ofNat code.toNat) config.stopBits
  | .blocking => .bool config.blocking

/-- The configuration with the value of a field replaced, if the field takes such a value. -/
def set? (config : LinkConfig) (field : ConfigField) (v : Value) : Option LinkConfig :=
  match field with
  | .topology =>
      (Json.named? Topology.ofName? v).map fun topology => { config with topology }
  | .host => (Json.nullable? Value.text? v).map fun host => { config with host }
  | .dataPort => (Json.nullable? Json.word16? v).map fun dataPort => { config with dataPort }
  | .commandPort =>
      (Json.nullable? Json.word16? v).map fun commandPort => { config with commandPort }
  | .dataTxPort =>
      (Json.nullable? Json.word16? v).map fun dataTxPort => { config with dataTxPort }
  | .dataRxPort =>
      (Json.nullable? Json.word16? v).map fun dataRxPort => { config with dataRxPort }
  | .devicePath =>
      (Json.nullable? Value.text? v).map fun devicePath => { config with devicePath }
  | .baud => (Json.nullable? Json.word32? v).map fun baud => { config with baud }
  | .parity => (Json.nullable? Json.word8? v).map fun parity => { config with parity }
  | .flowControl =>
      (Json.nullable? Json.word8? v).map fun flowControl => { config with flowControl }
  | .dataBits => (Json.nullable? Json.word8? v).map fun dataBits => { config with dataBits }
  | .stopBits => (Json.nullable? Json.word8? v).map fun stopBits => { config with stopBits }
  | .blocking => v.bool?.map fun blocking => { config with blocking }

/-- Reads members into a configuration. Members with unknown keys are skipped; a field that has
been seen before is refused. -/
def setMembers? (config : LinkConfig) (seen : List ConfigField) :
    List (Json.Text × Value) → Option LinkConfig
  | [] => some config
  | (none, _) :: _ => none
  | (some name, v) :: rest =>
      match ConfigField.ofName? name with
      | none => config.setMembers? seen rest
      | some field =>
          if field ∈ seen then none
          else (config.set? field v).bind fun config => config.setMembers? (field :: seen) rest

/-- Reads items into the fields of a configuration by position. -/
def setItems? (config : LinkConfig) : List ConfigField → List Value → Option LinkConfig
  | _, [] => some config
  | [], _ :: _ => none
  | field :: fields, v :: rest =>
      (config.set? field v).bind fun config => config.setItems? fields rest

def ofValue? : Value → Option LinkConfig
  | .object members => setMembers? {} [] members
  | .array items => setItems? {} ConfigField.all items
  | _ => none

def toValue (config : LinkConfig) : Value :=
  .ofMembers (ConfigField.all.map fun field => (field.name, config.get field))

def parse? (text : String) : Option LinkConfig :=
  (Json.parse? text).bind ofValue?

/-- The compact text of a configuration. -/
def render (config : LinkConfig) : String :=
  config.toValue.render

end LinkConfig

def Topology.ofValue? : Json.Value → Option Topology :=
  Json.named? Topology.ofName?

def Role.ofValue? : Json.Value → Option Role :=
  Json.named? Role.ofName?

end InstrumentLink
