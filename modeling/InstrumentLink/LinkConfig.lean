import InstrumentLink.Link

/-!
# Configurations of a link

A configuration describes one hookup in plain values. Ports and codes may be absent, fields that
the topology has no use for are ignored, and a code that is not valid leaves the line's default.
-/

namespace InstrumentLink

/-- The description of one hookup. -/
structure LinkConfig where
  topology : Topology := .instrumentTcp
  host : Option String := none
  dataPort : Option UInt16 := none
  commandPort : Option UInt16 := none
  dataTxPort : Option UInt16 := none
  dataRxPort : Option UInt16 := none
  devicePath : Option String := none
  baud : Option UInt32 := none
  parity : Option UInt8 := none
  flowControl : Option UInt8 := none
  dataBits : Option UInt8 := none
  stopBits : Option UInt8 := none
  blocking : Bool := false
deriving DecidableEq, Repr, Inhabited

namespace LinkConfig

variable {σ : Type}

def port? (config : LinkConfig) : Role → Option UInt16
  | .data => config.dataPort
  | .command => config.commandPort
  | .dataTx => config.dataTxPort
  | .dataRx => config.dataRxPort

def configureLine (config : LinkConfig) (line : SerialLine) : SerialLine :=
  let line := (config.devicePath.map line.setDevicePath).getD line
  let line := (config.baud.map fun baud => (line.setBaudRate baud).2).getD line
  let line := ((config.parity.bind Parity.ofCode?).map line.setParity).getD line
  let line := ((config.flowControl.bind FlowControl.ofCode?).map line.setFlowControl).getD line
  let line := ((config.dataBits.bind DataBits.ofCode?).map line.setDataBits).getD line
  ((config.stopBits.bind StopBits.ofCode?).map line.setStopBits).getD line

/-- Applies the fields of a serial line to the data line of a link, if it has one. -/
def configureDataLine (config : LinkConfig) (link : Link) : Link :=
  match link.endpoint? .data with
  | some (.serialLine line) => link.withEndpoint .data (.serialLine (config.configureLine line))
  | _ => link

def configureHost (host : Host σ) (config : LinkConfig) (link : Link) (os : σ) :
    Outcome σ Link Unit :=
  match config.host with
  | some hostname => link.setHost host hostname os
  | none => ⟨.ok (), link, os⟩

/-- Applies the ports of those of the given roles that the topology has. -/
def configurePorts (host : Host σ) (config : LinkConfig) :
    List Role → Link → σ → Outcome σ Link Unit
  | [], link, os => ⟨.ok (), link, os⟩
  | role :: rest, link, os =>
      match config.port? role with
      | none => configurePorts host config rest link os
      | some port =>
          if config.topology.hasRole role then
            (link.setPort host role port os).andThen fun _ link os =>
              configurePorts host config rest link os
          else configurePorts host config rest link os

/-- Applies the configuration to the link of its topology as it is at first. -/
def configure (host : Host σ) (config : LinkConfig) (os : σ) : Outcome σ Link Unit :=
  let (link, os) := (Link.new config.topology).setBlocking host config.blocking os
  ((config.configureHost host link os).andThen fun _ link os =>
    configurePorts host config Role.all link os).inState config.configureDataLine

/-- Makes the link that the configuration describes, with nothing up yet. -/
def build (host : Host σ) (config : LinkConfig) (os : σ) : Except Fault Link × σ :=
  let outcome := config.configure host os
  match outcome.answer with
  | .ok () => (.ok outcome.state, outcome.host)
  | .error fault => (.error fault, outcome.state.release host outcome.host)

end LinkConfig

end InstrumentLink
