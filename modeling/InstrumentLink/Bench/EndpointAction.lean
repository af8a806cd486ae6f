import InstrumentLink.Bench.Report
import InstrumentLink.Bench.Step
import InstrumentLink.Endpoint.Description
import InstrumentLink.Loopback.Host

namespace InstrumentLink.Bench

open Loopback (World)

structure Acted (ε : Type) where
  answer : Except StepError Answer
  state : ε
  world : World

namespace Acted

variable {ε ε' α : Type}

/-- The result of an operation on an endpoint or a link. -/
def ofOutcome (outcome : Outcome World ε α) (answer : α → Answer) : Acted ε :=
  ⟨(outcome.answer.mapError .fault).map answer, outcome.state, outcome.host⟩

/-- The result of an action that only changes states. -/
def done (changed : ε × World) : Acted ε :=
  ⟨.ok .done, changed.1, changed.2⟩

/-- The result with its state put into a larger one. -/
def inState (acted : Acted ε) (f : ε → ε') : Acted ε' :=
  ⟨acted.answer, f acted.state, acted.world⟩

end Acted

def makeEndpoint (names : Names) : EndpointRecipe → Endpoint
  | .tcpClient hostname port => .tcpClient { settings := { hostname, port := names.port port } }
  | .udpClient hostname port => .udpClient { settings := { hostname, port := names.port port } }
  | .listener port => .listener { port := port.map names.port }
  | .serialLine none _ => .serialLine {}
  | .serialLine (some path) none =>
      .serialLine { settings := { devicePath := names.devicePath path } }
  | .serialLine (some path) (some baudRate) =>
      .serialLine { settings := { devicePath := names.devicePath path, baudRate } }

/-- The answer that shows the settings of a client socket. -/
def socketSettings (names : Names) (settings : SocketSettings) : Answer :=
  .socketSettings settings.hostname (names.label settings.port) settings.isConfigured

/-- The answer that says whether the settings of a client socket are complete. -/
def requireSettings (settings : SocketSettings) : Except StepError Answer :=
  (settings.require.mapError .fault).map fun _ => .done

/-- The actions that only TCP clients know. -/
def actOnTcpClient (names : Names) (client : TcpClient) (world : World) :
    Action → Acted TcpClient
  | .setHostname hostname => .done (client.setHostname hostname, world)
  | .setPort port => .done (client.setPort (names.port port), world)
  | .settings => ⟨.ok (socketSettings names client.settings), client, world⟩
  | .require => ⟨requireSettings client.settings, client, world⟩
  | .peerAddress =>
      let peer := (client.peer? World.host world).map fun peer => (peer.ip, names.label peer.port)
      ⟨.ok (.socketAddress peer), client, world⟩
  | _ => ⟨.error .wrongKind, client, world⟩

/-- The actions that only UDP clients know. -/
def actOnUdpClient (names : Names) (client : UdpClient) (world : World) :
    Action → Acted UdpClient
  | .setHostname hostname => .done (client.setHostname hostname, world)
  | .setPort port => .done (client.setPort (names.port port), world)
  | .settings => ⟨.ok (socketSettings names client.settings), client, world⟩
  | .require => ⟨requireSettings client.settings, client, world⟩
  | _ => ⟨.error .wrongKind, client, world⟩

/-- The actions that only listeners know. -/
def actOnListener (names : Names) (listener : Listener) (world : World) :
    Action → Acted Listener
  | .setPort port => .done (listener.setPort (names.port port), world)
  | .clearPort => .done (listener.clearPort, world)
  | .accept => .ofOutcome (listener.accept World.host world) .flag
  | .disconnectClient => .done (listener.disconnectClient World.host world)
  | .clientAddress =>
      let address := (listener.clientAddress? World.host world).map (·.ip)
      ⟨.ok (.address address), listener, world⟩
  | .settings => ⟨.ok (.listenerSettings (listener.port.map names.label)), listener, world⟩
  | _ => ⟨.error .wrongKind, listener, world⟩

/-- Changes a line by a code, which must be valid. -/
def changeByCode {α : Type} (line : SerialLine) (world : World) (decoded : Option α)
    (change : α → SerialLine) : Acted SerialLine :=
  match decoded with
  | some a => .done (change a, world)
  | none => ⟨.ok (.flag false), line, world⟩

/-- The actions that only serial lines know. -/
def actOnSerialLine (names : Names) (line : SerialLine) (world : World) :
    Action → Acted SerialLine
  | .setDevicePath path => .done (line.setDevicePath (names.devicePath path), world)
  | .setBaudRate baudRate =>
      let (accepted, line) := line.setBaudRate baudRate
      ⟨.ok (.flag accepted), line, world⟩
  | .setParity code => changeByCode line world (Parity.ofCode? code) line.setParity
  | .setDataBits code => changeByCode line world (DataBits.ofCode? code) line.setDataBits
  | .setStopBits code => changeByCode line world (StopBits.ofCode? code) line.setStopBits
  | .setFlowControl code => changeByCode line world (FlowControl.ofCode? code) line.setFlowControl
  | .settings => ⟨.ok (.lineSettings (names.lineSettings line.settings)), line, world⟩
  | .sendBreak milliseconds =>
      let (sent, world) := line.sendBreak World.host milliseconds world
      ⟨.ok (.flag sent), line, world⟩
  | .describe =>
      let shown := { line with settings := names.lineSettings line.settings }
      ⟨.ok (.text shown.describe), line, world⟩
  | _ => ⟨.error .wrongKind, line, world⟩

/-- Whether an endpoint is of each of the kinds. -/
def kindsOf (endpoint : Endpoint) : List Bool :=
  [.tcpClient, .udpClient, .listener, .serialLine].map fun kind => endpoint.kind = kind

def actOnEndpoint (names : Names) (action : Action) (endpoint : Endpoint) (world : World) :
    Acted Endpoint :=
  match action with
  | .bringUp => .ofOutcome (endpoint.bringUp World.host world) .flag
  | .attach => .ofOutcome (endpoint.attach World.host world) .flag
  | .disconnect => .done (endpoint.disconnect World.host world)
  | .setBlocking blocking => .done (endpoint.setBlocking World.host blocking world)
  | .write bytes => .ofOutcome (endpoint.write World.host bytes world) .count
  | .read room => .ofOutcome (endpoint.read World.host room world) .bytes
  | .look => .done (endpoint, world)
  | .replace recipe => .done (makeEndpoint names recipe, endpoint.release World.host world)
  | .accessors => ⟨.ok (.kinds (kindsOf endpoint)), endpoint, world⟩
  | special =>
      match endpoint with
      | .tcpClient client => (actOnTcpClient names client world special).inState .tcpClient
      | .udpClient client => (actOnUdpClient names client world special).inState .udpClient
      | .listener l => (actOnListener names l world special).inState .listener
      | .serialLine line => (actOnSerialLine names line world special).inState .serialLine

def actInOrder (names : Names) :
    List (Option Action) → Endpoint → World → List (Except StepError Answer) × Endpoint × World
  | [], endpoint, world => ([], endpoint, world)
  | none :: rest, endpoint, world =>
      let (answers, endpoint, world) := actInOrder names rest endpoint world
      (.error .wrongKind :: answers, endpoint, world)
  | some action :: rest, endpoint, world =>
      let acted := actOnEndpoint names action endpoint world
      let (answers, endpoint, world) := actInOrder names rest acted.state acted.world
      (acted.answer :: answers, endpoint, world)

end InstrumentLink.Bench
