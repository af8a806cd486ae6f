import InstrumentLink.Bench.LinkCall
import InstrumentLink.LinkConfig.Json

/-!
# Sessions on a bench

A session keeps named objects over a host in memory and carries out steps on them in order. The
network of the bench is down: sockets can be bound, but nothing can be reached.
-/

namespace InstrumentLink.Bench

open Loopback (World)

inductive Object
  | endpoint (endpoint : Endpoint)
  | link (link : Link)
  | closedPort (port : UInt16)
  | sink (port : UInt16)
  | line (path : String)

/-- The objects of a session, their names and the host under them. -/
structure Session where
  world : World := { isNetworkUp := false }
  names : Names := {}
  objects : Table String Object := {}

namespace Session

def releaseObject (world : World) : Object → World
  | .endpoint endpoint => endpoint.release World.host world
  | .link link => link.release World.host world
  | .closedPort port => world.returnPort port
  | .sink port => world.closeSink port
  | .line path => world.hangUp path

/-- Puts an object under a name. What was there before is given up. -/
def place (session : Session) (name : String) (object : Object) : Session :=
  let world :=
    match session.objects.get? name with
    | some old => releaseObject session.world old
    | none => session.world
  { session with world, objects := session.objects.insert name object }

/-- A configuration with the values of the names in its ports and its device path. -/
def resolveConfig (names : Names) : Json.Value → Json.Value
  | .object members =>
      .object (members.map fun (key, v) =>
        match key.bind ConfigField.ofName?, v with
        | some .devicePath, .string (some text) => (key, .ofText (names.devicePath text))
        | some .dataPort, .string (some text) | some .commandPort, .string (some text)
        | some .dataTxPort, .string (some text) | some .dataRxPort, .string (some text) =>
            match Names.referred? text with
            | some name => (key, .ofNat (names.port (.name name)).toNat)
            | none => (key, v)
        | _, _ => (key, v))
  | v => v

def make (session : Session) (name : String) : Recipe → Except StepError Answer × Session
  | .endpoint recipe =>
      (.ok .done, session.place name (.endpoint (makeEndpoint session.names recipe)))
  | .link topology =>
      match Topology.ofValue? topology with
      | some topology => (.ok .done, session.place name (.link (.new topology)))
      | none => (.error .enumParse, session)
  | .configuredLink config =>
      match LinkConfig.ofValue? (resolveConfig session.names config) with
      | none => (.error .configParse, session)
      | some config =>
          match config.build World.host session.world with
          | (.ok link, world) => (.ok .done, { session with world }.place name (.link link))
          | (.error fault, world) => (.error (.fault fault), { session with world })
  | .closedPort =>
      let (port, world) := session.world.takePort
      let names := session.names.addPort name port
      (.ok .done, { session with world, names }.place name (.closedPort port))
  | .sink =>
      let (port, world) := session.world.openSink
      let names := session.names.addPort name port
      (.ok .done, { session with world, names }.place name (.sink port))
  | .line =>
      let (path, world) := session.world.layLine
      let names := session.names.addDevice name path
      (.ok .done, { session with world, names }.place name (.line path))
  | .unknown => (.error .wrongKind, session)

/-- Takes an object off the bench; answers whether it was there. -/
def drop (session : Session) (name : String) : Except StepError Answer × Session :=
  match session.objects.get? name with
  | none => (.ok (.flag false), session)
  | some object =>
      (.ok (.flag true),
        { session with
          world := releaseObject session.world object, objects := session.objects.erase name })

def endpoint? (session : Session) (path : Path) : Option Endpoint :=
  match session.objects.get? path.object, path.part with
  | some (.endpoint endpoint), none => some endpoint
  | some (.link link), some part => (Role.ofName? part).bind link.endpoint?
  | _, _ => none

/-- The session with the result of an action that left an object in a state. -/
def put {ε : Type} (session : Session) (name : String) (object : ε → Object) (acted : Acted ε) :
    Session :=
  { session with
    world := acted.world, objects := session.objects.insert name (object acted.state) }

/-- Puts a copy of the endpoint under a path under a name, and shows it. -/
def copy (session : Session) (path : Path) (name : String) : Except StepError Answer × Session :=
  match session.endpoint? path with
  | some endpoint =>
      let copy := endpoint.template
      let session := session.place name (.endpoint copy)
      (.ok (.endpoint (endpointReport session.names World.host session.world copy)), session)
  | none => (.error .noEndpoint, session)

def compare (session : Session) (path other : Path) : Except StepError Answer :=
  match session.endpoint? path, session.endpoint? other with
  | some endpoint, some other => .ok (.flag (endpoint.sameChannel other))
  | _, _ => .error .noEndpoint

/-- Carries out a call on an endpoint; `back` makes it the object that is kept again. -/
def callOnEndpoint (session : Session) (endpoint : Endpoint) (back : Endpoint → Object)
    (name : String) : Call → Except StepError Answer × Session
  | .act _ action =>
      let acted := actOnEndpoint session.names action endpoint session.world
      (acted.answer, session.put name back acted)
  | _ => (.error .wrongKind, session)

/-- Carries out a call on the far end of a line. -/
def callOnLine (session : Session) (path : String) : Call → Except StepError Answer × Session
  | .act _ (.write bytes) =>
      (.ok (.count bytes.size),
        { session with world := session.world.sendFromFarEnd path bytes })
  | .act _ (.read room) =>
      let (bytes, world) := session.world.takeAtFarEnd path room
      (.ok (.bytes bytes), { session with world })
  | .hangUp => (.ok (.flag true), { session with world := session.world.hangUp path })
  | _ => (.error .wrongKind, session)

def callOnSink (session : Session) (port : UInt16) : Call → Except StepError Answer × Session
  | .receive =>
      let (datagram, world) := session.world.receive port
      (.ok ((datagram.map .bytes).getD .done), { session with world })
  | _ => (.error .wrongKind, session)

/-- The answer to a call, with the answers of the changes that it made, and the session after. -/
abbrev Reply := (Except StepError Answer × Option (List (Except StepError Answer))) × Session

/-- A reply without changes. -/
def plain (reply : Except StepError Answer × Session) : Reply :=
  ((reply.1, none), reply.2)

/-- Carries out a call on a link, or on the endpoint of one of its roles. -/
def callOnLinkAt (session : Session) (link : Link) (path : Path) (call : Call) : Reply :=
  match path.part with
  | none =>
      let result := callOnLink session.names call link session.world
      ((result.acted.answer, result.changes), session.put path.object .link result.acted)
  | some part =>
      match Role.ofName? part with
      | none => plain (.error .noEndpoint, session)
      | some role =>
          match link.endpoint? role with
          | none => plain (.error .noEndpoint, session)
          | some endpoint =>
              let back := fun endpoint => Object.link (link.withEndpoint role endpoint)
              plain (session.callOnEndpoint endpoint back path.object call)

/-- Carries out a call on the object that a path names. -/
def callOnObject (session : Session) (path : Path) (call : Call) : Reply :=
  match session.objects.get? path.object, path.part with
  | some (.link link), _ => session.callOnLinkAt link path call
  | some (.endpoint endpoint), none =>
      plain (session.callOnEndpoint endpoint .endpoint path.object call)
  | some (.line line), none => plain (session.callOnLine line call)
  | some (.sink port), none => plain (session.callOnSink port call)
  | some (.closedPort _), none => plain (.error .wrongKind, session)
  | _, _ => plain (.error .noEndpoint, session)

/-- Carries out a call. Copies and comparisons are of endpoints alone, so that there is nothing to
copy or compare under the path of another object. -/
def perform (session : Session) (path : Path) : Call → Reply
  | .make recipe => plain (session.make path.object recipe)
  | .drop => plain (session.drop path.object)
  | .template name => plain (session.copy path name)
  | .compare other => plain (session.compare path (.ofText other), session)
  | call => session.callOnObject path call

/-- Names the port of an endpoint that listens on a port of the host's choice. -/
def seeEndpoint (world : World) (names : Names) (path : String) : Endpoint → Names
  | .listener l =>
      if l.port = some 0 ∧ l.isListening then names.seePort path (l.boundPort World.host world)
      else names
  | _ => names

def seeObject (world : World) (names : Names) (name : String) : Object → Names
  | .endpoint endpoint => seeEndpoint world names name endpoint
  | .link link =>
      Role.all.foldl
        (fun names role =>
          match link.endpoint? role with
          | some endpoint => seeEndpoint world names (name ++ "." ++ role.name) endpoint
          | none => names)
        names
  | _ => names

/-- Names the ports that the host has given to listeners. -/
def see (session : Session) : Session :=
  { session with
    names := session.objects.entries.foldl
      (fun names (name, object) => seeObject session.world names name object) session.names }

/-- The report on an object that has a state to show. -/
def stateReport? (session : Session) (name : String) : Option StateReport :=
  match session.objects.get? name with
  | some (.endpoint endpoint) =>
      some (.endpoint (endpointReport session.names World.host session.world endpoint))
  | some (.link link) => some (.link (linkReport session.names World.host session.world link))
  | _ => none

/-- Carries out a step, names new ports and reports. -/
def step (session : Session) (step : Step) : StepReport × Session :=
  let ((answer, changes), session) := session.perform step.path step.call
  let session := session.see
  (⟨answer, changes, session.stateReport? step.path.object⟩, session)

def run (session : Session) : List Step → List StepReport
  | [] => []
  | first :: rest =>
      let (report, session) := session.step first
      report :: run session rest

end Session

end InstrumentLink.Bench
