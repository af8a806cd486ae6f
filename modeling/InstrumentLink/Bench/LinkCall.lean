import InstrumentLink.Bench.EndpointAction

namespace InstrumentLink.Bench

open Loopback (World)

def actOnLink (names : Names) (role : Option Role) (action : Action) (link : Link)
    (world : World) : Acted Link :=
  match action, role with
  | .bringUp, _ => .ofOutcome (link.bringUp World.host world) .flag
  | .disconnect, _ => .done (link.disconnect World.host world)
  | .setBlocking blocking, _ => .done (link.setBlocking World.host blocking world)
  | .setDevicePath path, _ =>
      .ofOutcome (link.setDevicePath World.host (names.devicePath path) world) fun _ => .done
  | .sendBreak milliseconds, _ =>
      let (sent, world) := link.sendBreak World.host milliseconds world
      ⟨.ok (.flag sent), link, world⟩
  | .look, _ => .done (link, world)
  | .write bytes, some role => .ofOutcome (link.write World.host role bytes world) .count
  | .read room, some role => .ofOutcome (link.read World.host role room world) .bytes
  | _, _ => ⟨.error .wrongKind, link, world⟩

/-- The result of a call on a link, with the answers of the changes that it made. -/
structure LinkActed where
  acted : Acted Link
  changes : Option (List (Except StepError Answer)) := none

def callOnLink (names : Names) (call : Call) (link : Link) (world : World) : LinkActed :=
  match call with
  | .act role action => ⟨actOnLink names role action link world, none⟩
  | .setHost hostname =>
      ⟨.ofOutcome (link.setHost World.host hostname world) fun _ => .done, none⟩
  | .setRolePort role port =>
      ⟨.ofOutcome (link.setPort World.host role (names.port port) world) fun _ => .done, none⟩
  | .reconfigure (some role) changes =>
      let (answers, outcome) :=
        link.reconfigureWith World.host role (actInOrder names changes) world
      ⟨.ofOutcome outcome .flag, some (answers.getD [])⟩
  | _ => ⟨⟨.error .wrongKind, link, world⟩, none⟩

end InstrumentLink.Bench
