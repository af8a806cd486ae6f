import InstrumentLink.Proofs.Endpoint.Action
import InstrumentLink.Proofs.Link.Custody

namespace InstrumentLink

variable {σ : Type}

/-- What a program owns. -/
inductive Owner
  | endpoint (endpoint : Endpoint)
  | link (link : Link)

/-- What a new owner is made from. -/
inductive Design
  | endpoint (identity : Identity) (blocking : Bool)
  | link (topology : Topology)
  | configured (config : LinkConfig)

/-- Makes a new owner. Only a configuration may be refused. -/
def Design.make (host : Host σ) (design : Design) (os : σ) : Option Owner × σ :=
  match design with
  | .endpoint identity blocking => (some (.endpoint (.new identity blocking)), os)
  | .link topology => (some (.link (.new topology)), os)
  | .configured config =>
      match config.build host os with
      | (.ok built, os) => (some (.link built), os)
      | (.error _, os) => (none, os)

namespace Owner

/-- The endpoint itself, or that of a role of the link. -/
def endpoint? : Owner → Option Role → Option Endpoint
  | .endpoint e, none => some e
  | .link l, some role => l.endpoint? role
  | _, _ => none

/-- The endpoint itself, or those of the link. -/
def members : Owner → List Endpoint
  | .endpoint e => [e]
  | .link l => l.members

def handles (owner : Owner) : List Handle := owner.members.flatMap Endpoint.handles

def release (host : Host σ) (owner : Owner) (os : σ) : σ :=
  match owner with
  | .endpoint e => e.release host os
  | .link l => l.release host os

/-- What can be done to an owner. -/
inductive Change
  | replace (design : Design)
  /-- Acts on an endpoint. -/
  | act (action : Endpoint.Action)
  /-- Acts on the endpoint of a link's role, without settling the change. -/
  | actOn (role : Role) (action : Endpoint.Action)
  | operate (operation : Link.Operation)
  /-- Acts on the endpoint of a link's role, and settles the change. -/
  | reconfigure (role : Role) (actions : List Endpoint.Action)

/-- Carries a change out. A new owner is made before the old one is given up. -/
def Change.run (host : Host σ) (change : Change) (owner : Owner) (os : σ) : Owner × σ :=
  match change, owner with
  | .replace design, owner =>
      match design.make host os with
      | (none, os) => (owner, os)
      | (some new, os) => (new, owner.release host os)
  | .act action, .endpoint e => (.endpoint (action.run host e os).1, (action.run host e os).2)
  | .actOn role action, .link l =>
      match l.endpoint? role with
      | none => (.link l, os)
      | some e =>
          (.link (l.withEndpoint role (action.run host e os).1), (action.run host e os).2)
  | .operate operation, .link l =>
      (.link (operation.run host l os).1, (operation.run host l os).2)
  | .reconfigure role actions, .link l =>
      let outcome := (l.reconfigureWith host role
        (fun endpoint os => ((), endpoint.actAll host actions os)) os).2
      (.link outcome.state, outcome.host)
  | _, owner => (owner, os)

/-- Carries changes out in order. -/
def changeAll (host : Host σ) : List Change → Owner → σ → Owner × σ
  | [], owner, os => (owner, os)
  | change :: rest, owner, os =>
      changeAll host rest (change.run host owner os).1 (change.run host owner os).2

/-- The handles of an owner that a change gives up for good. -/
def Change.discards (host : Host σ) (change : Change) (owner : Owner) (os : σ) : List Handle :=
  match change, owner with
  | .replace design, owner => if (design.make host os).1.isSome then owner.handles else []
  | .act action, .endpoint e => action.discards e
  | .actOn role action, .link l => ((l.endpoint? role).map action.discards).getD []
  | .reconfigure role actions, .link l =>
      ((l.endpoint? role).map fun e => e.discardsAll host actions os).getD []
  | _, _ => []

end Owner

/-- A step of a program. Owners are named by their place among those that are left. -/
inductive Step
  | create (design : Design)
  /-- Adds a copy of an endpoint with its configuration only. -/
  | copy (place : Nat) (role : Option Role)
  | change (place : Nat) (change : Owner.Change)
  | drop (place : Nat)

namespace Step

/-- Carries a step out. Nothing happens at a place without an owner. -/
def run (host : Host σ) (step : Step) (owners : List Owner) (os : σ) : List Owner × σ :=
  match step with
  | .create design =>
      match design.make host os with
      | (none, os) => (owners, os)
      | (some owner, os) => (owners ++ [owner], os)
  | .copy place role =>
      match owners[place]?.bind (·.endpoint? role) with
      | none => (owners, os)
      | some endpoint => (owners ++ [.endpoint endpoint.template], os)
  | .change place made =>
      match owners[place]? with
      | none => (owners, os)
      | some owner => (owners.set place (made.run host owner os).1, (made.run host owner os).2)
  | .drop place =>
      match owners[place]? with
      | none => (owners, os)
      | some owner => (owners.eraseIdx place, owner.release host os)

/-- The handles that a step gives up for good: those of what it replaces or drops. -/
def discards (host : Host σ) (step : Step) (owners : List Owner) (os : σ) : List Handle :=
  match step with
  | .change place made => (owners[place]?.map fun owner => made.discards host owner os).getD []
  | .drop place => (owners[place]?.map Owner.handles).getD []
  | _ => []

/-- Carries steps out in order. -/
def runAll (host : Host σ) : List Step → List Owner → σ → List Owner × σ
  | [], owners, os => (owners, os)
  | step :: rest, owners, os =>
      runAll host rest (step.run host owners os).1 (step.run host owners os).2

end Step

end InstrumentLink
