import InstrumentLink.LinkConfig
import InstrumentLink.Proofs.Endpoint.Steps
import InstrumentLink.Proofs.Link.Attempt

namespace InstrumentLink

variable {σ : Type}

namespace Link

/-- Some endpoints of a link are acted on, one after the other. -/
inductive Acts (step : Endpoint → σ → Endpoint → σ → Prop) (link : Link) (os : σ) :
    Link → σ → Prop
  | refl : Acts step link os link os
  | tail {between : Link} {role : Role} {endpoint after : Endpoint} {os' os'' : σ}
      (acts : Acts step link os between os') (found : between.endpoint? role = some endpoint)
      (steps : step endpoint os' after os'') :
      Acts step link os (between.withEndpoint role after) os''

namespace Acts

variable {step step' : Endpoint → σ → Endpoint → σ → Prop} {link link' : Link} {os os' : σ}

theorem single {role : Role} {endpoint after : Endpoint}
    (found : link.endpoint? role = some endpoint) (steps : step endpoint os after os') :
    Acts step link os (link.withEndpoint role after) os' :=
  .tail .refl found steps

theorem trans {link'' : Link} {os'' : σ} (acts : Acts step link os link' os')
    (later : Acts step link' os' link'' os'') : Acts step link os link'' os'' := by
  induction later with
  | refl => exact acts
  | tail _ found steps ih => exact .tail ih found steps

theorem mono (weaker : ∀ {endpoint os after os'}, step endpoint os after os' →
      step' endpoint os after os')
    (acts : Acts step link os link' os') : Acts step' link os link' os' := by
  induction acts with
  | refl => exact .refl
  | tail _ found steps ih => exact .tail ih found (weaker steps)

theorem topology_eq (acts : Acts step link os link' os') : link'.topology = link.topology := by
  induction acts with
  | refl => rfl
  | tail _ _ _ ih => exact ih

/-- What every action keeps of the endpoint it is on, and of the other ones, holds of all
endpoints in the end. -/
theorem forall_endpoints {P : Endpoint → σ → Prop}
    (own : ∀ {endpoint os after os'}, step endpoint os after os' → P endpoint os → P after os')
    (others : ∀ {endpoint os after os' other}, step endpoint os after os' → P endpoint os →
      P other os → P other os')
    (acts : Acts step link os link' os')
    (all : ∀ role endpoint, link.endpoint? role = some endpoint → P endpoint os) :
    ∀ role endpoint, link'.endpoint? role = some endpoint → P endpoint os' := by
  induction acts with
  | refl => exact all
  | @tail between role endpoint after _ _ _ found steps ih =>
    intro other endpoint' found'
    by_cases same : other = role
    · rw [same, endpoint?_withEndpoint_self, Option.some.injEq] at found'
      rw [← found']
      exact own steps (ih role endpoint found)
    · rw [between.endpoint?_withEndpoint_of_ne after same] at found'
      exact others steps (ih role endpoint found) (ih other endpoint' found')

theorem exists_endpoint {P : Endpoint → Prop} {role : Role}
    (own : ∀ {endpoint os after os'}, step endpoint os after os' → P endpoint → P after)
    (acts : Acts step link os link' os')
    (present : ∃ endpoint, link.endpoint? role = some endpoint ∧ P endpoint) :
    ∃ endpoint, link'.endpoint? role = some endpoint ∧ P endpoint := by
  induction acts with
  | refl => exact present
  | @tail between other endpoint after _ _ _ found steps ih =>
    by_cases same : role = other
    · obtain ⟨endpoint', found', holds⟩ := ih
      rw [same, found, Option.some.injEq] at found'
      rw [← found'] at holds
      exact ⟨after, by rw [same, endpoint?_withEndpoint_self], own steps holds⟩
    · rw [between.endpoint?_withEndpoint_of_ne after same]
      exact ih

/-- What goes on after a success acts after what came first, and a fault ends it there. -/
theorem andThen {α β : Type} {first : Outcome σ Link α} {next : α → Link → σ → Outcome σ Link β}
    (acts : Acts step link os first.state first.host)
    (later : ∀ a, Acts step first.state first.host (next a first.state first.host).state
      (next a first.state first.host).host) :
    Acts step link os (first.andThen next).state (first.andThen next).host := by
  cases answer : first.answer with
  | ok a =>
    rw [Outcome.andThen_of_ok next answer]
    exact acts.trans (later a)
  | error fault =>
    rw [Outcome.andThen_of_error next answer]
    exact acts

end Acts

section Step

variable {step : Endpoint → σ → Endpoint → σ → Prop}

theorem acts_forEach {f : Endpoint → σ → Endpoint × σ}
    (steps : ∀ endpoint os, step endpoint os (f endpoint os).1 (f endpoint os).2)
    (roles : List Role) (link : Link) (os : σ) :
    Acts step link os (forEach f roles link os).1 (forEach f roles link os).2 := by
  induction roles generalizing link os with
  | nil => exact .refl
  | cons role rest ih =>
    unfold forEach
    split
    · exact ih link os
    · next endpoint found => exact (Acts.single found (steps endpoint os)).trans (ih _ _)

variable {host : Host σ}

private theorem acts_bringUpRole
    (opens : ∀ endpoint os, endpoint.isPending = true →
      step endpoint os (endpoint.bringUp host os).state (endpoint.bringUp host os).host)
    (link : Link) (role : Role) (os : σ) :
    Acts step link os (link.bringUpRole host role os).state
      (link.bringUpRole host role os).host := by
  cases found : (link.endpoint? role).filter Endpoint.isPending with
  | none =>
    rw [bringUpRole_of_idle found]
    exact .refl
  | some endpoint =>
    obtain ⟨endpoint_eq, pending⟩ := Option.filter_eq_some_iff.mp found
    rw [bringUpRole_of_pending found]
    exact Acts.single endpoint_eq (opens endpoint os pending)

theorem acts_bringUpRoles
    (opens : ∀ endpoint os, endpoint.isPending = true →
      step endpoint os (endpoint.bringUp host os).state (endpoint.bringUp host os).host)
    (roles : List Role) (link : Link) (os : σ) :
    Acts step link os (bringUpRoles host roles link os).state
      (bringUpRoles host roles link os).host := by
  induction roles generalizing link os with
  | nil => exact .refl
  | cons role rest ih => exact (acts_bringUpRole opens link role os).andThen fun _ => ih _ _

theorem reconfigureWith_of_none {ρ : Type} (host : Host σ) {link : Link} {role : Role}
    (missing : link.endpoint? role = none) (change : Endpoint → σ → ρ × Endpoint × σ) (os : σ) :
    link.reconfigureWith host role change os =
      (none, ⟨.error (.missingRole link.topology role), link, os⟩) := by
  rw [reconfigureWith, missing]

theorem reconfigureWith_of_some {ρ : Type} (host : Host σ) {link : Link} {role : Role}
    {endpoint : Endpoint} (found : link.endpoint? role = some endpoint)
    (change : Endpoint → σ → ρ × Endpoint × σ) (os : σ) :
    link.reconfigureWith host role change os =
      let made := change endpoint os
      (some made.1,
        (endpoint.reopenIfChanged host made.2.1 made.2.2).inState (link.withEndpoint role)) := by
  rw [reconfigureWith, found]

theorem acts_reconfigure {change : Endpoint → Endpoint} {os : σ}
    (settles : ∀ endpoint, step endpoint os
      (endpoint.reopenIfChanged host (change endpoint) os).state
      (endpoint.reopenIfChanged host (change endpoint) os).host)
    (link : Link) (role : Role) :
    Acts step link os (link.reconfigure host role change os).state
      (link.reconfigure host role change os).host := by
  unfold reconfigure reconfigureWith
  split
  · exact .refl
  · next endpoint found => exact Acts.single found (settles endpoint)

theorem acts_setHostOf {hostname : String}
    (settles : ∀ endpoint os, step endpoint os
      (endpoint.reopenIfChanged host (endpoint.setHostname hostname) os).state
      (endpoint.reopenIfChanged host (endpoint.setHostname hostname) os).host)
    (roles : List Role) (link : Link) (os : σ) :
    Acts step link os (setHostOf host hostname roles link os).state
      (setHostOf host hostname roles link os).host := by
  induction roles generalizing link os with
  | nil => exact .refl
  | cons role rest ih =>
    exact (acts_reconfigure (fun endpoint => settles endpoint os) link role).andThen fun _ => ih _ _

theorem acts_setDevicePath {devicePath : String} {os : σ}
    (settles : ∀ endpoint, step endpoint os
      (endpoint.reopenIfChanged host (endpoint.setDevicePath devicePath) os).state
      (endpoint.reopenIfChanged host (endpoint.setDevicePath devicePath) os).host)
    (link : Link) :
    Acts step link os (link.setDevicePath host devicePath os).state
      (link.setDevicePath host devicePath os).host := by
  unfold setDevicePath
  split
  · exact acts_reconfigure settles link .data
  · exact .refl

end Step

theorem acts_setHost (host : Host σ) (hostname : String) (roles : List Role) (link : Link)
    (os : σ) :
    Acts (Endpoint.Tunes host) link os (setHostOf host hostname roles link os).state
      (setHostOf host hostname roles link os).host :=
  acts_setHostOf (fun _ _ => .settled [.hostname hostname] rfl) roles link os

theorem acts_setPort (host : Host σ) (link : Link) (role : Role) (port : UInt16) (os : σ) :
    Acts (Endpoint.Tunes host) link os (link.setPort host role port os).state
      (link.setPort host role port os).host := by
  apply acts_reconfigure
  intro endpoint
  obtain ⟨settings, changed, -⟩ := endpoint.exists_settings_setPort host role port os
  exact .settled settings changed

/-- A call of one of the operations of a link. -/
inductive Operation
  | bringUp
  | disconnect
  | setHost (hostname : String)
  | setPort (role : Role) (port : UInt16)
  | setDevicePath (devicePath : String)
  | setBlocking (blocking : Bool)
  | write (role : Role) (bytes : ByteArray)
  | read (role : Role) (room : Nat)
  | sendBreak (milliseconds : Nat)
  /-- Calls setters on the endpoint of a role, which may depend on the endpoint. -/
  | reconfigure (role : Role) (change : Endpoint → List Setting)
  /-- Accepts a client on the listener of a role. -/
  | accept (role : Role)
  /-- Ends the connection to the client of a role's listener. -/
  | dropClient (role : Role)

/-- Carries an operation out. Its answer does not matter here: what a failed operation leaves is a
state like any other. -/
def Operation.run (host : Host σ) (operation : Operation) (link : Link) (os : σ) : Link × σ :=
  match operation with
  | .bringUp => ((link.bringUp host os).state, (link.bringUp host os).host)
  | .disconnect => link.disconnect host os
  | .setHost hostname =>
      ((link.setHost host hostname os).state, (link.setHost host hostname os).host)
  | .setPort role port =>
      ((link.setPort host role port os).state, (link.setPort host role port os).host)
  | .setDevicePath path =>
      ((link.setDevicePath host path os).state, (link.setDevicePath host path os).host)
  | .setBlocking mode => link.setBlocking host mode os
  | .write role bytes =>
      ((link.write host role bytes os).state, (link.write host role bytes os).host)
  | .read role room => ((link.read host role room os).state, (link.read host role room os).host)
  | .sendBreak milliseconds => (link, (link.sendBreak host milliseconds os).2)
  | .reconfigure role change =>
      let outcome := (link.reconfigureWith host role
        (fun endpoint os => ((), applySettings host (change endpoint) endpoint os)) os).2
      (outcome.state, outcome.host)
  | .accept role =>
      match link.endpoint? role with
      | some (.listener l) =>
          (link.withEndpoint role (.listener (l.accept host os).state), (l.accept host os).host)
      | _ => (link, os)
  | .dropClient role =>
      match link.endpoint? role with
      | some (.listener l) =>
          (link.withEndpoint role (.listener (l.disconnectClient host os).1),
            (l.disconnectClient host os).2)
      | _ => (link, os)

/-- Carries operations out in order. -/
def runAll (host : Host σ) : List Operation → Link → σ → Link × σ
  | [], link, os => (link, os)
  | operation :: rest, link, os =>
      runAll host rest (operation.run host link os).1 (operation.run host link os).2

/-- Every operation acts on some endpoints, one after the other. -/
theorem acts_run (host : Host σ) (operation : Operation) (link : Link) (os : σ) :
    Acts (Endpoint.Steps host) link os (operation.run host link os).1
      (operation.run host link os).2 := by
  cases operation with
  | bringUp =>
    refine acts_bringUpRoles (fun endpoint os pending => .broughtUp ?_) link.topology.roles link os
    simp only [Endpoint.isPending, Bool.and_eq_true] at pending
    exact pending.1
  | disconnect => exact acts_forEach (fun _ _ => .disconnected) Role.all link os
  | setHost hostname =>
    exact (acts_setHost host hostname link.topology.roles link os).mono .tuned
  | setPort role port => exact (link.acts_setPort host role port os).mono .tuned
  | setDevicePath devicePath =>
    exact acts_setDevicePath (fun _ => .tuned (.settled [.devicePath devicePath] rfl)) link
  | setBlocking blocking =>
    exact acts_forEach (fun _ _ => .tuned (.blocking blocking)) Role.all link os
  | write role bytes =>
    simp only [Operation.run, write]
    split
    · exact .refl
    · next endpoint found => exact Acts.single found (.wrote bytes)
  | read role room =>
    simp only [Operation.run, read]
    split
    · exact .refl
    · next endpoint found => exact Acts.single found (.received room)
  | sendBreak milliseconds =>
    simp only [Operation.run, sendBreak]
    split
    · next line found =>
      have steps : Endpoint.Steps host (.serialLine line) os (.serialLine line)
          (line.sendBreak host milliseconds os).2 := .broke line rfl milliseconds
      have acts := Acts.single found steps
      rw [withEndpoint_eq_self found] at acts
      exact acts
    · exact .refl
  | reconfigure role change =>
    simp only [Operation.run, reconfigureWith]
    split
    · exact .refl
    · next endpoint found => exact Acts.single found (.tuned (.settled (change endpoint) rfl))
  | accept role =>
    simp only [Operation.run]
    split
    · next l found => exact Acts.single found (.accepted l rfl)
    · exact .refl
  | dropClient role =>
    simp only [Operation.run]
    split
    · next l found => exact Acts.single found (.dropped l rfl)
    · exact .refl

/-- The states of a link of a topology and of its host after any number of operations. -/
inductive Reachable (host : Host σ) (topology : Topology) : Link → σ → Prop
  | new (os : σ) : Reachable host topology (new topology) os
  | built {config : LinkConfig} {link : Link} {os os' : σ} (shape : config.topology = topology)
      (built : config.build host os = (.ok link, os')) : Reachable host topology link os'
  | operated {link : Link} {os : σ} (reached : Reachable host topology link os)
      (operation : Operation) :
      Reachable host topology (operation.run host link os).1 (operation.run host link os).2

theorem Reachable.runAll {host : Host σ} {topology : Topology} {link : Link} {os : σ}
    (reached : Reachable host topology link os) (operations : List Operation) :
    Reachable host topology (runAll host operations link os).1
      (runAll host operations link os).2 := by
  induction operations generalizing link os with
  | nil => exact reached
  | cons operation rest ih => exact ih (.operated reached operation)

end Link

end InstrumentLink
