import InstrumentLink.Proofs.Endpoint.BringUp
import InstrumentLink.Proofs.Endpoint.Settling
import InstrumentLink.Proofs.Link.Tuning
import InstrumentLink.Proofs.Program.Step

namespace InstrumentLink

variable {σ : Type}

namespace Endpoint

def Action.flag? : Action → Option Bool
  | .operate (.set setting) => setting.flag?
  | .operate _ => none
  | .replace _ mode => some mode

theorem template_eq_iff {a b : Endpoint} :
    a.template = b.template ↔ a.identity = b.identity ∧ a.blocking = b.blocking := by
  constructor
  · intro same
    rw [← identity_template a, ← identity_template b, ← blocking_template a, ← blocking_template b,
      same]
    exact ⟨rfl, rfl⟩
  · rintro ⟨same_identity, same_blocking⟩
    rw [template_eq_new, template_eq_new b, same_identity, same_blocking]

/-- The operation works with the handles, and chooses nothing about the endpoint. -/
def Operation.isPlain : Operation → Bool
  | .set _ => false
  | .bringUp | .attach | .disconnect | .dropClient | .write _ | .read _ | .sendBreak _ => true

section Plain

variable (host : Host σ) (endpoint : Endpoint) (os : σ)

private theorem template_attach : (endpoint.attach host os).state.template = endpoint.template := by
  cases endpoint with
  | listener l =>
    have led := l.accepted host os
    rw [attach, Outcome.state_inState]
    generalize l.accept host os = outcome at led
    cases led <;> rfl
  | _ => exact template_bringUp host _ os

/-- Whatever the host answers, a plain operation leaves the configuration and the blocking mode. -/
theorem Operation.template_run {operation : Operation} (plain : operation.isPlain = true) :
    (operation.run host endpoint os).state.template = endpoint.template := by
  cases operation with
  | set setting => cases plain
  | bringUp => exact template_bringUp host endpoint os
  | attach => exact template_attach host endpoint os
  | disconnect => cases endpoint <;> rfl
  | dropClient => cases endpoint <;> rfl
  | write bytes =>
    exact endpoint.state_write_of (P := (·.template = endpoint.template)) host bytes os rfl
      endpoint.template_cut
  | read room =>
    exact endpoint.state_read_of (P := (·.template = endpoint.template)) host room os rfl
      endpoint.template_cut
  | sendBreak milliseconds => cases endpoint <;> rfl

private theorem Action.blocking_run (action : Action) :
    (action.run host endpoint os).1.blocking = action.flag?.getD endpoint.blocking := by
  cases action with
  | operate operation =>
    cases operation with
    | set setting => exact blocking_apply host setting endpoint os
    | _ => exact (template_eq_iff.mp (Operation.template_run host endpoint os rfl)).2
  | replace identity mode => cases identity <;> rfl

end Plain

/-- Some actions are carried out on an endpoint, and they choose no other blocking modes than
these. -/
inductive Acted (host : Host σ) (modes : Bool → Prop) (endpoint : Endpoint) (os : σ) :
    Endpoint → σ → Prop
  | refl : Acted host modes endpoint os endpoint os
  | tail {between : Endpoint} {os' : σ} (acted : Acted host modes endpoint os between os')
      (action : Action) (chooses : ∀ mode ∈ action.flag?, modes mode) :
      Acted host modes endpoint os (action.run host between os').1 (action.run host between os').2

section Acted

variable {host : Host σ} {modes : Bool → Prop} {endpoint after : Endpoint} {os os' : σ}

private theorem Acted.single (action : Action) (chooses : ∀ mode ∈ action.flag?, modes mode) :
    Acted host modes endpoint os (action.run host endpoint os).1 (action.run host endpoint os).2 :=
  .tail .refl action chooses

private theorem Acted.plain (action : Action) (chooses_none : action.flag? = none) :
    Acted host modes endpoint os (action.run host endpoint os).1 (action.run host endpoint os).2 :=
  .single action (by simp [chooses_none])

theorem Acted.trans {last : Endpoint} {os'' : σ} (acted : Acted host modes endpoint os after os')
    (later : Acted host modes after os' last os'') : Acted host modes endpoint os last os'' := by
  induction later with
  | refl => exact acted
  | tail _ action chooses ih => exact .tail ih action chooses

private theorem acted_applySettings (host : Host σ) {settings : List Setting}
    (chooses : ∀ setting ∈ settings, ∀ mode ∈ setting.flag?, modes mode) (endpoint : Endpoint)
    (os : σ) :
    Acted host modes endpoint os (applySettings host settings endpoint os).1
      (applySettings host settings endpoint os).2 := by
  induction settings generalizing endpoint os with
  | nil => exact .refl
  | cons setting rest ih =>
    have first : Acted host modes endpoint os (setting.apply host endpoint os).1
        (setting.apply host endpoint os).2 :=
      .single (.operate (.set setting)) (chooses setting List.mem_cons_self)
    exact first.trans (ih (fun other mem => chooses other (List.mem_cons_of_mem _ mem)) _ _)

private theorem acted_actAll (host : Host σ) {actions : List Action}
    (chooses : ∀ action ∈ actions, ∀ mode ∈ action.flag?, modes mode) (endpoint : Endpoint)
    (os : σ) :
    Acted host modes endpoint os (endpoint.actAll host actions os).1
      (endpoint.actAll host actions os).2 := by
  induction actions generalizing endpoint os with
  | nil => exact .refl
  | cons action rest ih =>
    have first : Acted host modes endpoint os (action.run host endpoint os).1
        (action.run host endpoint os).2 := .single action (chooses action List.mem_cons_self)
    exact first.trans (ih (fun other mem => chooses other (List.mem_cons_of_mem _ mem)) _ _)

private theorem acted_reopenIfChanged (host : Host σ) (before after : Endpoint) (os : σ) :
    Acted host modes after os (before.reopenIfChanged host after os).state
      (before.reopenIfChanged host after os).host := by
  have ended :
      Acted host modes after os (after.disconnect host os).1 (after.disconnect host os).2 :=
    .plain (.operate .disconnect) rfl
  unfold reopenIfChanged
  split
  · exact .refl
  · dsimp only
    split
    · exact ended.trans (.plain (.operate .bringUp) rfl)
    · exact ended

private theorem acted_settled {settings : List Setting}
    (called : applySettings host settings endpoint os = (after, os'))
    (chooses : ∀ setting ∈ settings, ∀ mode ∈ setting.flag?, modes mode) :
    Acted host modes endpoint os (endpoint.reopenIfChanged host after os').state
      (endpoint.reopenIfChanged host after os').host := by
  have acted := acted_applySettings host chooses endpoint os
  rw [called] at acted
  exact acted.trans (acted_reopenIfChanged host endpoint after os')

private theorem Acted.blocking_eq {mode : Bool}
    (acted : Acted host (· = mode) endpoint os after os')
    (same : endpoint.blocking = mode) : after.blocking = mode := by
  induction acted with
  | refl => exact same
  | @tail between os'' acted action chooses ih =>
    rw [Action.blocking_run host between os'' action]
    cases chosen : action.flag? with
    | none => exact ih
    | some other => exact chooses other chosen

end Acted

end Endpoint

namespace Link

/-- An operation chooses no other blocking modes than these. -/
def Operation.Chooses (modes : Bool → Prop) : Operation → Prop
  | .setBlocking mode => modes mode
  | .reconfigure _ change =>
      ∀ endpoint, ∀ setting ∈ change endpoint, ∀ mode ∈ setting.flag?, modes mode
  | _ => True

theorem Operation.chooses_any (operation : Operation) : operation.Chooses fun _ => True := by
  cases operation <;> simp [Chooses]

variable {modes : Bool → Prop}

theorem acts_of_chooses (host : Host σ) {operation : Operation} (chooses : operation.Chooses modes)
    (link : Link) (os : σ) :
    Acts (Endpoint.Acted host modes) link os (operation.run host link os).1
      (operation.run host link os).2 := by
  cases operation with
  | bringUp =>
    exact acts_bringUpRoles (fun _ _ _ => .plain (.operate .bringUp) rfl)
      link.topology.roles link os
  | disconnect => exact acts_forEach (fun _ _ => .plain (.operate .disconnect) rfl) Role.all link os
  | setHost hostname =>
    refine acts_setHostOf (fun endpoint os => ?_) link.topology.roles link os
    have called : applySettings host [.hostname hostname] endpoint os =
        (endpoint.setHostname hostname, os) := rfl
    exact Endpoint.acted_settled called (by simp [Setting.flag?])
  | setPort role port =>
    refine acts_reconfigure (fun endpoint => ?_) link role
    obtain ⟨settings, called, plain⟩ := endpoint.exists_settings_setPort host role port os
    exact Endpoint.acted_settled called (fun setting mem => by simp [plain setting mem])
  | setDevicePath devicePath =>
    refine acts_setDevicePath (fun endpoint => ?_) link
    have called : applySettings host [.devicePath devicePath] endpoint os =
        (endpoint.setDevicePath devicePath, os) := rfl
    exact Endpoint.acted_settled called (by simp [Setting.flag?])
  | setBlocking mode =>
    have chosen : modes mode := chooses
    refine acts_forEach (fun endpoint os => ?_) Role.all link os
    exact .single (.operate (.set (.blocking mode)))
      (by simpa [Endpoint.Action.flag?, Setting.flag?])
  | write role bytes =>
    simp only [Operation.run, write]
    split
    · exact .refl
    · next endpoint found => exact Acts.single found (.plain (.operate (.write bytes)) rfl)
  | read role room =>
    simp only [Operation.run, read]
    split
    · exact .refl
    · next endpoint found => exact Acts.single found (.plain (.operate (.read room)) rfl)
  | sendBreak milliseconds =>
    simp only [Operation.run, sendBreak]
    split
    · next line found =>
      have broke : Endpoint.Acted host modes (.serialLine line) os (.serialLine line)
          (line.sendBreak host milliseconds os).2 := .plain (.operate (.sendBreak milliseconds)) rfl
      have acts := Acts.single found broke
      rw [withEndpoint_eq_self found] at acts
      exact acts
    · exact .refl
  | reconfigure role change =>
    simp only [Operation.run, reconfigureWith]
    split
    · exact .refl
    · next endpoint found =>
      exact Acts.single found (Endpoint.acted_settled rfl (chooses endpoint))
  | accept role =>
    simp only [Operation.run]
    split
    · next l found => exact Acts.single found (.plain (.operate .attach) rfl)
    · exact .refl
  | dropClient role =>
    simp only [Operation.run]
    split
    · next l found => exact Acts.single found (.plain (.operate .dropClient) rfl)
    · exact .refl

def HasFlag (link : Link) (mode : Bool) : Prop :=
  ∀ role endpoint, link.endpoint? role = some endpoint → endpoint.blocking = mode

theorem hasFlag_setBlocking (host : Host σ) (link : Link) (mode : Bool) (os : σ) :
    (link.setBlocking host mode os).1.HasFlag mode := by
  intro role endpoint found
  rw [endpoint?_setBlocking, Option.map_eq_some_iff] at found
  obtain ⟨before, -, rfl⟩ := found
  cases before <;> rfl

theorem HasFlag.acts {link link' : Link} {mode : Bool} {os os' : σ} (flags : link.HasFlag mode)
    (acts : Acts (Endpoint.Acted host (· = mode)) link os link' os') : link'.HasFlag mode :=
  acts.forall_endpoints (P := fun endpoint _ => endpoint.blocking = mode)
    (fun acted same => acted.blocking_eq same) (fun _ _ same => same) flags

end Link

namespace Owner

/-- A change of a link chooses no other blocking modes than these, and leaves the link in place. -/
def Change.Chooses (modes : Bool → Prop) : Change → Prop
  | .replace _ => False
  | .act _ => True
  | .actOn _ action => ∀ mode ∈ action.flag?, modes mode
  | .operate operation => operation.Chooses modes
  | .reconfigure _ actions => ∀ action ∈ actions, ∀ mode ∈ action.flag?, modes mode

theorem exists_acts_of_chooses {modes : Bool → Prop} (host : Host σ) {change : Change}
    (chooses : change.Chooses modes) (link : Link) (os : σ) :
    ∃ link' os', change.run host (.link link) os = (.link link', os') ∧
      Link.Acts (Endpoint.Acted host modes) link os link' os' := by
  cases change with
  | replace design => exact chooses.elim
  | act action => exact ⟨link, os, rfl, .refl⟩
  | actOn role action =>
    simp only [Change.run]
    split
    · exact ⟨link, os, rfl, .refl⟩
    · next endpoint found => exact ⟨_, _, rfl, Link.Acts.single found (.single action chooses)⟩
  | operate operation => exact ⟨_, _, rfl, Link.acts_of_chooses host chooses link os⟩
  | reconfigure role actions =>
    simp only [Change.run, Link.reconfigureWith]
    split
    · exact ⟨link, os, rfl, .refl⟩
    · next endpoint found =>
      have acted := Endpoint.acted_actAll host chooses endpoint os
      exact ⟨_, _, rfl, Link.Acts.single found
        (acted.trans (Endpoint.acted_reopenIfChanged host endpoint _ _))⟩

end Owner

end InstrumentLink
