import InstrumentLink.Proofs.Endpoint.Setting

namespace InstrumentLink

variable {σ : Type}

namespace Endpoint

/-- A change of an endpoint's configuration that is settled, or of its blocking mode alone. -/
inductive Tunes (host : Host σ) (endpoint : Endpoint) (os : σ) : Endpoint → σ → Prop
  | settled (settings : List Setting) {after : Endpoint} {between : σ}
      (changed : applySettings host settings endpoint os = (after, between)) :
      Tunes host endpoint os (endpoint.reopenIfChanged host after between).state
        (endpoint.reopenIfChanged host after between).host
  | blocking (blocking : Bool) :
      Tunes host endpoint os (endpoint.setBlocking host blocking os).1
        (endpoint.setBlocking host blocking os).2

/-- What an operation on a link can do to one of its endpoints. -/
inductive Steps (host : Host σ) (endpoint : Endpoint) (os : σ) : Endpoint → σ → Prop
  | tuned {after : Endpoint} {os' : σ} (tunes : endpoint.Tunes host os after os') :
      Steps host endpoint os after os'
  | broughtUp (configured : endpoint.isConfigured = true) :
      Steps host endpoint os (endpoint.bringUp host os).state (endpoint.bringUp host os).host
  | disconnected :
      Steps host endpoint os (endpoint.disconnect host os).1 (endpoint.disconnect host os).2
  | wrote (bytes : ByteArray) :
      Steps host endpoint os (endpoint.write host bytes os).state
        (endpoint.write host bytes os).host
  | received (room : Nat) :
      Steps host endpoint os (endpoint.read host room os).state (endpoint.read host room os).host
  | accepted (l : Listener) (same : endpoint = .listener l) :
      Steps host endpoint os (.listener (l.accept host os).state) (l.accept host os).host
  | dropped (l : Listener) (same : endpoint = .listener l) :
      Steps host endpoint os (.listener (l.disconnectClient host os).1)
        (l.disconnectClient host os).2
  | broke (line : SerialLine) (same : endpoint = .serialLine line) (milliseconds : Nat) :
      Steps host endpoint os endpoint (line.sendBreak host milliseconds os).2

@[simp] theorem kind_cut (endpoint : Endpoint) : endpoint.cut.kind = endpoint.kind := by
  cases endpoint <;> rfl

@[simp] theorem opened_down (endpoint : Endpoint) (h : Handle) :
    endpoint.down.opened h = endpoint.opened h := by
  cases endpoint <;> rfl

@[simp] theorem disarmed_down (endpoint : Endpoint) :
    endpoint.down.disarmed = endpoint.disarmed := by
  cases endpoint <;> rfl

/-- The endpoint was up as something else than it is after a change. -/
def Reopens (before after : Endpoint) : Prop :=
  before.isUp = true ∧ after.identity ≠ before.identity

private theorem not_reopens_iff {before after : Endpoint} :
    ¬before.Reopens after ↔ before.isUp = false ∨ after.identity = before.identity := by
  rw [Reopens, Decidable.not_and_iff_not_or_not, Bool.not_eq_true, ne_eq, Decidable.not_not]

/-- What settling a change can lead to. -/
inductive Resettled (host : Host σ) (before after : Endpoint) (os : σ) :
    Outcome σ Endpoint Bool → Prop
  | kept (same : ¬before.Reopens after) : Resettled host before after os ⟨.ok false, after, os⟩
  /-- The endpoint is not configured any more. -/
  | left (reopens : before.Reopens after) (lacking : after.isConfigured = false) :
      Resettled host before after os ⟨.ok false, after.down, (after.disconnect host os).2⟩
  | opened (reopens : before.Reopens after) (h : Handle) (between os' : σ)
      (opens : after.down.Opens host between h os') :
      Resettled host before after os ⟨.ok true, after.opened h, os'⟩
  | failed (reopens : before.Reopens after) (fault : Fault) (os' : σ) (opening : fault.IsOpening) :
      Resettled host before after os ⟨.error fault, after.down, os'⟩
  /-- A device could not be opened. -/
  | disarmed (reopens : before.Reopens after) (os' : σ) (serial : after.kind = .serialLine) :
      Resettled host before after os ⟨.ok false, after.disarmed, os'⟩

theorem reopenIfChanged_of_reopens {before after : Endpoint} (reopens : before.Reopens after)
    (host : Host σ) (os : σ) :
    before.reopenIfChanged host after os =
      if after.isConfigured then after.down.bringUp host (after.disconnect host os).2
      else ⟨.ok false, after.down, (after.disconnect host os).2⟩ := by
  unfold reopenIfChanged
  rw [if_neg fun same => not_reopens_iff.mpr same reopens]
  dsimp only
  rw [disconnect_fst, isConfigured_down]

theorem reopenIfChanged_of_not_reopens {before after : Endpoint} (same : ¬before.Reopens after)
    (host : Host σ) (os : σ) : before.reopenIfChanged host after os = ⟨.ok false, after, os⟩ :=
  if_pos (not_reopens_iff.mp same)

theorem resettled (host : Host σ) (before after : Endpoint) (os : σ) :
    Resettled host before after os (before.reopenIfChanged host after os) := by
  by_cases reopens : before.Reopens after
  · rw [reopenIfChanged_of_reopens reopens]
    split
    · next configured =>
      have led := after.down.broughtUp host (after.disconnect host os).2
      generalize after.down.bringUp host (after.disconnect host os).2 = outcome at led
      cases led with
      | refused detail lacking =>
        rw [isComplete_of_isConfigured (after.isConfigured_down.trans configured)] at lacking
        cases lacking
      | opened h between os' complete opens =>
        rw [opened_down]
        exact .opened reopens h between os' opens
      | failed fault os' complete opening =>
        rw [down_down]
        exact .failed reopens fault os' opening
      | disarmed os' complete serial =>
        rw [disarmed_down]
        refine .disarmed reopens os' ?_
        rw [kind_eq, ← identity_down, ← kind_eq]
        exact serial
    · next lacking => exact .left reopens (eq_false_of_ne_true lacking)
  · rw [reopenIfChanged_of_not_reopens reopens]
    exact .kept reopens

theorem identity_reopenIfChanged (host : Host σ) (before after : Endpoint) (os : σ) :
    (before.reopenIfChanged host after os).state.identity = after.identity := by
  have led := resettled host before after os
  generalize before.reopenIfChanged host after os = outcome at led
  cases led with
  | kept same => rfl
  | left reopens lacking => exact after.identity_down
  | opened reopens h between os' opens => exact after.identity_opened h
  | failed reopens fault os' opening => exact after.identity_down
  | disarmed reopens os' serial => exact after.identity_disarmed

theorem Tunes.kind_eq {host : Host σ} {endpoint after : Endpoint} {os os' : σ}
    (tunes : endpoint.Tunes host os after os') : after.kind = endpoint.kind := by
  cases tunes with
  | @settled settings after between changed =>
    have retuned := retuned_applySettings host settings endpoint os
    rw [changed] at retuned
    rw [Endpoint.kind_eq, identity_reopenIfChanged, ← Endpoint.kind_eq, retuned.kind_eq]
  | blocking mode =>
    rw [setBlocking_fst]
    exact (endpoint.retuned_withBlocking mode).kind_eq

theorem Tunes.handles_eq_nil {host : Host σ} {endpoint after : Endpoint} {os os' : σ}
    (tunes : endpoint.Tunes host os after os') (bare : endpoint.handles = []) :
    after.handles = [] := by
  cases tunes with
  | @settled settings after between changed =>
    have retuned := retuned_applySettings host settings endpoint os
    rw [changed] at retuned
    have down : endpoint.isUp = false := isUp_eq_false_of_handles_eq_nil bare
    rw [reopenIfChanged_of_not_reopens (not_reopens_iff.mpr (Or.inl down))]
    exact retuned.handles_eq.trans bare
  | blocking mode =>
    rw [setBlocking_fst, (endpoint.retuned_withBlocking mode).handles_eq]
    exact bare

theorem Steps.kind_eq {host : Host σ} {endpoint after : Endpoint} {os os' : σ}
    (steps : endpoint.Steps host os after os') : after.kind = endpoint.kind := by
  cases steps with
  | tuned tunes => exact tunes.kind_eq
  | broughtUp configured => rw [Endpoint.kind_eq, identity_bringUp, ← Endpoint.kind_eq]
  | disconnected => rw [disconnect_fst, Endpoint.kind_eq, identity_down, ← Endpoint.kind_eq]
  | wrote bytes =>
    exact endpoint.state_write_of (P := (·.kind = endpoint.kind)) host bytes os rfl
      endpoint.kind_cut
  | received room =>
    exact endpoint.state_read_of (P := (·.kind = endpoint.kind)) host room os rfl endpoint.kind_cut
  | accepted l same =>
    rw [same]
    rfl
  | dropped l same =>
    rw [same]
    rfl
  | broke line same milliseconds => rfl

end Endpoint

end InstrumentLink
