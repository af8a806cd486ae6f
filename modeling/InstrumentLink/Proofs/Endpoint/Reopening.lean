import InstrumentLink.Proofs.Endpoint.BringUp
import InstrumentLink.Proofs.Host.Scope

/-!
# Settling a change

A change of an endpoint's configuration is of no consequence while the endpoint is down, or stays
what it was. Otherwise the old handles are closed first, and then the endpoint is up on one new
handle that was opened for what it is now, or it is down. Whatever is open and not the endpoint's
own is not touched.
-/

namespace InstrumentLink

variable {σ : Type}

private theorem applySettings_keeps {host : Host σ} {P : σ → Prop}
    (blocking : ∀ h mode os, P os → P (host.setBlocking h mode os).2)
    (timeout : ∀ h wait os, P os → P (host.setTimeout h wait os).2)
    (settings : List Setting) (endpoint : Endpoint) {os : σ} (holds : P os) :
    P (applySettings host settings endpoint os).2 := by
  have held_blocking (held : Option Handle) (mode : Bool) {os : σ} (holds : P os) :
      P (host.setHeldBlocking held mode os) := by
    cases held with
    | none => exact holds
    | some h => exact blocking h mode os holds
  have held_timeout (held : Option Handle) (wait : LineTimeout) {os : σ} (holds : P os) :
      P (host.setHeldTimeout held wait os) := by
    cases held with
    | none => exact holds
    | some h => exact timeout h wait os holds
  induction settings generalizing endpoint os with
  | nil => exact holds
  | cons setting rest ih =>
    apply ih
    cases setting with
    | blocking mode =>
      cases endpoint with
      | tcpClient client => exact held_blocking client.stream mode holds
      | udpClient client => exact held_blocking client.socket mode holds
      | listener l => exact held_blocking l.client mode (held_blocking l.socket mode holds)
      | serialLine line => exact held_timeout line.port (.ofBlocking mode) holds
    | _ => cases endpoint <;> exact holds

namespace Watched

/-- Nothing was opened or closed between two states. -/
def SameRecord (before after : Watched σ) : Prop :=
  after.closed = before.closed ∧ after.ledger.entries = before.ledger.entries

variable {before after : Watched σ} (same : before.SameRecord after)

include same

private theorem SameRecord.opening?_eq (h : Handle) :
    after.ledger.opening? h = before.ledger.opening? h := by
  rw [Ledger.opening?, same.2]
  rfl

private theorem SameRecord.isOpen_iff (h : Handle) : after.IsOpen h ↔ before.IsOpen h := by
  rw [IsOpen, same.opening?_eq, same.1]
  rfl

private theorem SameRecord.custody_holds {held : List Handle} (holds : custody.Holds before held) :
    custody.Holds after held := by
  change (after.closed ++ held).Perm after.ledger.handles
  rw [Ledger.handles, same.1, same.2]
  exact holds

end Watched

/-- Calling setters opens and closes nothing. -/
theorem sameRecord_applySettings (host : Host σ) (settings : List Setting) (endpoint : Endpoint)
    (watched : Watched σ) :
    watched.SameRecord (applySettings host.watched settings endpoint watched).2 :=
  applySettings_keeps (P := watched.SameRecord) (fun _ _ _ same => same) (fun _ _ _ same => same)
    settings endpoint ⟨rfl, rfl⟩

namespace Endpoint

variable {host : Host σ} {before after : Endpoint} {watched : Watched σ}

private theorem closed_of_reopens (host : Host σ) (reopens : before.Reopens after)
    (watched : Watched σ) :
    (watched.closed ++ after.handles.reverse) <+:
      (before.reopenIfChanged host.watched after watched).host.closed := by
  have ended := after.closed_disconnect host watched
  rw [reopenIfChanged_of_reopens reopens, ← ended]
  split
  · exact host.keeps_closed.of_exchanges ((host.keeps_closed.respects _).bringUp after.down _)
  · exact List.prefix_rfl

private theorem opening?_eq_none_of_reopens (host : Host σ) (reopens : before.Reopens after)
    {h : Handle} (mem : h ∈ (before.reopenIfChanged host.watched after watched).state.handles) :
    watched.ledger.opening? h = none := by
  rw [reopenIfChanged_of_reopens reopens] at mem
  split at mem
  · -- nothing is one's own once the endpoint is disconnected
    have ended := (host.respects_scope watched after.handles).disconnect after watched
    have grown := (ended [] (by simpa using watched.scope_holds after.handles)).1
    generalize (after.disconnect host.watched watched).2 = between at grown mem
    have opening := (host.respects_scope between []).bringUp after.down between
    rw [handles_down] at opening
    have bounded := (opening [] (between.scope_holds [])).2.1
    rcases bounded h (List.mem_append_left _ mem) with own | new
    · cases own
    · exact grown.opening?_eq_none new
  · rw [handles_down] at mem
    cases mem

private theorem isOpen_reopenIfChanged (host : Host σ) (before after : Endpoint) {h : Handle}
    (opened : watched.IsOpen h) (other : h ∉ after.handles) :
    (before.reopenIfChanged host.watched after watched).host.IsOpen h := by
  have touched :=
    (host.respects_scope watched after.handles).reopenIfChanged before after watched
  exact (touched [] (by simpa using watched.scope_holds after.handles)).2.2 h opened other

/-- How a change is settled that makes an endpoint another one. -/
structure Settles (before changed : Endpoint) (watched : Watched σ)
    (outcome : Outcome (Watched σ) Endpoint Bool) : Prop where
  /-- The answer is `true` exactly if the endpoint was up as something else, and is now up on a new
  handle that was opened for its new identity. -/
  reopened_iff : outcome.answer = .ok true ↔ before.Reopens changed ∧
    ∃ h, outcome.state = changed.opened h ∧ watched.ledger.opening? h = none ∧
      outcome.host.ledger.OpenedFor h changed.identity
  released : before.Reopens changed →
    (watched.closed ++ before.handles.reverse) <+: outcome.host.closed
  /-- Otherwise the endpoint is down: it is not configured any more, its device could not be opened,
  or there was a fault. -/
  down : before.Reopens changed → outcome.answer ≠ .ok true →
    outcome.state.handles = [] ∧ outcome.state.isUp = false ∧ outcome.state.isConnected = false ∧
      (outcome.answer = .ok false ∧ changed.isConfigured = false ∧ outcome.state = changed.down ∨
        outcome.answer = .ok false ∧ changed.kind = .serialLine ∧
          outcome.state = changed.disarmed ∨
        ∃ fault, outcome.answer = .error fault ∧ fault.IsOpening ∧ outcome.state = changed.down)
  identity_eq : outcome.state.identity = changed.identity
  blocking_eq : outcome.state.blocking = changed.blocking
  /-- A change of no consequence opens and closes nothing. -/
  kept : ¬before.Reopens changed →
    outcome.answer = .ok false ∧ outcome.state = changed ∧ watched.SameRecord outcome.host
  others_open : ∀ h, watched.IsOpen h → h ∉ before.handles → outcome.host.IsOpen h
  /-- When all that is open is held, nothing else is open afterwards. -/
  accounts : ∀ others, Watched.custody.Holds watched (before.handles ++ others) →
    ∀ h, outcome.host.IsOpen h ↔
      h ∈ outcome.state.handles ∨ watched.IsOpen h ∧ h ∉ before.handles

theorem Settles.of_sameRecord {changed : Endpoint} {between : Watched σ}
    {outcome : Outcome (Watched σ) Endpoint Bool} (same : watched.SameRecord between)
    (settles : Settles before changed between outcome) :
    Settles before changed watched outcome where
  reopened_iff := by
    simp only [settles.reopened_iff, same.opening?_eq]
  released := by
    rw [← same.1]
    exact settles.released
  down := settles.down
  identity_eq := settles.identity_eq
  blocking_eq := settles.blocking_eq
  kept := by
    intro unchanged
    obtain ⟨answered, state_eq, later⟩ := settles.kept unchanged
    exact ⟨answered, state_eq, later.1.trans same.1, later.2.trans same.2⟩
  others_open := fun h opened => settles.others_open h ((same.isOpen_iff h).mpr opened)
  accounts := by
    intro others holds h
    rw [settles.accounts others (same.custody_holds holds), same.isOpen_iff]

private theorem ne_opened_of_handles_eq_nil {endpoint other : Endpoint}
    (bare : endpoint.handles = []) (h : Handle) : endpoint ≠ other.opened h := by
  rintro rfl
  rw [handles_opened] at bare
  cases bare

private theorem reopened_iff_of_reopenIfChanged (host : Host σ) (before changed : Endpoint)
    (watched : Watched σ) :
    let outcome := before.reopenIfChanged host.watched changed watched
    outcome.answer = .ok true ↔ before.Reopens changed ∧
      ∃ h, outcome.state = changed.opened h ∧ watched.ledger.opening? h = none ∧
        outcome.host.ledger.OpenedFor h changed.identity := by
  intro outcome
  have led : Resettled host.watched before changed watched outcome := resettled _ _ _ _
  have new (reopens : before.Reopens changed) (h : Handle) (mem : h ∈ outcome.state.handles) :
      watched.ledger.opening? h = none := opening?_eq_none_of_reopens host reopens mem
  generalize outcome = settled at led new
  cases led with
  | kept same => simp [same]
  | left reopens lacking =>
    refine iff_of_false (by simp) ?_
    rintro ⟨-, h, same, -⟩
    exact ne_opened_of_handles_eq_nil changed.handles_down h same
  | opened reopens h between after opens =>
    refine iff_of_true rfl ⟨reopens, h, rfl, new reopens h ?_, ?_⟩
    · rw [handles_opened]
      exact List.mem_singleton_self h
    · rw [← changed.identity_down]
      exact openedFor_of_opens_watched opens
  | failed reopens fault after opening =>
    refine iff_of_false (by simp) ?_
    rintro ⟨-, h, same, -⟩
    exact ne_opened_of_handles_eq_nil changed.handles_down h same
  | disarmed reopens after serial =>
    refine iff_of_false (by simp) ?_
    rintro ⟨-, h, same, -⟩
    exact ne_opened_of_handles_eq_nil (handles_disarmed serial) h same

private theorem Resettled.down_of_ne {host : Host σ} {before changed : Endpoint} {os : σ}
    {outcome : Outcome σ Endpoint Bool} (led : Resettled host before changed os outcome)
    (reopens : before.Reopens changed) (failed : outcome.answer ≠ .ok true) :
    outcome.state.handles = [] ∧
      (outcome.answer = .ok false ∧ changed.isConfigured = false ∧ outcome.state = changed.down ∨
        outcome.answer = .ok false ∧ changed.kind = .serialLine ∧
          outcome.state = changed.disarmed ∨
        ∃ fault, outcome.answer = .error fault ∧ fault.IsOpening ∧
          outcome.state = changed.down) := by
  cases led with
  | kept same => exact absurd reopens same
  | left reopens lacking => exact ⟨changed.handles_down, Or.inl ⟨rfl, lacking, rfl⟩⟩
  | opened reopens h between after opens => exact absurd rfl failed
  | failed reopens fault after opening =>
    exact ⟨changed.handles_down, Or.inr (Or.inr ⟨fault, rfl, opening, rfl⟩)⟩
  | disarmed reopens after serial =>
    exact ⟨handles_disarmed serial, Or.inr (Or.inl ⟨rfl, serial, rfl⟩)⟩

private theorem blocking_reopenIfChanged (host : Host σ) (before changed : Endpoint) (os : σ) :
    (before.reopenIfChanged host changed os).state.blocking = changed.blocking := by
  have led := resettled host before changed os
  generalize before.reopenIfChanged host changed os = outcome at led
  cases led with
  | kept same => rfl
  | left reopens lacking => exact changed.blocking_down
  | opened reopens h between after opens => exact changed.blocking_opened h
  | failed reopens fault after opening => exact changed.blocking_down
  | disarmed reopens after serial => exact changed.blocking_disarmed

/-- Settling a change of an endpoint is all of it or leaves the endpoint down. -/
theorem reopenIfChanged_settles (host : Host σ) {before changed : Endpoint}
    (same_handles : changed.handles = before.handles) (watched : Watched σ) :
    Settles before changed watched (before.reopenIfChanged host.watched changed watched) where
  reopened_iff := reopened_iff_of_reopenIfChanged host before changed watched
  released := by
    rw [← same_handles]
    exact fun reopens => closed_of_reopens host reopens watched
  down := by
    intro reopens failed
    obtain ⟨bare, reason⟩ :=
      (resettled host.watched before changed watched).down_of_ne reopens failed
    exact ⟨bare, isUp_eq_false_of_handles_eq_nil bare,
      isConnected_eq_false_of_handles_eq_nil bare, reason⟩
  identity_eq := identity_reopenIfChanged host.watched before changed watched
  blocking_eq := blocking_reopenIfChanged host.watched before changed watched
  kept := by
    intro same
    rw [reopenIfChanged_of_not_reopens same]
    exact ⟨rfl, rfl, rfl, rfl⟩
  others_open := by
    rw [← same_handles]
    exact fun _ opened other => isOpen_reopenIfChanged host before changed opened other
  accounts := by
    rw [← same_handles]
    exact fun others holds h => Watched.isOpen_iff_of_exchanged holds
      (host.respects_watched.reopenIfChanged before changed watched others holds) h

end Endpoint

end InstrumentLink
