import InstrumentLink.Proofs.Endpoint.Setting

namespace InstrumentLink

variable {σ : Type}

namespace Endpoint

/-- The endpoint is not a line whose device could not be opened. -/
def isArmed : Endpoint → Bool
  | serialLine line => line.armed
  | _ => true

/-- An endpoint that never failed to open: it is armed and, while it is up, configured. -/
structure Settled (endpoint : Endpoint) : Prop where
  armed : endpoint.isArmed = true
  configured : endpoint.isUp = true → endpoint.isConfigured = true

/-- A change of nothing but the configuration. -/
structure PlainChange (change : Endpoint → Endpoint) : Prop where
  retuned : ∀ endpoint : Endpoint, endpoint.Retuned (change endpoint)
  template : ∀ endpoint : Endpoint, (change endpoint).template = change endpoint.template
  armed : ∀ endpoint : Endpoint, endpoint.isArmed = true → (change endpoint).isArmed = true

/-- What the attempt answers that settles a change, if there is one to make. -/
def reopening? (host : Host σ) (before after : Endpoint) (os : σ) : Option (Except Fault Bool) :=
  if before.isUp = false ∨ after.identity = before.identity then none
  else if after.isConfigured then
    some (after.down.bringUp host (after.disconnect host os).2).answer
  else none

@[simp] theorem template_down (endpoint : Endpoint) :
    endpoint.down.template = endpoint.template := by
  cases endpoint <;> rfl

@[simp] theorem template_opened (endpoint : Endpoint) (h : Handle) :
    (endpoint.opened h).template = endpoint.template := by
  cases endpoint <;> rfl

private theorem template_disarmed (endpoint : Endpoint) :
    endpoint.disarmed.template = endpoint.template := by
  cases endpoint <;> rfl

theorem template_cut (endpoint : Endpoint) : endpoint.cut.template = endpoint.template := by
  cases endpoint <;> rfl

theorem template_bringUp (host : Host σ) (endpoint : Endpoint) (os : σ) :
    (endpoint.bringUp host os).state.template = endpoint.template := by
  have led := endpoint.broughtUp host os
  generalize endpoint.bringUp host os = outcome at led
  cases led with
  | refused detail lacking => rfl
  | opened h before after complete opens => exact endpoint.template_opened h
  | failed fault after complete opening => exact endpoint.template_down
  | disarmed after complete serial => exact endpoint.template_disarmed

@[simp] theorem kind_template (endpoint : Endpoint) : endpoint.template.kind = endpoint.kind := by
  cases endpoint <;> rfl

@[simp] theorem identity_template (endpoint : Endpoint) :
    endpoint.template.identity = endpoint.identity := by
  cases endpoint <;> rfl

@[simp] theorem blocking_template (endpoint : Endpoint) :
    endpoint.template.blocking = endpoint.blocking := by
  cases endpoint <;> rfl

theorem template_withBlocking (endpoint : Endpoint) (blocking : Bool) :
    (endpoint.withBlocking blocking).template = endpoint.template.withBlocking blocking := by
  cases endpoint <;> rfl

private theorem isConfigured_template {endpoint : Endpoint} (armed : endpoint.isArmed = true) :
    endpoint.template.isConfigured = endpoint.isConfigured := by
  cases endpoint with
  | serialLine line =>
    have line_armed : line.armed = true := armed
    simp [template, SerialLine.template, isConfigured, SerialLine.isConfigured, line_armed]
  | _ => rfl

private theorem isArmed_opened {endpoint : Endpoint} (h : Handle)
    (armed : endpoint.isArmed = true) :
    (endpoint.opened h).isArmed = true := by
  cases endpoint with
  | serialLine line => rfl
  | _ => exact armed

theorem settled_down {endpoint : Endpoint} (armed : endpoint.isArmed = true) :
    endpoint.down.Settled where
  armed := by cases endpoint <;> exact armed
  configured up := by
    rw [isUp_down] at up
    cases up

theorem settled_opened {endpoint : Endpoint} (h : Handle) (armed : endpoint.isArmed = true)
    (complete : endpoint.isComplete = true) : (endpoint.opened h).Settled where
  armed := isArmed_opened h armed
  configured _ := isConfigured_opened h complete

theorem Settled.withBlocking {endpoint : Endpoint} (settled : endpoint.Settled) (blocking : Bool) :
    (endpoint.withBlocking blocking).Settled where
  armed := by
    have armed := settled.armed
    cases endpoint <;> exact armed
  configured := by
    have configured := settled.configured
    cases endpoint <;> exact configured

theorem plainChange_setHostname (hostname : String) : PlainChange (·.setHostname hostname) where
  retuned endpoint := endpoint.retuned_setHostname hostname
  template endpoint := by cases endpoint <;> rfl
  armed endpoint armed := by cases endpoint <;> exact armed

theorem plainChange_setPort (role : Role) (port : UInt16) : PlainChange (·.setPort role port) where
  retuned endpoint := endpoint.retuned_setPort role port
  template endpoint := by
    cases endpoint with
    | listener l =>
      by_cases closes : port = 0 ∧ role = .command
      · simp only [setPort, template, if_pos closes]
        rfl
      · simp only [setPort, template, if_neg closes]
        rfl
    | _ => rfl
  armed endpoint armed := by
    cases endpoint with
    | listener l => by_cases closes : port = 0 ∧ role = .command <;> simp [setPort, closes, isArmed]
    | _ => exact armed

theorem plainChange_setDevicePath (devicePath : String) :
    PlainChange (·.setDevicePath devicePath) where
  retuned endpoint := endpoint.retuned_setDevicePath devicePath
  template endpoint := by cases endpoint <;> rfl
  armed endpoint armed := by
    cases endpoint with
    | serialLine line => rfl
    | _ => exact armed

theorem answer_reopenIfChanged (host : Host σ) (before after : Endpoint) (os : σ) :
    (before.reopenIfChanged host after os).answer =
      (before.reopening? host after os).getD (.ok false) := by
  unfold reopenIfChanged reopening?
  split
  · rfl
  · dsimp only
    rw [disconnect_fst, isConfigured_down]
    split <;> rfl

theorem reopenIfChanged_of_granted {host : Host σ} {change : Endpoint → Endpoint} {os : σ}
    (plain : PlainChange change) {endpoint : Endpoint} (settled : endpoint.Settled)
    (granted : ∀ answer, endpoint.reopening? host (change endpoint) os = some answer →
      answer = .ok true) :
    (endpoint.reopenIfChanged host (change endpoint) os).state.Settled ∧
      (endpoint.reopenIfChanged host (change endpoint) os).state.template =
        change endpoint.template := by
  have armed := plain.armed endpoint settled.armed
  rw [← plain.template]
  unfold reopening? at granted
  unfold reopenIfChanged
  split
  · next kept =>
    refine ⟨⟨armed, ?_⟩, rfl⟩
    intro up
    have was_up : endpoint.isUp = true := (plain.retuned endpoint).isUp_eq.symm.trans up
    rcases kept with down | same
    · rw [was_up] at down
      cases down
    · exact (plain.retuned endpoint).isConfigured_of_identity_eq same (settled.configured was_up)
  · next reopens =>
    rw [if_neg reopens] at granted
    dsimp only
    rw [disconnect_fst, isConfigured_down]
    split
    · next configured =>
      have opens := granted _ (if_pos configured)
      have led := (change endpoint).down.broughtUp host ((change endpoint).disconnect host os).2
      generalize (change endpoint).down.bringUp host _ = outcome at led opens
      cases led with
      | opened h before after complete opened =>
        refine ⟨settled_opened h (settled_down armed).armed complete, ?_⟩
        rw [template_opened, template_down]
      | refused detail lacking => cases opens
      | failed fault after complete opening => cases opens
      | disarmed after complete serial => cases opens
    · exact ⟨settled_down armed, template_down _⟩

/-- What is asked about the endpoint of a role. -/
def standing (endpoint : Endpoint) : Identity × Bool × Bool × Bool :=
  (endpoint.identity, endpoint.isConfigured, endpoint.isUp, endpoint.blocking)

/-- Endpoints with the same configuration that never failed to open, and are up if they can be, are
in the same standing. -/
theorem standing_of_template {endpoint other : Endpoint}
    (same : endpoint.template = other.template) (settled : endpoint.Settled)
    (settled' : other.Settled) (up : endpoint.isUp = endpoint.isConfigured)
    (up' : other.isUp = other.isConfigured) : endpoint.standing = other.standing := by
  have configured : endpoint.isConfigured = other.isConfigured := by
    rw [← isConfigured_template settled.armed, same, isConfigured_template settled'.armed]
  rw [standing, standing, ← identity_template, same, identity_template, ← blocking_template, same,
    blocking_template, up, up', configured]

end Endpoint

end InstrumentLink
