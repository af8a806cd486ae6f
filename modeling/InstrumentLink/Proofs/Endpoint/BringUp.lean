import InstrumentLink.Proofs.Endpoint.Connectedness
import InstrumentLink.Proofs.Host.Watched

/-!
# Bringing an endpoint up

An attempt is all or nothing. Without the fields that it needs it is refused, and nothing has
happened. With them the old handles are closed first, and then the endpoint is up on one new handle,
or it has none. What the host gave on the way to a failure is closed again, so a failed attempt
leaves nothing open that nobody holds.
-/

namespace InstrumentLink

variable {σ : Type}

/-- Whether a field is absent that opening the resource needs. -/
def Identity.Lacks : Identity → Prop
  | .tcpClient settings | .udpClient settings => settings.hostname = "" ∨ settings.port = 0
  | .listener port => port = none
  | .serialLine settings => settings.devicePath = ""

private theorem SocketSettings.isConfigured_eq_false_iff {settings : SocketSettings} :
    settings.isConfigured = false ↔ settings.hostname = "" ∨ settings.port = 0 := by
  rw [isConfigured, Bool.and_eq_false_iff]
  simp only [ne_eq, decide_not, Bool.not_eq_false', decide_eq_true_eq]

private theorem Listener.boundPort_bringUp {host : Host σ} {l : Listener} {os : σ} {port : UInt16}
    (present : l.port = some port) (fixed : port ≠ 0)
    (granted : (l.bringUp host os).answer = .ok true) :
    (l.bringUp host os).state.boundPort host (l.bringUp host os).host = port := by
  revert granted
  unfold bringUp
  rw [present]
  dsimp only
  split
  · intro granted
    cases granted
  · next h os' listening =>
    split
    · intro granted
      cases granted
    · next right =>
      intro granted
      by_contra wrong
      exact right ⟨fixed, wrong⟩

namespace Endpoint

theorem lacks_iff (endpoint : Endpoint) :
    endpoint.identity.Lacks ↔ endpoint.isComplete = false := by
  cases endpoint with
  | tcpClient client => exact SocketSettings.isConfigured_eq_false_iff.symm
  | udpClient client => exact SocketSettings.isConfigured_eq_false_iff.symm
  | listener l => simp [identity, Identity.Lacks, isComplete, Listener.isConfigured]
  | serialLine line => simp [identity, Identity.Lacks, isComplete]

private theorem isComplete_of_not_lacks {endpoint : Endpoint}
    (complete : ¬ endpoint.identity.Lacks) :
    endpoint.isComplete = true := by
  rw [lacks_iff, Bool.not_eq_false] at complete
  exact complete

theorem handles_opened (endpoint : Endpoint) (h : Handle) : (endpoint.opened h).handles = [h] := by
  cases endpoint <;> rfl

theorem isConnected_eq_false_of_handles_eq_nil {endpoint : Endpoint}
    (bare : endpoint.handles = []) : endpoint.isConnected = false := by
  cases endpoint with
  | tcpClient client => simp_all [handles, isConnected, TcpClient.isConnected]
  | udpClient client => simp_all [handles, isConnected, UdpClient.isConnected]
  | listener l => simp_all [handles, isConnected, Listener.isConnected]
  | serialLine line => simp_all [handles, isConnected, SerialLine.isConnected]

@[simp] theorem blocking_down (endpoint : Endpoint) :
    endpoint.down.blocking = endpoint.blocking := by
  cases endpoint <;> rfl

@[simp] theorem blocking_opened (endpoint : Endpoint) (h : Handle) :
    (endpoint.opened h).blocking = endpoint.blocking := by
  cases endpoint <;> rfl

@[simp] theorem blocking_disarmed (endpoint : Endpoint) :
    endpoint.disarmed.blocking = endpoint.blocking := by
  cases endpoint <;> rfl

private theorem blocking_bringUp (host : Host σ) (endpoint : Endpoint) (os : σ) :
    (endpoint.bringUp host os).state.blocking = endpoint.blocking := by
  have led := endpoint.broughtUp host os
  generalize endpoint.bringUp host os = outcome at led
  cases led with
  | refused detail lacking => rfl
  | opened h before after complete opens => exact endpoint.blocking_opened h
  | failed fault after complete opening => exact endpoint.blocking_down
  | disarmed after complete serial => exact endpoint.blocking_disarmed

private theorem bringUp_of_isComplete (host : Host σ) {endpoint : Endpoint}
    (complete : endpoint.isComplete = true) (os : σ) :
    endpoint.bringUp host os = endpoint.down.bringUp host (endpoint.disconnect host os).2 := by
  cases endpoint with
  | tcpClient client =>
    have present : client.settings.missing? = none :=
      (SocketSettings.missing?_eq_none_iff _).mpr complete
    simp only [bringUp, down, TcpClient.bringUp, present]
    rfl
  | udpClient client =>
    have present : client.settings.missing? = none :=
      (SocketSettings.missing?_eq_none_iff _).mpr complete
    simp only [bringUp, down, UdpClient.bringUp, present]
    rfl
  | listener l =>
    obtain ⟨port?, socket, client, blocking⟩ := l
    obtain ⟨port, rfl⟩ := Option.isSome_iff_exists.mp complete
    rfl
  | serialLine line =>
    have present : line.settings.devicePath ≠ "" := by simpa [isComplete] using complete
    simp only [bringUp, down, SerialLine.bringUp, if_neg present]
    rfl

private theorem closed_bringUp (host : Host σ) {endpoint : Endpoint}
    (complete : endpoint.isComplete = true) (watched : Watched σ) :
    (watched.closed ++ endpoint.handles.reverse) <+:
      (endpoint.bringUp host.watched watched).host.closed := by
  -- nothing that is closed is opened again, so what disconnecting closes comes first
  have ended := endpoint.closed_disconnect host watched
  have opening := (host.keeps_closed.respects (endpoint.disconnect host.watched watched).2).bringUp
    endpoint.down (endpoint.disconnect host.watched watched).2
  rw [bringUp_of_isComplete host.watched complete, ← ended]
  exact host.keeps_closed.of_exchanges opening

private theorem opening?_eq_none_of_bringUp (host : Host σ) {endpoint : Endpoint}
    {watched : Watched σ} (complete : endpoint.isComplete = true) {others : List Handle}
    (holds : Watched.custody.Holds watched (endpoint.handles ++ others)) {h : Handle}
    (mem : h ∈ (endpoint.bringUp host.watched watched).state.handles) :
    watched.ledger.opening? h = none := by
  have closed := (endpoint.closed_bringUp host complete watched).subset
  have accounts := host.respects_watched.bringUp endpoint watched others holds
  have nodup := accounts.nodup_iff.mpr (Ledger.nodup_handles _)
  obtain ⟨-, nodup_held, apart⟩ := List.nodup_append.mp nodup
  obtain ⟨-, -, apart_held⟩ := List.nodup_append.mp nodup_held
  rw [← Option.not_isSome_iff_eq_none, ← Ledger.mem_handles_iff]
  intro known
  rcases List.mem_append.mp (holds.mem_iff.mpr known) with was_closed | held
  · exact apart h (closed (List.mem_append_left _ was_closed)) h (List.mem_append_left _ mem) rfl
  · rcases List.mem_append.mp held with own | other
    · have now_closed := closed (List.mem_append_right _ (List.mem_reverse.mpr own))
      exact apart h now_closed h (List.mem_append_left _ mem) rfl
    · exact apart_held h mem h other rfl

private theorem isOpen_bringUp_iff (host : Host σ) {endpoint : Endpoint} {watched : Watched σ}
    {others : List Handle} (holds : Watched.custody.Holds watched (endpoint.handles ++ others))
    (h : Handle) :
    (endpoint.bringUp host.watched watched).host.IsOpen h ↔
      h ∈ (endpoint.bringUp host.watched watched).state.handles ∨
        watched.IsOpen h ∧ h ∉ endpoint.handles :=
  Watched.isOpen_iff_of_exchanged holds
    (host.respects_watched.bringUp endpoint watched others holds)
    h

namespace BroughtUp

variable {host : Host σ} {endpoint : Endpoint} {os : σ} {outcome : Outcome σ Endpoint Bool}
  (led : BroughtUp host endpoint os outcome)

include led

private theorem missing_iff :
    (∃ detail, outcome.answer = .error (.missingConfiguration detail)) ↔
      endpoint.identity.Lacks := by
  rw [lacks_iff]
  cases led with
  | refused detail lacking => exact iff_of_true ⟨detail, rfl⟩ lacking
  | opened h before after complete opens => simp [complete]
  | failed fault after complete opening =>
    refine iff_of_false ?_ (by simp [complete])
    rintro ⟨detail, same⟩
    obtain ⟨other, rfl | rfl⟩ := opening <;> cases same
  | disarmed after complete serial => simp [complete]

theorem untouched (lacks : endpoint.identity.Lacks) :
    outcome.state = endpoint ∧ outcome.host = os := by
  rw [lacks_iff] at lacks
  cases led with
  | refused detail lacking => exact ⟨rfl, rfl⟩
  | opened h before after complete opens => simp [complete] at lacks
  | failed fault after complete opening => simp [complete] at lacks
  | disarmed after complete serial => simp [complete] at lacks

private theorem state_of_granted (granted : outcome.answer = .ok true) :
    ∃ h, outcome.state = endpoint.opened h := by
  cases led with
  | opened h before after complete opens => exact ⟨h, rfl⟩
  | refused detail lacking => cases granted
  | failed fault after complete opening => cases granted
  | disarmed after complete serial => cases granted

private theorem failure (complete : endpoint.isComplete = true)
    (failed : outcome.answer ≠ .ok true) :
    outcome.state.handles = [] ∧
      ((∃ fault, outcome.answer = .error fault ∧ fault.IsOpening) ∨
        outcome.answer = .ok false ∧ endpoint.kind = .serialLine) := by
  cases led with
  | refused detail lacking => simp [complete] at lacking
  | opened h before after complete opens => exact absurd rfl failed
  | failed fault after complete opening =>
    exact ⟨endpoint.handles_down, Or.inl ⟨fault, rfl, opening⟩⟩
  | disarmed after complete serial =>
    exact ⟨handles_disarmed serial, Or.inr ⟨rfl, serial⟩⟩

private theorem isConfigured_of_ok {up : Bool} (answered : outcome.answer = .ok up) :
    outcome.state.isConfigured = up := by
  cases led with
  | refused detail lacking => cases answered
  | opened h before after complete opens =>
    cases answered
    exact isConfigured_opened h complete
  | failed fault after complete opening => cases answered
  | disarmed after complete serial =>
    cases answered
    exact isConfigured_disarmed serial

private theorem kind_of_isConfigured_ne
    (changed : outcome.state.isConfigured ≠ endpoint.isConfigured) :
    endpoint.kind = .serialLine ∧ ∃ up, outcome.answer = .ok up := by
  cases led with
  | refused detail lacking => exact absurd rfl changed
  | opened h before after complete opens =>
    refine ⟨?_, true, rfl⟩
    rw [isConfigured_opened h complete] at changed
    cases endpoint with
    | serialLine line => rfl
    | _ => exact absurd complete.symm changed
  | failed fault after complete opening => exact absurd endpoint.isConfigured_down changed
  | disarmed after complete serial => exact ⟨serial, false, rfl⟩

end BroughtUp

/-- What an attempt to bring an endpoint up answers, and what it leaves behind. -/
structure AllOrNothing (host : Host σ) (endpoint : Endpoint) (watched : Watched σ)
    (outcome : Outcome (Watched σ) Endpoint Bool) : Prop where
  missing_iff :
    (∃ detail, outcome.answer = .error (.missingConfiguration detail)) ↔ endpoint.identity.Lacks
  /-- A refusal comes before anything else. -/
  untouched : endpoint.identity.Lacks → outcome.state = endpoint ∧ outcome.host = watched
  /-- Otherwise the old handles are closed before all others, the client of a listener first. -/
  released : ¬ endpoint.identity.Lacks →
    (watched.closed ++ endpoint.handles.reverse) <+: outcome.host.closed
  up : outcome.answer = .ok true → ∃ h, outcome.state = endpoint.opened h ∧
    outcome.state.handles = [h] ∧ outcome.state.isUp = true
  listens : outcome.answer = .ok true → ∀ l, endpoint = .listener l → ∃ up : Listener,
    outcome.state = .listener up ∧ up.client = none ∧
      ∀ port, l.port = some port → port ≠ 0 → up.boundPort host.watched outcome.host = port
  bare : ¬ endpoint.identity.Lacks → outcome.answer ≠ .ok true →
    outcome.state.handles = [] ∧ outcome.state.isUp = false ∧ outcome.state.isConnected = false
  /-- An attempt that is not refused fails with a fault of looking up or opening, or with `false`
  for a line. -/
  failure : ¬ endpoint.identity.Lacks → outcome.answer ≠ .ok true →
    (∃ fault, outcome.answer = .error fault ∧ fault.IsOpening) ∨
      outcome.answer = .ok false ∧ endpoint.kind = .serialLine
  identity_eq : outcome.state.identity = endpoint.identity
  blocking_eq : outcome.state.blocking = endpoint.blocking
  isConfigured_eq : ∀ up, outcome.answer = .ok up → outcome.state.isConfigured = up
  kind_of_isConfigured_ne : outcome.state.isConfigured ≠ endpoint.isConfigured →
    endpoint.kind = .serialLine ∧ ∃ up, outcome.answer = .ok up
  /-- When all that is open is held, the endpoint's own handles have made way for a new one, and
  nothing else was opened or closed. -/
  accounts : ∀ others, Watched.custody.Holds watched (endpoint.handles ++ others) →
    (∀ h, outcome.host.IsOpen h ↔
      h ∈ outcome.state.handles ∨ watched.IsOpen h ∧ h ∉ endpoint.handles) ∧
    (¬ endpoint.identity.Lacks → ∀ h ∈ outcome.state.handles, watched.ledger.opening? h = none)

/-- An attempt to bring an endpoint up does all of it or nothing, whatever state the endpoint is in
and whatever the host answers. -/
theorem bringUp_allOrNothing (host : Host σ) (endpoint : Endpoint) (watched : Watched σ) :
    AllOrNothing host endpoint watched (endpoint.bringUp host.watched watched) := by
  have led := endpoint.broughtUp host.watched watched
  exact {
    missing_iff := led.missing_iff
    untouched := led.untouched
    released := fun present =>
      endpoint.closed_bringUp host (isComplete_of_not_lacks present) watched
    up := by
      intro granted
      obtain ⟨h, opened⟩ := led.state_of_granted granted
      rw [opened]
      exact ⟨h, rfl, endpoint.handles_opened h, endpoint.isUp_opened h⟩
    listens := by
      rintro granted l rfl
      obtain ⟨h, opened⟩ := led.state_of_granted granted
      have state_eq := Endpoint.listener.inj opened
      refine ⟨_, opened, rfl, fun port present fixed => ?_⟩
      have bound := Listener.boundPort_bringUp present fixed granted
      rw [state_eq] at bound
      exact bound
    bare := by
      intro present failed
      obtain ⟨bare, -⟩ := led.failure (isComplete_of_not_lacks present) failed
      exact ⟨bare, isUp_eq_false_of_handles_eq_nil bare,
        isConnected_eq_false_of_handles_eq_nil bare⟩
    failure := fun present failed => (led.failure (isComplete_of_not_lacks present) failed).2
    identity_eq := endpoint.identity_bringUp host.watched watched
    blocking_eq := endpoint.blocking_bringUp host.watched watched
    isConfigured_eq := fun _ answered => led.isConfigured_of_ok answered
    kind_of_isConfigured_ne := led.kind_of_isConfigured_ne
    accounts := fun others holds => ⟨endpoint.isOpen_bringUp_iff host holds,
      fun present _ mem =>
        endpoint.opening?_eq_none_of_bringUp host (isComplete_of_not_lacks present) holds mem⟩ }

end Endpoint

end InstrumentLink
