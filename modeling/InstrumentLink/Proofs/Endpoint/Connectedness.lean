import InstrumentLink.Proofs.Endpoint.Action
import InstrumentLink.Proofs.Endpoint.Traffic

/-!
# Losing a connection

An endpoint is connected as long as it has the handle that carries data. A connected endpoint loses
it to a few operations only, each for a reason of its own, and a failure to move bytes always means
that it is lost. From then on reading and writing are refused until the endpoint is opened again, or
a listener accepts another client.
-/

namespace InstrumentLink.Endpoint

variable {σ : Type}

/-- The ways in which a connected endpoint loses its connection. -/
def Operation.Loses (host : Host σ) (operation : Operation) (endpoint : Endpoint) (os : σ) : Prop :=
  match operation with
  | .disconnect => True
  | .dropClient => endpoint.kind = .listener
  -- Bringing up gives the old handles up first, and a listener does not get a client by it.
  | .bringUp =>
      endpoint.isComplete = true ∧
        (endpoint.kind = .listener ∨ (endpoint.bringUp host os).answer ≠ .ok true)
  | .attach =>
      endpoint.kind ≠ .listener ∧ endpoint.isComplete = true ∧
        (endpoint.bringUp host os).answer ≠ .ok true
  | .write bytes =>
      ∃ e, endpoint.WriteBreaks host bytes os e ∧
        (endpoint.write host bytes os).answer = .error (.ofWrite e)
  | .read room =>
      endpoint.SeesEnd host room os ∨
        ∃ e, endpoint.ReadBreaks host room os e ∧
          (endpoint.read host room os).answer = .error (.ofRead e)
  | .set _ | .sendBreak _ => False

/-- The ways in which an endpoint gets a connection. -/
def Operation.Gains (host : Host σ) (operation : Operation) (endpoint : Endpoint) (os : σ) : Prop :=
  match operation with
  | .bringUp => endpoint.kind ≠ .listener ∧ (endpoint.bringUp host os).answer = .ok true
  | .attach => (endpoint.attach host os).answer = .ok true
  | _ => False

/-- Reading and writing fail, and neither the endpoint nor the host notices. -/
def Refuses (host : Host σ) (endpoint : Endpoint) (os : σ) : Prop :=
  (∀ room, ∃ fault, endpoint.read host room os = ⟨.error fault, endpoint, os⟩) ∧
    ∀ bytes, ∃ fault, endpoint.write host bytes os = ⟨.error fault, endpoint, os⟩

private theorem isConnected_of_retuned {before after : Endpoint} (retuned : before.Retuned after) :
    after.isConnected = before.isConnected := by
  cases retuned <;> rfl

private theorem isConnected_opened {endpoint : Endpoint} (h : Handle) :
    (endpoint.opened h).isConnected = true ↔ endpoint.kind ≠ .listener := by
  cases endpoint <;> simp [opened, isConnected, kind, TcpClient.isConnected, UdpClient.isConnected,
    Listener.isConnected, SerialLine.isConnected]

@[simp] theorem isConnected_down (endpoint : Endpoint) : endpoint.down.isConnected = false := by
  cases endpoint <;> rfl

private theorem isConnected_disarmed (endpoint : Endpoint) :
    endpoint.disarmed.isConnected = false := by
  cases endpoint <;> rfl

private theorem isConnected_bringUp_eq_false_iff (host : Host σ) {endpoint : Endpoint} (os : σ)
    (connected : endpoint.isConnected = true) :
    (endpoint.bringUp host os).state.isConnected = false ↔
      endpoint.isComplete = true ∧
        (endpoint.kind = .listener ∨ (endpoint.bringUp host os).answer ≠ .ok true) := by
  have led := endpoint.broughtUp host os
  generalize endpoint.bringUp host os = outcome at led
  cases led with
  | refused detail lacking => simp [connected, lacking]
  | opened h before after complete opens =>
    have up := endpoint.isConnected_opened h
    by_cases listener : endpoint.kind = .listener
    · simp_all
    · simp_all
  | failed fault after complete opening => simp [complete]
  | disarmed after complete serial => simp [complete, isConnected_disarmed]

private theorem attach_of_kind_ne {endpoint : Endpoint} (other : endpoint.kind ≠ .listener)
    (host : Host σ) (os : σ) : endpoint.attach host os = endpoint.bringUp host os := by
  cases endpoint with
  | listener l => exact absurd rfl other
  | _ => rfl

private theorem isConnected_accept {l : Listener} (connected : l.isConnected = true) (host : Host σ)
    (os : σ) : (l.accept host os).state.isConnected = true := by
  have led := l.accepted host os
  generalize l.accept host os = outcome at led
  cases led with
  | accepted listening free client after => rfl
  | _ => exact connected

private theorem isConnected_write_eq_false_iff (host : Host σ) {endpoint : Endpoint}
    (bytes : ByteArray) (os : σ) (connected : endpoint.isConnected = true) :
    (endpoint.write host bytes os).state.isConnected = false ↔
      ∃ e, endpoint.WriteBreaks host bytes os e ∧
        (endpoint.write host bytes os).answer = .error (.ofWrite e) := by
  have led := endpoint.written host bytes os
  generalize endpoint.write host bytes os = outcome at led
  cases led with
  | sent count os' _ => simp [connected]
  | unconnected fault lost => simp [connected] at lost
  | refused fault other =>
    refine iff_of_false (by simp [connected]) ?_
    rintro ⟨e, -, answer⟩
    rw [Except.error.inj answer] at other
    exact other (Fault.isTransfer_ofWrite e)
  | oversized large =>
    -- The size was refused before the host was asked, so this is not the host's own error.
    refine iff_of_false (by simp [connected]) ?_
    rintro ⟨e, ⟨h, carried, -⟩ | ⟨client, h, address, os', same, -, fits, -⟩, -⟩
    · cases endpoint with
      | udpClient client => cases carried
      | _ => cases large.1
    · have too_large := large.2.2.2
      omega
  | unresolved fault os' _ opening =>
    refine iff_of_false (by simp [connected]) ?_
    rintro ⟨e, -, answer⟩
    rw [Except.error.inj answer] at opening
    exact opening.not_isTransfer (Fault.isTransfer_ofWrite e)
  | broken e os' _ breaks => exact iff_of_true endpoint.isConnected_cut ⟨e, breaks, rfl⟩

private theorem isConnected_read_eq_false_iff (host : Host σ) {endpoint : Endpoint} (room : Nat)
    (os : σ) (connected : endpoint.isConnected = true) :
    (endpoint.read host room os).state.isConnected = false ↔
      endpoint.SeesEnd host room os ∨
        ∃ e, endpoint.ReadBreaks host room os e ∧
          (endpoint.read host room os).answer = .error (.ofRead e) := by
  have led := endpoint.readFrom host room os
  generalize endpoint.read host room os = outcome at led
  cases led with
  | given bytes os' _ goes_on =>
    refine iff_of_false (by simp [connected]) ?_
    rintro (sees | ⟨e, -, answer⟩)
    · exact goes_on sees
    · cases answer
  | unconnected fault lost => simp [connected] at lost
  | refused fault other idle =>
    refine iff_of_false (by simp [connected]) ?_
    rintro (⟨-, h, bytes, carried, -⟩ | ⟨e, ⟨h, carried, -⟩, -⟩)
    · rw [idle] at carried
      cases carried
    · rw [idle] at carried
      cases carried
  | ended os' _ sees => exact iff_of_true endpoint.isConnected_cut (Or.inl sees)
  | broken e os' _ breaks => exact iff_of_true endpoint.isConnected_cut (Or.inr ⟨e, breaks, rfl⟩)

/-- A connected endpoint loses its connection in exactly the ways named above. -/
theorem isConnected_run_eq_false_iff (host : Host σ) (operation : Operation) {endpoint : Endpoint}
    (os : σ) (connected : endpoint.isConnected = true) :
    (operation.run host endpoint os).state.isConnected = false ↔
      operation.Loses host endpoint os := by
  cases operation with
  | set setting =>
    have kept := isConnected_of_retuned (retuned_apply host setting endpoint os)
    simp [Operation.run, Operation.Loses, kept, connected]
  | bringUp => exact isConnected_bringUp_eq_false_iff host os connected
  | attach =>
    by_cases listener : endpoint.kind = .listener
    · cases endpoint with
      | listener l =>
        have kept := isConnected_accept connected host os
        simp [Operation.run, Operation.Loses, attach, isConnected, kept, listener]
      | _ => cases listener
    · have lost := isConnected_bringUp_eq_false_iff host os connected
      simp [Operation.run, Operation.Loses, attach_of_kind_ne listener, lost, listener]
  | disconnect => simp [Operation.run, Operation.Loses, disconnect_fst]
  | dropClient =>
    cases endpoint with
    | listener l => exact iff_of_true rfl rfl
    | _ => simp [Operation.run, Operation.Loses, connected, kind]
  | write bytes => exact isConnected_write_eq_false_iff host bytes os connected
  | read room => exact isConnected_read_eq_false_iff host room os connected
  | sendBreak milliseconds => cases endpoint <;> simp [Operation.run, Operation.Loses, connected]

private theorem not_isTransfer_bringUp {host : Host σ} {endpoint : Endpoint} {os : σ}
    {fault : Fault}
    (failed : (endpoint.bringUp host os).answer = .error fault) : ¬ fault.IsTransfer := by
  have led := endpoint.broughtUp host os
  generalize endpoint.bringUp host os = outcome at led failed
  cases led with
  | refused detail lacking =>
    cases failed
    exact Fault.not_isTransfer_missingConfiguration detail
  | opened h before after complete opens => cases failed
  | failed fault' after complete opening =>
    cases failed
    exact opening.not_isTransfer
  | disarmed after complete serial => cases failed

private theorem not_isTransfer_attach {host : Host σ} {endpoint : Endpoint} {os : σ} {fault : Fault}
    (failed : (endpoint.attach host os).answer = .error fault) : ¬ fault.IsTransfer := by
  by_cases listener : endpoint.kind = .listener
  · cases endpoint with
    | listener l =>
      have led := l.accepted host os
      have raised : (l.accept host os).answer = .error fault := failed
      generalize l.accept host os = outcome at led raised
      rintro ⟨detail, rfl | rfl⟩ <;> cases led <;> cases raised
    | _ => cases listener
  · rw [attach_of_kind_ne listener] at failed
    exact not_isTransfer_bringUp failed

private theorem write_of_oversizes (host : Host σ) {endpoint : Endpoint} {bytes : ByteArray}
    (large : endpoint.Oversizes bytes) (os : σ) :
    endpoint.write host bytes os = ⟨.error (.datagramTooLarge bytes.size), endpoint, os⟩ := by
  obtain ⟨datagrams, configured, connected, too_large⟩ := large
  cases endpoint with
  | udpClient client =>
    have present : client.settings.missing? = none :=
      (SocketSettings.missing?_eq_none_iff _).mpr configured
    obtain ⟨h, bound⟩ := Option.isSome_iff_exists.mp connected
    simp only [write, UdpClient.write, present, bound, if_pos too_large]
    rfl
  | _ => cases datagrams

/-- After a failure to move bytes there is no connection, unless a datagram was refused for its
size. -/
theorem isConnected_of_transfer_fault {host : Host σ} {operation : Operation} {endpoint : Endpoint}
    {os : σ} {fault : Fault} (failed : (operation.run host endpoint os).answer = .error fault)
    (transfer : fault.IsTransfer) :
    (operation.run host endpoint os).state.isConnected = true ↔
      ∃ bytes, operation = .write bytes ∧ endpoint.Oversizes bytes := by
  have no_fault : ∀ {α : Type} {answer : Except Fault α},
      answer.map (fun _ => ()) = .error fault → answer = .error fault := by
    intro α answer mapped
    cases answer with
    | ok a => cases mapped
    | error other => exact congrArg _ (Except.error.inj mapped)
  cases operation with
  | set setting => cases failed
  | disconnect => cases failed
  | bringUp => exact absurd transfer (not_isTransfer_bringUp (no_fault failed))
  | attach => exact absurd transfer (not_isTransfer_attach (no_fault failed))
  | dropClient => cases endpoint <;> cases failed
  | sendBreak milliseconds => cases endpoint <;> cases failed
  | write bytes =>
    have raised := no_fault failed
    simp only [Operation.run, Outcome.state_withAnswer, Operation.write.injEq, exists_eq_left']
    have large_case := fun large : endpoint.Oversizes bytes =>
      endpoint.write_of_oversizes host large os
    have led := endpoint.written host bytes os
    generalize endpoint.write host bytes os = outcome at led raised large_case
    cases led with
    | sent count os' connected => cases raised
    | unconnected fault' lost =>
      refine iff_of_false (by simp [lost]) ?_
      rintro ⟨-, -, connected, -⟩
      rw [lost] at connected
      cases connected
    | refused fault' other =>
      cases raised
      exact absurd transfer other
    | oversized large => exact iff_of_true large.2.2.1 large
    | unresolved fault' os' connected opening =>
      cases raised
      exact absurd transfer opening.not_isTransfer
    | broken e os' connected breaks =>
      refine iff_of_false (by simp) ?_
      intro large
      have same : endpoint.cut = endpoint := congrArg Outcome.state (large_case large)
      rw [← same, isConnected_cut] at connected
      cases connected
  | read room =>
    have raised := no_fault failed
    refine iff_of_false ?_ (by rintro ⟨bytes, same, -⟩; cases same)
    simp only [Operation.run, Outcome.state_withAnswer, Bool.not_eq_true]
    have led := endpoint.readFrom host room os
    generalize endpoint.read host room os = outcome at led raised
    cases led with
    | given bytes os' connected goes_on => cases raised
    | unconnected fault' lost => exact lost
    | refused fault' other idle =>
      cases raised
      exact absurd transfer other
    | ended os' connected sees => cases raised
    | broken e os' connected breaks => exact endpoint.isConnected_cut

theorem refuses_of_not_connected (host : Host σ) {endpoint : Endpoint}
    (lost : endpoint.isConnected = false) (os : σ) : endpoint.Refuses host os := by
  constructor
  · intro room
    have led := endpoint.readFrom host room os
    generalize endpoint.read host room os = outcome at led
    cases led with
    | unconnected fault _ => exact ⟨fault, rfl⟩
    | refused fault other idle => exact ⟨fault, rfl⟩
    | given bytes os' connected goes_on => simp [lost] at connected
    | ended os' connected sees => simp [lost] at connected
    | broken e os' connected breaks => simp [lost] at connected
  · intro bytes
    have led := endpoint.written host bytes os
    generalize endpoint.write host bytes os = outcome at led
    cases led with
    | unconnected fault _ => exact ⟨fault, rfl⟩
    | refused fault other => exact ⟨fault, rfl⟩
    | oversized large => exact ⟨_, rfl⟩
    | sent count os' connected => simp [lost] at connected
    | unresolved fault os' connected opening => simp [lost] at connected
    | broken e os' connected breaks => simp [lost] at connected

theorem isConnected_run_eq_true_iff (host : Host σ) (operation : Operation) {endpoint : Endpoint}
    (os : σ) (lost : endpoint.isConnected = false) :
    (operation.run host endpoint os).state.isConnected = true ↔
      operation.Gains host endpoint os := by
  have opened_iff : (endpoint.bringUp host os).state.isConnected = true ↔
      endpoint.kind ≠ .listener ∧ (endpoint.bringUp host os).answer = .ok true := by
    have led := endpoint.broughtUp host os
    generalize endpoint.bringUp host os = outcome at led
    cases led with
    | refused detail lacking => simp [lost]
    | opened h before after complete opens => simp [isConnected_opened]
    | failed fault after complete opening => simp
    | disarmed after complete serial => simp [isConnected_disarmed]
  obtain ⟨reads, writes⟩ := endpoint.refuses_of_not_connected host lost os
  cases operation with
  | set setting =>
    have kept := isConnected_of_retuned (retuned_apply host setting endpoint os)
    simp [Operation.run, Operation.Gains, kept, lost]
  | bringUp => exact opened_iff
  | attach =>
    by_cases listener : endpoint.kind = .listener
    · cases endpoint with
      | listener l =>
        have led := l.accepted host os
        simp only [Operation.run, Operation.Gains, attach, Outcome.state_withAnswer,
          Outcome.state_inState, Outcome.answer_inState]
        generalize l.accept host os = outcome at led
        cases led with
        | accepted listening free client after => simp [isConnected, Listener.isConnected]
        | _ => simp [lost]
      | _ => cases listener
    · simp [Operation.run, Operation.Gains, attach_of_kind_ne listener, opened_iff, listener]
  | disconnect => simp [Operation.run, Operation.Gains, disconnect_fst]
  | dropClient =>
    cases endpoint with
    | listener l => exact iff_of_false (by simp [Operation.run, isConnected, Listener.isConnected,
        Listener.disconnectClient]) id
    | _ => simp [Operation.run, Operation.Gains, lost]
  | write bytes =>
    obtain ⟨fault, refused⟩ := writes bytes
    simp [Operation.run, Operation.Gains, refused, lost]
  | read room =>
    obtain ⟨fault, refused⟩ := reads room
    simp [Operation.run, Operation.Gains, refused, lost]
  | sendBreak milliseconds => cases endpoint <;> simp [Operation.run, Operation.Gains, lost]

private theorem exists_gain {host : Host σ} {operations : List Operation} {endpoint : Endpoint}
    {os : σ} (lost : endpoint.isConnected = false)
    (back : (runAll host operations endpoint os).1.isConnected = true) :
    ∃ before operation later, operations = before ++ operation :: later ∧
      let turn := runAll host before endpoint os
      turn.1.isConnected = false ∧ operation.Gains host turn.1 turn.2 := by
  induction operations generalizing endpoint os with
  | nil =>
    rw [runAll_nil, lost] at back
    cases back
  | cons operation rest ih =>
    by_cases gained : (operation.run host endpoint os).state.isConnected = true
    · exact ⟨[], operation, rest, rfl, lost,
        (isConnected_run_eq_true_iff host operation os lost).mp gained⟩
    · have still_lost : (operation.run host endpoint os).state.isConnected = false := by
        simpa using gained
      obtain ⟨before, gain, later, split, found⟩ := ih still_lost back
      exact ⟨operation :: before, gain, later, by rw [split, List.cons_append], found⟩

private theorem isUp_listener (host : Host σ) (l : Listener) (os : σ) :
    (∀ room, ((listener l).read host room os).state.isUp = l.isListening) ∧
      (∀ bytes, ((listener l).write host bytes os).state.isUp = l.isListening) ∧
      ((Operation.dropClient).run host (listener l) os).state.isUp = l.isListening := by
  refine ⟨?_, ?_, rfl⟩
  · intro room
    exact (listener l).state_read_of (P := (·.isUp = l.isListening)) host room os rfl rfl
  · intro bytes
    exact (listener l).state_write_of (P := (·.isUp = l.isListening)) host bytes os rfl rfl

/-- How being connected follows the handle that carries data. -/
structure TracksHandle (host : Host σ) (endpoint : Endpoint) (os : σ) : Prop where
  loses : endpoint.isConnected = true → ∀ operation : Operation,
    ((operation.run host endpoint os).state.isConnected = false ↔
      operation.Loses host endpoint os)
  gains : endpoint.isConnected = false → ∀ operation : Operation,
    ((operation.run host endpoint os).state.isConnected = true ↔
      operation.Gains host endpoint os)
  /-- A failure to move bytes leaves no connection, but for a datagram that is too large. -/
  after_fault : ∀ (operation : Operation) (fault : Fault),
    (operation.run host endpoint os).answer = .error fault → fault.IsTransfer →
      ((operation.run host endpoint os).state.isConnected = true ↔
        ∃ bytes, operation = .write bytes ∧ endpoint.Oversizes bytes)
  /-- A datagram that is too large is refused without a question to the host. -/
  too_large : ∀ bytes, endpoint.Oversizes bytes →
    endpoint.write host bytes os = ⟨.error (.datagramTooLarge bytes.size), endpoint, os⟩
  /-- A run without a connection at first either gets one, or ends with an endpoint that refuses to
  read and to write. -/
  refuses : endpoint.isConnected = false → ∀ operations,
    (∃ before operation later, operations = before ++ operation :: later ∧
        let turn := runAll host before endpoint os
        turn.1.isConnected = false ∧ operation.Gains host turn.1 turn.2) ∨
      (runAll host operations endpoint os).1.Refuses host (runAll host operations endpoint os).2
  listens : ∀ l, endpoint = .listener l →
    (∀ room, (endpoint.read host room os).state.isUp = l.isListening) ∧
      (∀ bytes, (endpoint.write host bytes os).state.isUp = l.isListening) ∧
      ((Operation.dropClient).run host endpoint os).state.isUp = l.isListening

/-- In every state, and whatever the host answers, an endpoint is connected exactly as long as it
has the handle that carries data. -/
theorem tracksHandle (host : Host σ) (endpoint : Endpoint) (os : σ) :
    TracksHandle host endpoint os where
  loses := fun connected operation => isConnected_run_eq_false_iff host operation os connected
  gains := fun lost operation => isConnected_run_eq_true_iff host operation os lost
  after_fault := fun _ _ failed transfer => isConnected_of_transfer_fault failed transfer
  too_large := fun _ large => endpoint.write_of_oversizes host large os
  refuses := by
    intro lost operations
    by_cases back : (runAll host operations endpoint os).1.isConnected = true
    · exact Or.inl (exists_gain lost back)
    · right
      apply refuses_of_not_connected
      simpa using back
  listens := by
    rintro l rfl
    exact isUp_listener host l os

end InstrumentLink.Endpoint
