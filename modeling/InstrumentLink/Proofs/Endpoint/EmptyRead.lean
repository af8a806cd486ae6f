import InstrumentLink.Proofs.Endpoint.Transience

/-!
# Reading nothing

A read from a connection that comes back without bytes should tell its caller one of two things: the
peer has closed, or there is nothing to read yet. Every other error should end the connection. But a
read takes each transient error for nothing to read yet, also one that a socket only reports when
its connection has died, and whatever the blocking mode is.
-/

namespace InstrumentLink

variable {σ : Type}

private theorem Host.receive_of_end {host : Host σ} {h : Handle} {room : Nat} {os : σ}
    {bytes : ByteArray} (given : ((host.stream h).read room os).1 = .ok bytes)
    (nothing : bytes.size = 0) (asked : room ≠ 0) (how : Shutdown) :
    (host.receive how (some h) room os).answer = .ok ByteArray.empty ∧
      (host.receive how (some h) room os).state = none := by
  cases attempt : (host.stream h).read room os with
  | mk answer os' =>
    rw [attempt] at given
    cases given
    simp only [receive, Channels.readOnce, attempt, if_pos (And.intro nothing asked), and_self]

private theorem Host.receive_of_bytes {host : Host σ} {h : Handle} {room : Nat} {os : σ}
    {bytes : ByteArray}
    (given : ((host.stream h).read room os).1 = .ok bytes) (some_given : bytes.size ≠ 0)
    (how : Shutdown) : (host.receive how (some h) room os).answer = .ok bytes := by
  cases attempt : (host.stream h).read room os with
  | mk answer os' =>
    rw [attempt] at given
    cases given
    simp only [receive, Channels.readOnce, attempt, some_given, false_and, ↓reduceIte]

private theorem Host.receive_of_failure {host : Host σ} {h : Handle} {room : Nat} {os : σ}
    {e : IoError} (failed : ((host.stream h).read room os).1 = .error e)
    (final : e.isTransient = false) (how : Shutdown) :
    host.receive how (some h) room os =
      ⟨.error (.ofRead e), none, host.close h ((host.stream h).read room os).2⟩ := by
  cases attempt : (host.stream h).read room os with
  | mk answer os' =>
    rw [attempt] at failed
    cases failed
    simp only [receive, Channels.readOnce, attempt, final, Bool.false_eq_true, ↓reduceIte]

namespace Endpoint

private theorem exists_read_eq_receive {endpoint : Endpoint} {h : Handle}
    (connection : endpoint.kind = .tcpClient ∨ endpoint.kind = .listener)
    (carried : endpoint.stream? = some h) :
    ∃ (how : Shutdown) (put : Option Handle → Endpoint),
      put (some h) = endpoint ∧ put none = endpoint.cut ∧
        ∀ (host : Host σ) (room : Nat) (os : σ),
          endpoint.read host room os = (host.receive how (some h) room os).inState put := by
  cases endpoint with
  | tcpClient client =>
    obtain ⟨settings, stream, blocking⟩ := client
    cases carried
    refine ⟨.write, fun stream => .tcpClient { settings, stream, blocking }, rfl, rfl, ?_⟩
    intro host room os
    simp only [read, TcpClient.read_eq_receive, Outcome.inState_inState]
  | listener l =>
    obtain ⟨port, socket, client, blocking⟩ := l
    rw [stream?] at carried
    split at carried
    · next ready =>
      cases carried
      refine ⟨.both, fun client => .listener { port, socket, client, blocking }, rfl, rfl, ?_⟩
      intro host room os
      simp only [read, Listener.read_eq_receive host ready, Outcome.inState_inState]
    · cases carried
  | udpClient client => rcases connection with wrong | wrong <;> cases wrong
  | serialLine line => rcases connection with wrong | wrong <;> cases wrong

/-- What a read should tell of a connection. -/
structure Candid (host : Host σ) (endpoint : Endpoint) (room : Nat) (os : σ) : Prop where
  /-- Nothing was read because the peer has closed, or because there is nothing yet and the caller
  did not want to wait for it. -/
  empty : ∀ bytes, (endpoint.read host room os).answer = .ok bytes → bytes.size = 0 →
    endpoint.SeesEnd host room os ∧ (endpoint.read host room os).state.isConnected = false ∨
      endpoint.blocking = false ∧
        (∃ e, endpoint.ReadBreaks host room os e ∧ e.condition = .wouldBlock) ∧
        (endpoint.read host room os).state = endpoint
  genuine : ∀ e, endpoint.ReadBreaks host room os e → e.condition ≠ .wouldBlock →
    (endpoint.read host room os).answer = .error (.ofRead e) ∧
      (endpoint.read host room os).state = endpoint.cut

/-- What a read with room for some bytes does with an answer of the host. -/
structure ReadsThrough (host : Host σ) (endpoint : Endpoint) (h : Handle) (room : Nat) (os : σ) :
    Prop where
  empty_iff : (∃ bytes, (endpoint.read host room os).answer = .ok bytes ∧ bytes.size = 0) ↔
    endpoint.SeesEnd host room os ∨
      ∃ e, endpoint.ReadBreaks host room os e ∧ e.isTransient = true
  ended : endpoint.SeesEnd host room os → (endpoint.read host room os).state = endpoint.cut
  unready : ∀ e, endpoint.ReadBreaks host room os e → e.isTransient = true →
    (endpoint.read host room os).answer = .ok ByteArray.empty ∧
      (endpoint.read host room os).state = endpoint
  failed : ∀ e, endpoint.ReadBreaks host room os e → e.isTransient = false →
    endpoint.read host room os =
      ⟨.error (.ofRead e), endpoint.cut, host.close h ((host.stream h).read room os).2⟩
  /-- Only a transient error keeps a read from telling what it should. -/
  candid_iff : endpoint.Candid host room os ↔
    ∀ e, endpoint.ReadBreaks host room os e → e.isTransient = true →
      e.condition = .wouldBlock ∧ endpoint.blocking = false

variable {host : Host σ} {endpoint : Endpoint} {h : Handle} {room : Nat} {os : σ}

private theorem not_seesEnd_of_readBreaks {e : IoError}
    (breaks : endpoint.ReadBreaks host room os e) :
    ¬endpoint.SeesEnd host room os := by
  obtain ⟨h, carried, failed⟩ := breaks
  rintro ⟨-, h', bytes, carried', given, -, -⟩
  rw [carried, Option.some.injEq] at carried'
  rw [← carried', failed] at given
  cases given

private theorem ReadBreaks.unique {e e' : IoError} (breaks : endpoint.ReadBreaks host room os e)
    (breaks' : endpoint.ReadBreaks host room os e') : e = e' := by
  obtain ⟨h, carried, failed⟩ := breaks
  obtain ⟨h', carried', failed'⟩ := breaks'
  rw [carried, Option.some.injEq] at carried'
  rw [← carried', failed, Except.error.injEq] at failed'
  exact failed'

private theorem read_of_seesEnd (sees : endpoint.SeesEnd host room os) :
    (endpoint.read host room os).answer = .ok ByteArray.empty ∧
      (endpoint.read host room os).state = endpoint.cut := by
  obtain ⟨connection, h, bytes, carried, given, nothing, asked⟩ := sees
  obtain ⟨how, put, -, lost, read_eq⟩ := exists_read_eq_receive (σ := σ) connection carried
  obtain ⟨answer_eq, state_eq⟩ := Host.receive_of_end given nothing asked how
  rw [read_eq, Outcome.answer_inState, Outcome.state_inState, answer_eq, state_eq]
  exact ⟨rfl, lost⟩

section

variable (connection : endpoint.kind = .tcpClient ∨ endpoint.kind = .listener)
  (carried : endpoint.stream? = some h)

include connection carried

private theorem read_of_failure {e : IoError} (breaks : endpoint.ReadBreaks host room os e)
    (final : e.isTransient = false) : endpoint.read host room os =
      ⟨.error (.ofRead e), endpoint.cut, host.close h ((host.stream h).read room os).2⟩ := by
  obtain ⟨h', carried', failed⟩ := breaks
  rw [carried, Option.some.injEq] at carried'
  subst carried'
  obtain ⟨how, put, -, lost, read_eq⟩ := exists_read_eq_receive (σ := σ) connection carried
  rw [read_eq, Host.receive_of_failure failed final how, Outcome.inState, lost]

variable (asked : room ≠ 0)

include asked

private theorem read_empty_iff :
    (∃ bytes, (endpoint.read host room os).answer = .ok bytes ∧ bytes.size = 0) ↔
      endpoint.SeesEnd host room os ∨
        ∃ e, endpoint.ReadBreaks host room os e ∧ e.isTransient = true := by
  constructor
  · rintro ⟨bytes, answered, nothing⟩
    cases attempt : ((host.stream h).read room os).1 with
    | ok given =>
      by_cases empty : given.size = 0
      · exact Or.inl ⟨connection, h, given, carried, attempt, empty, asked⟩
      · obtain ⟨how, put, -, -, read_eq⟩ := exists_read_eq_receive (σ := σ) connection carried
        have whole := Host.receive_of_bytes attempt empty how
        rw [read_eq, Outcome.answer_inState, whole] at answered
        cases answered
        exact absurd nothing empty
    | error e =>
      have breaks : endpoint.ReadBreaks host room os e := ⟨h, carried, attempt⟩
      cases again : e.isTransient with
      | true => exact Or.inr ⟨e, breaks, again⟩
      | false =>
        rw [read_of_failure connection carried breaks again] at answered
        cases answered
  · rintro (sees | ⟨e, breaks, again⟩)
    · exact ⟨_, (read_of_seesEnd sees).1, rfl⟩
    · exact ⟨_, (read_of_transient breaks again).1, rfl⟩

private theorem candid_iff :
    endpoint.Candid host room os ↔
      ∀ e, endpoint.ReadBreaks host room os e → e.isTransient = true →
        e.condition = .wouldBlock ∧ endpoint.blocking = false := by
  constructor
  · intro candid e breaks again
    obtain ⟨answered, -⟩ := read_of_transient breaks again
    rcases candid.empty _ answered rfl with ⟨sees, -⟩ | ⟨nonblocking, ⟨e', breaks', later⟩, -⟩
    · exact absurd sees (not_seesEnd_of_readBreaks breaks)
    · rw [breaks.unique breaks']
      exact ⟨later, nonblocking⟩
  · intro harmless
    constructor
    case empty =>
      intro bytes answered nothing
      have reason := (read_empty_iff connection carried asked).mp ⟨bytes, answered, nothing⟩
      rcases reason with sees | ⟨e, breaks, again⟩
      · exact Or.inl ⟨sees, by rw [(read_of_seesEnd sees).2, isConnected_cut]⟩
      · obtain ⟨later, nonblocking⟩ := harmless e breaks again
        exact Or.inr ⟨nonblocking, ⟨e, breaks, later⟩, (read_of_transient breaks again).2⟩
    case genuine =>
      intro e breaks other
      cases again : e.isTransient with
      | true => exact absurd (harmless e breaks again).1 other
      | false =>
        rw [read_of_failure connection carried breaks again]
        exact ⟨rfl, rfl⟩

end

/-- A read from a connection comes back without bytes at the end of the stream, and at every
transient error. -/
theorem readsThrough (host : Host σ) (os : σ)
    (connection : endpoint.kind = .tcpClient ∨ endpoint.kind = .listener)
    (carried : endpoint.stream? = some h) (asked : room ≠ 0) :
    endpoint.ReadsThrough host h room os where
  empty_iff := read_empty_iff connection carried asked
  ended := fun sees => (read_of_seesEnd sees).2
  unready := fun _ breaks again => read_of_transient breaks again
  failed := fun _ breaks final => read_of_failure connection carried breaks final
  candid_iff := candid_iff connection carried asked

/-- A client whose connection was reset reads through its stream. -/
theorem readsThrough_reset :
    let client : Endpoint := .tcpClient { stream := some ⟨0⟩ }
    let script : Script := { reads := [.fail (.ofNumber 104)] }
    (client.kind = .tcpClient ∨ client.kind = .listener) ∧ client.stream? = some ⟨0⟩ ∧ 4 ≠ 0 ∧
      client.ReadsThrough (.ofChannels Script.channels) ⟨0⟩ 4 script :=
  ⟨Or.inl rfl, rfl, by decide, readsThrough _ _ (Or.inl rfl) rfl (by decide)⟩

/-- A read does not tell that a connection has timed out: it says that there is nothing yet. -/
theorem not_candid_of_timedOut :
    ¬ ∀ (client : TcpClient) (room : Nat) (script : Script),
        client.isConnected = true → room ≠ 0 →
          (tcpClient client).Candid (.ofChannels Script.channels) room script := by
  intro candid
  let client : TcpClient := { stream := some ⟨0⟩ }
  let script : Script := { reads := [.fail (.ofNumber 110)] }
  have breaks : (tcpClient client).ReadBreaks (.ofChannels Script.channels) 4 script
      (.ofNumber 110) := ⟨⟨0⟩, rfl, rfl⟩
  have told := (candid client 4 script rfl (by decide)).genuine _ breaks (by decide)
  have silent := (read_of_transient breaks rfl).1
  rw [told.1] at silent
  cases silent

end Endpoint

end InstrumentLink
