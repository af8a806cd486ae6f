import InstrumentLink.Endpoint

namespace InstrumentLink

variable {σ : Type}

theorem Channels.writeFully_cases (channels : Channels σ) (held : Option Handle)
    (bytes : ByteArray) (os : σ) :
    (∃ sent, (channels.writeFully held bytes os).answer = .ok sent ∧
        (channels.writeFully held bytes os).state = held) ∨
      ∃ detail, (channels.writeFully held bytes os).answer = .error (.writeFailure detail) ∧
        (channels.writeFully held bytes os).state = none := by
  unfold writeFully
  split
  · exact Or.inr ⟨_, rfl, rfl⟩
  · split
    · next sent os' wrote => exact Or.inl ⟨sent, rfl, rfl⟩
    · next e os' failed => exact Or.inr ⟨e.text, rfl, rfl⟩

theorem Channels.state_writeFully (channels : Channels σ) (held : Option Handle)
    (bytes : ByteArray) (os : σ) :
    (channels.writeFully held bytes os).state = held ∨
      (channels.writeFully held bytes os).state = none := by
  rcases channels.writeFully_cases held bytes os with ⟨sent, -, kept⟩ | ⟨detail, -, lost⟩
  · exact Or.inl kept
  · exact Or.inr lost

theorem Channels.readOnce_cases (channels : Channels σ) (held : Option Handle) (room : Nat)
    (os : σ) :
    (((∃ bytes, (channels.readOnce held room os).answer = .ok (.data bytes)) ∨
          (channels.readOnce held room os).answer = .ok .wouldBlock ∨
          (channels.readOnce held room os).answer = .ok .closed ∧
            ∃ h bytes, held = some h ∧ ((channels.stream h).read room os).1 = .ok bytes ∧
              bytes.size = 0 ∧ room ≠ 0) ∧
        (channels.readOnce held room os).state = held) ∨
      ∃ detail, (channels.readOnce held room os).answer = .error (.readFailure detail) ∧
        (channels.readOnce held room os).state = none := by
  unfold readOnce
  split
  · exact Or.inr ⟨_, rfl, rfl⟩
  · next h =>
    split
    · next bytes os' given =>
      split
      · next ended =>
        refine Or.inl ⟨Or.inr (Or.inr ⟨rfl, h, bytes, rfl, ?_, ended.1, ended.2⟩), rfl⟩
        rw [given]
      · exact Or.inl ⟨Or.inl ⟨bytes, rfl⟩, rfl⟩
    · next e os' failed =>
      split
      · exact Or.inl ⟨Or.inr (Or.inl rfl), rfl⟩
      · exact Or.inr ⟨e.text, rfl, rfl⟩

theorem Channels.state_readOnce (channels : Channels σ) (held : Option Handle) (room : Nat)
    (os : σ) :
    (channels.readOnce held room os).state = held ∨
      (channels.readOnce held room os).state = none := by
  rcases channels.readOnce_cases held room os with ⟨-, kept⟩ | ⟨detail, -, lost⟩
  · exact Or.inl kept
  · exact Or.inr lost

/-- Makes one read attempt, and ends the connection when the peer has closed. -/
def Host.receive (host : Host σ) (how : Shutdown) (held : Option Handle) (room : Nat) (os : σ) :
    Outcome σ (Option Handle) ByteArray :=
  let outcome := host.readOnce held room os
  match outcome.answer with
  | .error fault => ⟨.error fault, outcome.state, outcome.host⟩
  | .ok (.data bytes) => ⟨.ok bytes, outcome.state, outcome.host⟩
  | .ok .wouldBlock => ⟨.ok ByteArray.empty, outcome.state, outcome.host⟩
  | .ok .closed => ⟨.ok ByteArray.empty, none, host.endHeld how outcome.state outcome.host⟩

/-- What receiving through a handle can lead to. -/
inductive Host.Received (host : Host σ) (how : Shutdown) (h : Handle) (room : Nat) (os : σ) :
    Outcome σ (Option Handle) ByteArray → Prop
  | data {bytes : ByteArray} {os' : σ} (given : (host.stream h).read room os = (.ok bytes, os')) :
      Received host how h room os ⟨.ok bytes, some h, os'⟩
  | nothingYet {e : IoError} {os' : σ} (failed : (host.stream h).read room os = (.error e, os'))
      (transient : e.isTransient = true) :
      Received host how h room os ⟨.ok ByteArray.empty, some h, os'⟩
  | ended {bytes : ByteArray} {os' : σ} (given : (host.stream h).read room os = (.ok bytes, os'))
      (nothing : bytes.size = 0) (asked : room ≠ 0) :
      Received host how h room os
        ⟨.ok ByteArray.empty, none, host.close h (host.shutdown h how os')⟩
  | failed {e : IoError} {os' : σ} (failed : (host.stream h).read room os = (.error e, os')) :
      Received host how h room os ⟨.error (.ofRead e), none, host.close h os'⟩

theorem Host.received (host : Host σ) (how : Shutdown) (h : Handle) (room : Nat) (os : σ) :
    host.Received how h room os (host.receive how (some h) room os) := by
  cases attempt : (host.stream h).read room os with
  | mk answer os' =>
    simp only [Host.receive, Channels.readOnce, attempt]
    cases answer with
    | ok bytes =>
      by_cases ends : bytes.size = 0 ∧ room ≠ 0
      · simp only [if_pos ends]
        exact .ended attempt ends.1 ends.2
      · simp only [if_neg ends]
        exact .data attempt
    | error e =>
      by_cases transient : e.isTransient = true
      · simp only [if_pos transient]
        exact .nothingYet attempt transient
      · simp only [if_neg transient]
        exact .failed attempt

theorem Host.state_receive (host : Host σ) (how : Shutdown) (held : Option Handle) (room : Nat)
    (os : σ) :
    (host.receive how held room os).state = held ∨ (host.receive how held room os).state = none := by
  cases held with
  | none => exact Or.inl rfl
  | some h =>
    have received := host.received how h room os
    generalize host.receive how (some h) room os = done at received
    cases received with
    | data given => exact Or.inl rfl
    | nothingYet failed transient => exact Or.inl rfl
    | ended given nothing asked => exact Or.inr rfl
    | failed failed => exact Or.inr rfl

theorem TcpClient.read_eq_receive (host : Host σ) (client : TcpClient) (room : Nat) (os : σ) :
    client.read host room os =
      (host.receive .write client.stream room os).inState fun stream => { client with stream } := by
  simp only [TcpClient.read, Host.receive]
  obtain ⟨answer, held, os'⟩ := host.readOnce client.stream room os
  rcases answer with fault | bytes | - | - <;> rfl

theorem Listener.read_eq_receive (host : Host σ) {l : Listener} (ready : l.noClient? = none)
    (room : Nat) (os : σ) :
    l.read host room os =
      (host.receive .both l.client room os).inState fun client => { l with client } := by
  simp only [Listener.read, ready, Host.receive]
  obtain ⟨answer, held, os'⟩ := host.readOnce l.client room os
  rcases answer with fault | bytes | - | - <;> rfl

end InstrumentLink
