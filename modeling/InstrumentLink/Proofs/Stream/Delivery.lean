import InstrumentLink.Proofs.Stream.Transcript

/-!
# Writing everything or failing

A write of all bytes ends in one of two ways. It either answers their count and the stream has
taken them in order, or it fails and the stream has taken a proper front part of them. Interrupted
attempts leave no trace in either case.
-/

namespace InstrumentLink

variable {σ σ' : Type}

private theorem front_append_front (bytes : ByteArray) (m n : Nat) (h : m + n ≤ bytes.size) :
    bytes.extract 0 m ++ (bytes.extract m bytes.size).extract 0 n = bytes.extract 0 (m + n) := by
  have hmin : min (m + n) bytes.size = m + n := by omega
  rw [ByteArray.extract_extract, Nat.add_zero, hmin]
  exact (ByteArray.extract_eq_extract_append_extract m (Nat.zero_le m) (Nat.le_add_right m n)).symm

private theorem front_append_rest (bytes : ByteArray) (m : Nat) (hm : m ≤ bytes.size) :
    bytes.extract 0 m ++ bytes.extract m bytes.size = bytes := by
  rw [← ByteArray.extract_eq_extract_append_extract m (Nat.zero_le m) hm]
  exact ByteArray.extract_zero_size

namespace ByteStream

private theorem writeAll_transcribed (stream : ByteStream σ) (rest : ByteArray) (sent : Nat)
    (record : Transcribed σ) :
    ∃ calls, (stream.transcribed.writeAll rest sent record).2.calls = record.calls ++ calls ∧
      (stream.transcribed.writeAll rest sent record).2.closed = record.closed ∧
      (((stream.transcribed.writeAll rest sent record).1 = .ok (sent + rest.size) ∧
          takenBytes calls = rest) ∨
        ∃ e n, (stream.transcribed.writeAll rest sent record).1 = .error e ∧ n < rest.size ∧
          takenBytes calls = rest.extract 0 n) := by
  induction rest, sent, record using writeAll.induct (stream.transcribed) with
  | case1 rest sent record empty =>
    refine ⟨[], ?_, ?_, Or.inl ⟨?_, ?_⟩⟩
    · simp [writeAll_of_empty _ sent empty]
    · simp [writeAll_of_empty _ sent empty]
    · simp [writeAll_of_empty _ sent empty, empty]
    · exact (ByteArray.size_eq_zero_iff.mp empty).symm
  | case2 rest sent record some_left refused =>
    rw [writeAll_of_refused _ sent some_left refused]
    refine ⟨[.write rest (.ok 0)], ?_, rfl, Or.inr ⟨.nothingAccepted, 0, rfl, by omega, ?_⟩⟩
    · rw [host_transcribed_write, Transcribed.calls_note]
      simpa using refused
    · simp [StreamCall.taken]
  | case3 rest sent record some_left n taken ih =>
    rw [writeAll_of_taken _ sent some_left taken]
    have fits : n + 1 ≤ rest.size := stream.accepted_le rest record.os _ taken
    obtain ⟨later, calls_eq, closed_eq, ended⟩ := ih
    refine ⟨.write rest (.ok (n + 1)) :: later, ?_, closed_eq, ?_⟩
    · rw [calls_eq, host_transcribed_write, Transcribed.calls_note]
      rw [answer_transcribed_write] at taken
      simp [taken]
    · rcases ended with ⟨answer, took⟩ | ⟨e, m, answer, m_lt, took⟩
      · left
        refine ⟨?_, ?_⟩
        · rw [answer, ByteArray.size_extract]
          congr 1
          omega
        · rw [takenBytes_cons, took]
          exact front_append_rest rest (n + 1) fits
      · right
        rw [ByteArray.size_extract] at m_lt
        refine ⟨e, n + 1 + m, answer, by omega, ?_⟩
        rw [takenBytes_cons, took]
        exact front_append_front rest (n + 1) m (by omega)
  | case4 rest sent record some_left e failed again ih =>
    rw [writeAll_of_interrupted _ sent some_left failed again]
    obtain ⟨later, calls_eq, closed_eq, ended⟩ := ih
    refine ⟨.write rest (.error e) :: later, ?_, closed_eq, ?_⟩
    · rw [calls_eq, host_transcribed_write, Transcribed.calls_note]
      rw [answer_transcribed_write] at failed
      simp [failed]
    · simpa [StreamCall.taken] using ended
  | case5 rest sent record some_left e failed final =>
    rw [writeAll_of_failed _ sent some_left failed final]
    refine ⟨[.write rest (.error e)], ?_, rfl, Or.inr ⟨e, 0, rfl, by omega, ?_⟩⟩
    · rw [host_transcribed_write, Transcribed.calls_note]
      simpa using failed
    · simp [StreamCall.taken]

private theorem writeAll_of_follows {upper : ByteStream σ'} {lower : ByteStream σ} {below : σ' → σ}
    (follows : upper.Follows lower below) (rest : ByteArray) (sent : Nat) (state : σ') :
    (upper.writeAll rest sent state).1 = (lower.writeAll rest sent (below state)).1 ∧
      below (upper.writeAll rest sent state).2 = (lower.writeAll rest sent (below state)).2 := by
  induction rest, sent, state using writeAll.induct upper with
  | case1 rest sent state empty =>
    simp [writeAll_of_empty _ sent empty]
  | case2 rest sent state some_left refused =>
    rw [writeAll_of_refused _ sent some_left refused]
    rcases follows rest state with ⟨e, cut, -, -⟩ | ⟨same, below_eq⟩
    · rw [refused] at cut
      cases cut
    · rw [same] at refused
      rw [writeAll_of_refused lower sent some_left refused]
      exact ⟨rfl, below_eq⟩
  | case3 rest sent state some_left n taken ih =>
    rw [writeAll_of_taken _ sent some_left taken]
    rcases follows rest state with ⟨e, cut, -, -⟩ | ⟨same, below_eq⟩
    · rw [taken] at cut
      cases cut
    · rw [same] at taken
      rw [writeAll_of_taken lower sent some_left taken, ← below_eq]
      exact ih
  | case4 rest sent state some_left e failed again ih =>
    rw [writeAll_of_interrupted _ sent some_left failed again]
    rcases follows rest state with ⟨-, -, -, unmoved⟩ | ⟨same, below_eq⟩
    · rw [unmoved] at ih
      exact ih
    · rw [same] at failed
      rw [writeAll_of_interrupted lower sent some_left failed again, ← below_eq]
      exact ih
  | case5 rest sent state some_left e failed final =>
    rw [writeAll_of_failed _ sent some_left failed final]
    rcases follows rest state with ⟨e', cut, again, -⟩ | ⟨same, below_eq⟩
    · rw [failed] at cut
      cases cut
      exact absurd again final
    · rw [same] at failed
      rw [writeAll_of_failed lower sent some_left failed final]
      exact ⟨rfl, below_eq⟩

end ByteStream

namespace Channels

variable (channels : Channels σ) (h : Handle) (bytes : ByteArray) (os : σ)

theorem writeFully_of_ok {sent : Nat} {os' : σ}
    (wrote : (channels.stream h).writeAll bytes 0 os = (.ok sent, os')) :
    channels.writeFully (some h) bytes os = ⟨.ok sent, some h, os'⟩ := by
  simp only [writeFully, wrote]

theorem writeFully_of_error {e : IoError} {os' : σ}
    (failed : (channels.stream h).writeAll bytes 0 os = (.error e, os')) :
    channels.writeFully (some h) bytes os = ⟨.error (.ofWrite e), none, channels.close h os'⟩ := by
  simp only [writeFully, failed]

/-- With a handle, either all bytes went out and the handle stays, or a proper front part of them
did and the handle is closed. -/
theorem writeFully_transcribed :
    let done := channels.transcribed.writeFully (some h) bytes { os }
    (done.answer = .ok bytes.size ∧ done.state = some h ∧ done.host.closed = [] ∧
        takenBytes done.host.calls = bytes) ∨
      ∃ detail n, done.answer = .error (.writeFailure detail) ∧ done.state = none ∧
        done.host.closed = [h] ∧ n < bytes.size ∧
        takenBytes done.host.calls = bytes.extract 0 n := by
  obtain ⟨calls, calls_eq, closed_eq, ended⟩ :=
    (channels.stream h).writeAll_transcribed bytes 0 { os }
  cases loop : (channels.stream h).transcribed.writeAll bytes 0 { os } with
  | mk answer record =>
    rw [loop] at calls_eq closed_eq ended
    rw [List.nil_append] at calls_eq
    rcases ended with ⟨answer_eq, took⟩ | ⟨e, n, answer_eq, n_lt, took⟩
    · have wrote : (channels.transcribed.stream h).writeAll bytes 0 { os } =
          (.ok bytes.size, record) := by
        rw [← Nat.zero_add bytes.size, ← answer_eq]
        exact loop
      left
      rw [channels.transcribed.writeFully_of_ok h bytes _ wrote]
      exact ⟨rfl, rfl, closed_eq, by rw [calls_eq, took]⟩
    · have failed : (channels.transcribed.stream h).writeAll bytes 0 { os } =
          (.error e, record) := by
        rw [← answer_eq]
        exact loop
      right
      rw [channels.transcribed.writeFully_of_error h bytes _ failed]
      refine ⟨e.text, n, rfl, rfl, ?_, n_lt, ?_⟩
      · change record.closed ++ [h] = [h]
        rw [closed_eq, List.nil_append]
      · change takenBytes record.calls = bytes.extract 0 n
        rw [calls_eq, took]

theorem writeFully_of_follow {upper : Channels σ'} {lower : Channels σ} {below : σ' → σ}
    (follow : upper.Follow lower below) (held : Option Handle) (bytes : ByteArray) (state : σ') :
    let above := upper.writeFully held bytes state
    (⟨above.answer, above.state, below above.host⟩ : Outcome σ (Option Handle) Nat) =
      lower.writeFully held bytes (below state) := by
  cases held with
  | none => rfl
  | some h =>
    obtain ⟨answer_eq, host_eq⟩ := ByteStream.writeAll_of_follows (follow.stream h) bytes 0 state
    cases upper_eq : (upper.stream h).writeAll bytes 0 state with
    | mk answer state' =>
      cases lower_eq : (lower.stream h).writeAll bytes 0 (below state) with
      | mk answer' os' =>
        rw [upper_eq, lower_eq] at answer_eq host_eq
        subst answer_eq host_eq
        cases answer with
        | ok sent =>
          rw [upper.writeFully_of_ok h bytes state upper_eq,
            lower.writeFully_of_ok h bytes (below state) lower_eq]
        | error e =>
          rw [upper.writeFully_of_error h bytes state upper_eq,
            lower.writeFully_of_error h bytes (below state) lower_eq, ← follow.close]

/-- A write of all bytes is all or failure. Its transcript shows that it either answers their count,
with the handle kept and all of them taken in order, or a write failure, with the handle closed and
a proper front part of them taken. Interruptions make no difference, and without a handle or without
bytes no stream is called. -/
theorem writeFully_all_or_failure :
    (∀ h,
      let done := channels.transcribed.writeFully (some h) bytes { os }
      channels.writeFully (some h) bytes os = ⟨done.answer, done.state, done.host.os⟩ ∧
        ((done.answer = .ok bytes.size ∧ done.state = some h ∧ done.host.closed = [] ∧
            takenBytes done.host.calls = bytes) ∨
          ∃ detail n, done.answer = .error (.writeFailure detail) ∧ done.state = none ∧
            done.host.closed = [h] ∧ n < bytes.size ∧
            takenBytes done.host.calls = bytes.extract 0 n) ∧
        (∀ schedule : Interruptions,
          let cut := channels.transcribed.interrupted.writeFully (some h) bytes ({ os }, schedule)
          cut.answer = done.answer ∧ cut.state = done.state ∧ cut.host.1 = done.host) ∧
        channels.transcribed.writeFully (some h) ByteArray.empty { os } =
          ⟨.ok 0, some h, { os }⟩) ∧
      channels.transcribed.writeFully none bytes { os } =
        ⟨.error .writeWithoutHandle, none, { os }⟩ := by
  refine ⟨fun h => ⟨?_, ?_, ?_, ?_⟩, rfl⟩
  · exact (writeFully_of_follow channels.transcribed_follow (some h) bytes { os }).symm
  · exact channels.writeFully_transcribed h bytes os
  · intro schedule
    have same := writeFully_of_follow channels.transcribed.interrupted_follow (some h) bytes
      ({ os }, schedule)
    rw [← same]
    exact ⟨rfl, rfl, rfl⟩
  · apply channels.transcribed.writeFully_of_ok
    exact ByteStream.writeAll_of_empty _ 0 ByteArray.size_empty

end Channels

end InstrumentLink
