import InstrumentLink.Proofs.Stream.Transcript
import InstrumentLink.Stream.Script

/-!
# Passes of the write loop

A write of all bytes goes in passes. Each pass offers what is left, at an index into the bytes, and
the answer moves the index on, ends the loop, or is an interruption. Here nothing is known of the
interruptions beforehand. An interruption is the only answer that leaves the loop as it was, so the
passes without one are no more than the bytes, and a stream that interrupts finitely often lets the
loop end.
-/

namespace InstrumentLink

variable {σ : Type}

def StreamCall.isInterrupted : StreamCall → Bool
  | write _ (.error e) => e.condition = .interrupted
  | _ => false

/-- The loop between two passes: at an index into the bytes, or at its end. -/
inductive WriteLoop (σ : Type)
  | running (sent : Nat) (os : σ)
  | ended (answer : Except IoError Nat) (os : σ)

namespace WriteLoop

def os : WriteLoop σ → σ
  | running _ os => os
  | ended _ os => os

/-- The loop upon an answer to what it offered at an index. -/
def upon (sent : Nat) (os : σ) : Except IoError Nat → WriteLoop σ
  | .ok 0 => .ended (.error .nothingAccepted) os
  | .ok (n + 1) => .running (sent + (n + 1)) os
  | .error e => if e.condition = .interrupted then .running sent os else .ended (.error e) os

/-- One pass over some bytes. A loop that has ended stays as it is. -/
def pass (write : ByteArray → σ → Except IoError Nat × σ) (bytes : ByteArray) :
    WriteLoop σ → WriteLoop σ
  | running sent os =>
      if sent < bytes.size then
        let answered := write (bytes.extract sent bytes.size) os
        upon sent answered.2 answered.1
      else .ended (.ok sent) os
  | ended answer os => .ended answer os

/-- The loop after so many passes. -/
def after (write : ByteArray → σ → Except IoError Nat × σ) (bytes : ByteArray)
    (start : WriteLoop σ) : Nat → WriteLoop σ
  | 0 => start
  | passes + 1 => (after write bytes start passes).pass write bytes

/-- The writes of a stream with a transcript. -/
def noted (write : ByteArray → σ → Except IoError Nat × σ) (bytes : ByteArray)
    (record : Transcribed σ) : Except IoError Nat × Transcribed σ :=
  let answered := write bytes record.os
  (answered.1, record.note (.write bytes answered.1) answered.2)

/-- The loop after so many passes from its start, with a transcript. -/
def watched (write : ByteArray → σ → Except IoError Nat × σ) (bytes : ByteArray) (os : σ) :
    Nat → WriteLoop (Transcribed σ) :=
  after (noted write) bytes (.running 0 { os })

/-- The loop without the transcript. -/
def below : WriteLoop (Transcribed σ) → WriteLoop σ
  | running sent record => .running sent record.os
  | ended answer record => .ended answer record.os

section Passes

variable (write : ByteArray → σ → Except IoError Nat × σ) (bytes : ByteArray)

private theorem pass_of_left {sent : Nat} (left : sent < bytes.size) (os : σ) :
    (running sent os).pass write bytes =
      upon sent (write (bytes.extract sent bytes.size) os).2
        (write (bytes.extract sent bytes.size) os).1 :=
  if_pos left

private theorem pass_of_none_left {sent : Nat} (none_left : ¬sent < bytes.size) (os : σ) :
    (running sent os).pass write bytes = .ended (.ok sent) os :=
  if_neg none_left

private theorem after_pass (start : WriteLoop σ) (passes : Nat) :
    after write bytes (start.pass write bytes) passes = after write bytes start (passes + 1) := by
  induction passes with
  | zero => rfl
  | succ passes ih =>
    rw [after, ih]
    rfl

private theorem after_of_ended {start : WriteLoop σ} {passes : Nat} {answer : Except IoError Nat}
    {os : σ} (has_ended : after write bytes start passes = .ended answer os) (more : Nat) :
    after write bytes start (passes + more) = .ended answer os := by
  induction more with
  | zero => exact has_ended
  | succ more ih =>
    rw [← Nat.add_assoc, after, ih]
    rfl

private theorem os_upon (sent : Nat) (os : σ) (answer : Except IoError Nat) :
    (upon sent os answer).os = os := by
  match answer with
  | .ok 0 => rfl
  | .ok (n + 1) => rfl
  | .error e =>
    simp only [upon]
    split <;> rfl

private theorem below_upon (sent : Nat) (record : Transcribed σ) (answer : Except IoError Nat) :
    (upon sent record answer).below = upon sent record.os answer := by
  match answer with
  | .ok 0 => rfl
  | .ok (n + 1) => rfl
  | .error e =>
    simp only [upon]
    split <;> rfl

private theorem below_pass (loop : WriteLoop (Transcribed σ)) :
    (loop.pass (noted write) bytes).below = loop.below.pass write bytes := by
  cases loop with
  | ended answer record => rfl
  | running sent record =>
    by_cases left : sent < bytes.size
    · rw [pass_of_left _ _ left, below_upon, below, pass_of_left _ _ left]
      rfl
    · rw [pass_of_none_left _ _ left, below, pass_of_none_left _ _ left]
      rfl

private theorem below_watched (os : σ) (passes : Nat) :
    (watched write bytes os passes).below = after write bytes (.running 0 os) passes := by
  induction passes with
  | zero => rfl
  | succ passes ih => rw [watched, after, below_pass, ← watched, ih, after]

end Passes

section Adequacy

variable (stream : ByteStream σ) (bytes : ByteArray)

/-- Passes lead from a loop to the end that a write of all bytes comes to. -/
private def LeadsTo (start : WriteLoop σ) (result : Except IoError Nat × σ) : Prop :=
  ∃ passes, after stream.write bytes start passes = .ended result.1 result.2

variable {stream bytes}

private theorem LeadsTo.of_pass {start : WriteLoop σ} {result : Except IoError Nat × σ}
    (leads : LeadsTo stream bytes (start.pass stream.write bytes) result) :
    LeadsTo stream bytes start result := by
  obtain ⟨passes, ended⟩ := leads
  exact ⟨passes + 1, by rw [← after_pass, ended]⟩

private theorem leadsTo_ended (answer : Except IoError Nat) (os : σ) :
    LeadsTo stream bytes (.ended answer os) (answer, os) :=
  ⟨0, rfl⟩

private theorem size_rest {rest : ByteArray} {sent : Nat}
    (rest_eq : bytes.extract sent bytes.size = rest) :
    rest.size = bytes.size - sent := by
  rw [← rest_eq, ByteArray.size_extract, Nat.min_self]

private theorem LeadsTo.of_answer {rest : ByteArray} {sent : Nat} {os : σ}
    {result : Except IoError Nat × σ}
    (rest_eq : bytes.extract sent bytes.size = rest) (some_left : rest.size ≠ 0)
    (leads : LeadsTo stream bytes (upon sent (stream.write rest os).2 (stream.write rest os).1)
      result) :
    LeadsTo stream bytes (.running sent os) result := by
  have left : sent < bytes.size := by
    have size := size_rest rest_eq
    omega
  subst rest_eq
  apply LeadsTo.of_pass
  rw [pass_of_left _ _ left]
  exact leads

/-- The passes over a stream that bounds its interruptions come to what a write of all bytes comes
to. -/
theorem leadsTo_writeAll {rest : ByteArray} {sent : Nat} {os : σ} (in_bounds : sent ≤ bytes.size)
    (rest_eq : bytes.extract sent bytes.size = rest) :
    LeadsTo stream bytes (.running sent os) (stream.writeAll rest sent os) := by
  induction rest, sent, os using ByteStream.writeAll.induct stream with
  | case1 rest sent os empty =>
    have size := size_rest rest_eq
    apply LeadsTo.of_pass
    rw [pass_of_none_left _ _ (by omega), ByteStream.writeAll_of_empty _ sent empty]
    exact leadsTo_ended _ _
  | case2 rest sent os some_left refused =>
    apply LeadsTo.of_answer rest_eq some_left
    rw [ByteStream.writeAll_of_refused _ sent some_left refused, refused]
    exact leadsTo_ended _ _
  | case3 rest sent os some_left n taken ih =>
    apply LeadsTo.of_answer rest_eq some_left
    rw [ByteStream.writeAll_of_taken _ sent some_left taken, taken]
    have size := size_rest rest_eq
    have fits := stream.accepted_le rest os _ taken
    apply ih (by omega)
    rw [← rest_eq, ByteArray.extract_extract, rest_eq, size]
    congr 1
    omega
  | case4 rest sent os some_left e failed again ih =>
    apply LeadsTo.of_answer rest_eq some_left
    rw [ByteStream.writeAll_of_interrupted _ sent some_left failed again, failed, upon,
      if_pos again]
    exact ih in_bounds rest_eq
  | case5 rest sent os some_left e failed final =>
    apply LeadsTo.of_answer rest_eq some_left
    rw [ByteStream.writeAll_of_failed _ sent some_left failed final, failed, upon, if_neg final]
    exact leadsTo_ended _ _

end Adequacy

/-- Every offer is what is left of some bytes after those that were taken, and that is something. -/
def Offered (bytes : ByteArray) (calls : List StreamCall) : Prop :=
  ∀ earlier call later, calls = earlier ++ call :: later →
    (takenBytes earlier).size < bytes.size ∧
      ∃ answer, call = .write (bytes.extract (takenBytes earlier).size bytes.size) answer

private theorem offered_nil (bytes : ByteArray) : Offered bytes [] := by
  intro earlier call later split
  simp at split

private theorem Offered.snoc {bytes : ByteArray} {calls : List StreamCall}
    (offered : Offered bytes calls) (left : (takenBytes calls).size < bytes.size)
    (answer : Except IoError Nat) :
    Offered bytes
      (calls ++ [.write (bytes.extract (takenBytes calls).size bytes.size) answer]) := by
  intro earlier call later split
  rcases List.eq_nil_or_concat later with rfl | ⟨between, last, rfl⟩
  · -- the call is the new one
    obtain ⟨rfl, same⟩ := List.append_inj' split rfl
    exact ⟨left, answer, (List.singleton_inj.mp same).symm⟩
  · rw [List.concat_eq_append, ← List.cons_append, ← List.append_assoc] at split
    obtain ⟨before, -⟩ := List.append_inj' split rfl
    exact offered earlier call between before

/-- The interrupted calls. -/
def interrupted (calls : List StreamCall) : Nat :=
  calls.countP StreamCall.isInterrupted

/-- The calls that were not interrupted. -/
def uninterrupted (calls : List StreamCall) : Nat :=
  calls.countP fun call => !call.isInterrupted

private theorem length_eq_interrupted_add (calls : List StreamCall) :
    calls.length = interrupted calls + uninterrupted calls := by
  simpa [interrupted, uninterrupted] using
    List.length_eq_countP_add_countP (l := calls) StreamCall.isInterrupted

private theorem uninterrupted_snoc_le (calls : List StreamCall) (call : StreamCall) :
    uninterrupted (calls ++ [call]) ≤ uninterrupted calls + 1 := by
  rw [uninterrupted, List.countP_append, uninterrupted]
  have one := List.countP_le_length (p := fun call : StreamCall => !call.isInterrupted)
    (l := [call])
  rw [List.length_singleton] at one
  omega

private theorem uninterrupted_snoc_of_interrupted (calls : List StreamCall) {call : StreamCall}
    (again : call.isInterrupted = true) :
    uninterrupted (calls ++ [call]) = uninterrupted calls := by
  simp [uninterrupted, List.countP_append, again]

private theorem size_takenBytes_snoc (calls : List StreamCall) (call : StreamCall) :
    (takenBytes (calls ++ [call])).size = (takenBytes calls).size + call.taken.size := by
  rw [takenBytes_append, ByteArray.size_append, takenBytes_cons, takenBytes_nil,
    ByteArray.append_empty]

/-- A loop that is at an index into some bytes, after these calls. -/
structure Accounts (bytes : ByteArray) (sent : Nat) (calls : List StreamCall) : Prop where
  taken : (takenBytes calls).size = sent
  in_bounds : sent ≤ bytes.size
  offered : Offered bytes calls
  /-- Each write that is not interrupted has moved the index on. -/
  uninterrupted_le : uninterrupted calls ≤ sent

namespace Accounts

variable {bytes : ByteArray} {sent : Nat} {calls : List StreamCall}

private theorem zero (bytes : ByteArray) : Accounts bytes 0 [] where
  taken := rfl
  in_bounds := Nat.zero_le _
  offered := offered_nil bytes
  uninterrupted_le := Nat.le_refl 0

private theorem offered_snoc (accounts : Accounts bytes sent calls) (left : sent < bytes.size)
    (answer : Except IoError Nat) :
    Offered bytes (calls ++ [.write (bytes.extract sent bytes.size) answer]) := by
  have offered := accounts.offered.snoc (by rw [accounts.taken]; exact left) answer
  rw [accounts.taken] at offered
  exact offered

private theorem after_taken (accounts : Accounts bytes sent calls) (left : sent < bytes.size)
    {n : Nat} (fits : n + 1 ≤ bytes.size - sent) :
    Accounts bytes (sent + (n + 1))
      (calls ++ [.write (bytes.extract sent bytes.size) (.ok (n + 1))]) where
  taken := by
    rw [size_takenBytes_snoc, accounts.taken, StreamCall.taken, ByteArray.size_extract,
      ByteArray.size_extract]
    omega
  in_bounds := by omega
  offered := accounts.offered_snoc left _
  uninterrupted_le := by
    have before := accounts.uninterrupted_le
    have one := uninterrupted_snoc_le calls
      (.write (bytes.extract sent bytes.size) (.ok (n + 1)))
    omega

private theorem after_interrupted (accounts : Accounts bytes sent calls) (left : sent < bytes.size)
    {e : IoError} (again : e.condition = .interrupted) :
    Accounts bytes sent (calls ++ [.write (bytes.extract sent bytes.size) (.error e)]) where
  taken := by
    have nothing :
        (StreamCall.write (bytes.extract sent bytes.size) (.error e)).taken = ByteArray.empty :=
      rfl
    rw [size_takenBytes_snoc, nothing, ByteArray.size_empty, Nat.add_zero, accounts.taken]
  in_bounds := accounts.in_bounds
  offered := accounts.offered_snoc left _
  uninterrupted_le := by
    rw [uninterrupted_snoc_of_interrupted calls (by simp [StreamCall.isInterrupted, again])]
    exact accounts.uninterrupted_le

end Accounts

/-- What every pass over some bytes keeps. -/
def Holds (bytes : ByteArray) : WriteLoop (Transcribed σ) → Prop
  | running sent record => Accounts bytes sent record.calls
  | ended _ record => Offered bytes record.calls ∧ uninterrupted record.calls ≤ bytes.size

private theorem Holds.in_bounds {bytes : ByteArray} {loop : WriteLoop (Transcribed σ)}
    (holds : Holds bytes loop) {sent : Nat} {os : σ} (running : loop.below = .running sent os) :
    sent ≤ bytes.size := by
  cases loop with
  | ended answer record => cases running
  | running sent record =>
    cases running
    exact Accounts.in_bounds holds

private theorem Holds.offered {bytes : ByteArray} {loop : WriteLoop (Transcribed σ)}
    (holds : Holds bytes loop) : Offered bytes loop.os.calls := by
  cases loop with
  | ended answer record => exact holds.1
  | running sent record => exact Accounts.offered holds

private theorem Holds.uninterrupted_le {bytes : ByteArray} {loop : WriteLoop (Transcribed σ)}
    (holds : Holds bytes loop) : uninterrupted loop.os.calls ≤ bytes.size := by
  cases loop with
  | ended answer record => exact holds.2
  | running sent record =>
    exact Nat.le_trans (Accounts.uninterrupted_le holds) (Accounts.in_bounds holds)

private theorem holds_ended {bytes : ByteArray} {sent : Nat} {calls : List StreamCall}
    (accounts : Accounts bytes sent calls) (left : sent < bytes.size)
    {answer : Except IoError Nat} (last : Except IoError Nat) {record : Transcribed σ}
    (called : record.calls = calls ++ [.write (bytes.extract sent bytes.size) answer]) :
    Holds bytes (.ended last record) := by
  have before := accounts.uninterrupted_le
  have one := uninterrupted_snoc_le calls (.write (bytes.extract sent bytes.size) answer)
  constructor
  · rw [called]
    exact accounts.offered_snoc left answer
  · rw [called]
    omega

private theorem holds_upon {bytes : ByteArray} {sent : Nat} {calls : List StreamCall}
    (accounts : Accounts bytes sent calls) (left : sent < bytes.size)
    (answer : Except IoError Nat) (fits : ∀ n, answer = .ok n → n ≤ bytes.size - sent)
    {record : Transcribed σ}
    (called : record.calls = calls ++ [.write (bytes.extract sent bytes.size) answer]) :
    Holds bytes (upon sent record answer) := by
  rcases answer with e | ⟨_ | n⟩
  · by_cases again : e.condition = .interrupted
    · rw [upon, if_pos again, Holds, called]
      exact accounts.after_interrupted left again
    · rw [upon, if_neg again]
      exact holds_ended accounts left _ called
  · exact holds_ended accounts left _ called
  · rw [upon, Holds, called]
    exact accounts.after_taken left (fits (n + 1) rfl)

section Run

variable {write : ByteArray → σ → Except IoError Nat × σ}

theorem Holds.pass (fits : ∀ bytes os n, (write bytes os).1 = .ok n → n ≤ bytes.size)
    {bytes : ByteArray} {loop : WriteLoop (Transcribed σ)} (holds : Holds bytes loop) :
    Holds bytes (loop.pass (noted write) bytes) := by
  cases loop with
  | ended answer record => exact holds
  | running sent record =>
    by_cases left : sent < bytes.size
    · rw [pass_of_left _ _ left]
      apply holds_upon holds left
      · intro n taken
        have := fits _ _ n taken
        rw [size_rest rfl] at this
        exact this
      · rfl
    · -- no bytes are left, so nothing is offered
      rw [pass_of_none_left _ _ left]
      exact ⟨holds.offered, holds.uninterrupted_le⟩

private theorem holds_watched (fits : ∀ bytes os n, (write bytes os).1 = .ok n → n ≤ bytes.size)
    (bytes : ByteArray) (os : σ) (passes : Nat) :
    Holds bytes (watched write bytes os passes) := by
  induction passes with
  | zero => exact Accounts.zero bytes
  | succ passes ih => exact ih.pass fits

private theorem exists_running_of_pass {bytes : ByteArray} {loop : WriteLoop (Transcribed σ)}
    {sent : Nat} {record : Transcribed σ}
    (goes_on : loop.pass (noted write) bytes = .running sent record) :
    ∃ sent_before before, loop = .running sent_before before ∧
      record.calls.length = before.calls.length + 1 := by
  cases loop with
  | ended answer before => cases goes_on
  | running sent_before before =>
    refine ⟨sent_before, before, rfl, ?_⟩
    by_cases left : sent_before < bytes.size
    · rw [pass_of_left _ _ left] at goes_on
      have same := congrArg WriteLoop.os goes_on
      rw [os_upon] at same
      change _ = record at same
      rw [← same, noted, Transcribed.calls_note, List.length_append, List.length_singleton]
    · rw [pass_of_none_left _ _ left] at goes_on
      cases goes_on

private theorem length_calls_of_running {bytes : ByteArray} {os : σ} {passes sent : Nat}
    {record : Transcribed σ} (goes_on : watched write bytes os passes = .running sent record) :
    record.calls.length = passes := by
  induction passes generalizing sent record with
  | zero =>
    cases goes_on
    rfl
  | succ passes ih =>
    obtain ⟨sent_before, before, running_before, length⟩ := exists_running_of_pass goes_on
    rw [length, ih running_before]

private theorem exists_ended (fits : ∀ bytes os n, (write bytes os).1 = .ok n → n ≤ bytes.size)
    (bytes : ByteArray) (os : σ) {limit : Nat}
    (limited : ∀ passes, interrupted (watched write bytes os passes).os.calls ≤ limit) :
    ∃ answer record,
      watched write bytes os (bytes.size + limit + 1) = .ended answer record := by
  have holds := holds_watched fits bytes os (bytes.size + limit + 1)
  have limited := limited (bytes.size + limit + 1)
  cases reached : watched write bytes os (bytes.size + limit + 1) with
  | ended answer record => exact ⟨answer, record, rfl⟩
  | running sent record =>
    rw [reached] at holds limited
    have length := length_calls_of_running reached
    have split := length_eq_interrupted_add record.calls
    have made : uninterrupted record.calls ≤ bytes.size := holds.uninterrupted_le
    change interrupted record.calls ≤ limit at limited
    omega

end Run

/-- The passes over some bytes, on a stream that may interrupt any of its writes. -/
structure EndsInTime (write : ByteArray → σ → Except IoError Nat × σ) (bytes : ByteArray) (os : σ) :
    Prop where
  /-- The transcript only watches. -/
  observed : ∀ passes,
    (watched write bytes os passes).below = after write bytes (.running 0 os) passes
  in_bounds : ∀ passes sent between,
    after write bytes (.running 0 os) passes = .running sent between → sent ≤ bytes.size
  /-- What is offered lies within the bytes and is never nothing. -/
  offered : ∀ passes, Offered bytes (watched write bytes os passes).os.calls
  uninterrupted_le : ∀ passes,
    uninterrupted (watched write bytes os passes).os.calls ≤ bytes.size
  ends : ∀ limit, (∀ passes, interrupted (watched write bytes os passes).os.calls ≤ limit) →
      ∃ answer last, after write bytes (.running 0 os) (bytes.size + limit + 1) = .ended answer last
  /-- On a stream that bounds its interruptions the passes are a write of all bytes. -/
  computes : ∀ stream : ByteStream σ, stream.write = write →
    ∃ passes, watched write bytes os passes =
      .ended (stream.transcribed.writeAll bytes 0 { os }).1
        (stream.transcribed.writeAll bytes 0 { os }).2

/-- A write of all bytes ends once the interruptions do, offers only bytes that are left, and makes
no more writes than there are bytes besides those that are interrupted. -/
theorem endsInTime (write : ByteArray → σ → Except IoError Nat × σ)
    (fits : ∀ bytes os n, (write bytes os).1 = .ok n → n ≤ bytes.size)
    (bytes : ByteArray) (os : σ) : EndsInTime write bytes os where
  observed := below_watched write bytes os
  in_bounds passes sent between running := by
    apply (holds_watched fits bytes os passes).in_bounds
    rw [below_watched]
    exact running
  offered passes := (holds_watched fits bytes os passes).offered
  uninterrupted_le passes := (holds_watched fits bytes os passes).uninterrupted_le
  ends limit limited := by
    obtain ⟨answer, record, ended⟩ := exists_ended fits bytes os limited
    refine ⟨answer, record.os, ?_⟩
    rw [← below_watched, ended, below]
  computes stream same := by
    subst same
    have leads : LeadsTo stream.transcribed bytes (.running 0 { os })
        (stream.transcribed.writeAll bytes 0 { os }) :=
      leadsTo_writeAll (Nat.zero_le _) ByteArray.extract_zero_size
    exact leads

/-- Three bytes, of which two are taken after an interruption, and then the last one. -/
theorem endsInTime_interrupted_once :
    ∃ answer last,
      after Script.write ⟨#[1, 2, 3]⟩
        (.running 0 { writes := [.fail (.ofNumber 4), .accept 2] }) 5 = .ended answer last := by
  apply (endsInTime Script.write Script.write_accepted_le ⟨#[1, 2, 3]⟩ _).ends 1
  intro passes
  by_cases early : passes < 4
  · have : passes = 0 ∨ passes = 1 ∨ passes = 2 ∨ passes = 3 := by omega
    rcases this with rfl | rfl | rfl | rfl <;> decide +kernel
  · obtain ⟨more, rfl⟩ := Nat.exists_eq_add_of_le (Nat.not_lt.mp early)
    rw [watched, after_of_ended _ _ rfl]
    decide +kernel

end WriteLoop

end InstrumentLink
