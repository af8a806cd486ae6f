import InstrumentLink.Proofs.Stream.Transcript

/-!
# Reading attempt by attempt

An attempt to read asks the stream once and passes on what it answers. So the bytes that attempts
return, one after the other, are the bytes that the stream handed out. Only an error that is not
transient ends this: it closes the handle, and without a handle the stream is not asked any more.
-/

namespace InstrumentLink

variable {σ : Type}

/-- The bytes that a stream handed out with a call. -/
def StreamCall.given : StreamCall → ByteArray
  | read _ (.ok bytes) => bytes
  | _ => ByteArray.empty

/-- The bytes that a stream handed out with several calls, in their order. -/
def givenBytes : List StreamCall → ByteArray
  | [] => ByteArray.empty
  | call :: later => call.given ++ givenBytes later

/-- The bytes that an attempt to read yielded. -/
def yielded : Except Fault Reading → ByteArray
  | .ok (.data bytes) => bytes
  | _ => ByteArray.empty

/-- The bytes that several attempts yielded, in their order. -/
def yieldedBytes : List (Except Fault Reading) → ByteArray
  | [] => ByteArray.empty
  | answer :: later => yielded answer ++ yieldedBytes later

/-- The answers to several attempts, and the states that they left. -/
structure Attempts (σ : Type) where
  answers : List (Except Fault Reading)
  held : Option Handle
  host : σ

/-- Attempts through a handle made some calls and passed the bytes on. They end with the handle in
place, or closed. -/
structure Attempts.Made (h : Handle) (before : Transcribed σ) (run : Attempts (Transcribed σ))
    (calls : List StreamCall) : Prop where
  called : run.host.calls = before.calls ++ calls
  bytes : yieldedBytes run.answers = givenBytes calls
  ends : run.held = some h ∧ run.host.closed = before.closed ∨
    run.held = none ∧ run.host.closed = before.closed ++ [h]

namespace Channels

/-- Makes attempts to read through a handle, each with room for so many bytes. -/
def readEach (channels : Channels σ) : List Nat → Option Handle → σ → Attempts σ
  | [], held, os => ⟨[], held, os⟩
  | room :: rest, held, os =>
      let first := channels.readOnce held room os
      let later := channels.readEach rest first.state first.host
      { later with answers := first.answer :: later.answers }

/-- How an attempt to read passes on what the stream answers. -/
structure PassesOn (h : Handle) (room : Nat) (answer : Except IoError ByteArray)
    (before : Transcribed σ) (done : Outcome (Transcribed σ) (Option Handle) Reading) : Prop where
  one_call : done.host.calls = before.calls ++ [.read room answer]
  data_iff : ∀ bytes, done.answer = .ok (.data bytes) ↔
    answer = .ok bytes ∧ (bytes.size = 0 → room = 0)
  /-- No bytes are the end of the stream only where there was room for some. -/
  closed_iff : done.answer = .ok .closed ↔
    ∃ bytes, answer = .ok bytes ∧ bytes.size = 0 ∧ room ≠ 0
  wouldBlock_iff : done.answer = .ok .wouldBlock ↔ ∃ e, answer = .error e ∧ e.isTransient = true
  raised_iff : ∀ fault, done.answer = .error fault ↔
    ∃ e, answer = .error e ∧ e.isTransient = false ∧ fault = .ofRead e
  released : (∃ fault, done.answer = .error fault) →
    done.state = none ∧ done.host.closed = before.closed ++ [h]
  kept : (∀ fault, done.answer ≠ .error fault) →
    done.state = some h ∧ done.host.closed = before.closed

variable (channels : Channels σ)

theorem readOnce_passesOn (h : Handle) (room : Nat) (record : Transcribed σ) :
    PassesOn h room ((channels.stream h).read room record.os).1 record
      (channels.transcribed.readOnce (some h) room record) := by
  generalize attempt : (channels.stream h).read room record.os = answered
  obtain ⟨answer, os⟩ := answered
  have asked : (channels.transcribed.stream h).read room record =
      (answer, record.note (.read room answer) os) := by
    simp only [transcribed, ByteStream.transcribed, attempt]
  simp only [readOnce, asked]
  cases answer with
  | ok bytes =>
    dsimp only
    split
    · next ends =>
      have nothing : bytes = ByteArray.empty := ByteArray.size_eq_zero_iff.mp ends.1
      constructor <;> simp [Transcribed.note, nothing, ends.2]
    · next goes_on =>
      have no_end : bytes = ByteArray.empty → room = 0 := by simpa using goes_on
      constructor <;> simp [Transcribed.note] <;> exact no_end
  | error e =>
    dsimp only
    split
    · next again => constructor <;> simp [Transcribed.note] <;> exact again
    · next final =>
      have last : e.isTransient = false := by simpa using final
      constructor
      case raised_iff =>
        intro fault
        constructor
        · rintro ⟨⟩
          exact ⟨e, rfl, last, rfl⟩
        · rintro ⟨_, ⟨⟩, -, rfl⟩
          rfl
      all_goals simp [Transcribed.note, transcribed, last]

private theorem readEach_none (rooms : List Nat) (os : σ) :
    channels.readEach rooms none os =
      ⟨rooms.map fun _ => .error .readWithoutHandle, none, os⟩ := by
  induction rooms with
  | nil => rfl
  | cons room rest ih => simp only [readEach, readOnce, ih, List.map_cons]

private theorem PassesOn.yielded_eq {h : Handle} {room : Nat} {answer : Except IoError ByteArray}
    {before : Transcribed σ} {done : Outcome (Transcribed σ) (Option Handle) Reading}
    (passes : PassesOn h room answer before done) :
    yielded done.answer = (StreamCall.read room answer).given := by
  cases answer with
  | error e =>
    -- nothing was handed out, so the attempt does not answer with data
    match read : done.answer with
    | .ok (.data bytes) => cases ((passes.data_iff bytes).mp read).1
    | .ok .closed | .ok .wouldBlock | .error _ => rfl
  | ok bytes =>
    by_cases ends : bytes.size = 0 ∧ room ≠ 0
    · have nothing : bytes = ByteArray.empty := ByteArray.size_eq_zero_iff.mp ends.1
      rw [passes.closed_iff.mpr ⟨bytes, rfl, ends.1, ends.2⟩, nothing]
      rfl
    · have no_end : bytes.size = 0 → room = 0 := by simpa using ends
      rw [(passes.data_iff bytes).mpr ⟨rfl, no_end⟩]
      rfl

private theorem readOnce_transcribed (held : Option Handle) (room : Nat) (record : Transcribed σ) :
    channels.readOnce held room record.os =
      let done := channels.transcribed.readOnce held room record
      ⟨done.answer, done.state, done.host.os⟩ := by
  cases held with
  | none => rfl
  | some h =>
    simp only [readOnce, transcribed, ByteStream.transcribed]
    generalize (channels.stream h).read room record.os = answered
    obtain ⟨bytes | e, os⟩ := answered
    all_goals
      dsimp only
      split <;> rfl

private theorem readEach_transcribed (rooms : List Nat) (held : Option Handle)
    (record : Transcribed σ) :
    channels.readEach rooms held record.os =
      let run := channels.transcribed.readEach rooms held record
      ⟨run.answers, run.held, run.host.os⟩ := by
  induction rooms generalizing held record with
  | nil => rfl
  | cons room rest ih =>
    simp only [readEach]
    rw [channels.readOnce_transcribed held room record]
    simp only [ih]

private theorem yieldedBytes_refused (rooms : List Nat) :
    yieldedBytes (rooms.map fun _ => .error .readWithoutHandle) = ByteArray.empty := by
  induction rooms with
  | nil => rfl
  | cons room rest ih =>
    rw [List.map_cons, yieldedBytes, ih]
    rfl

private theorem readEach_made (h : Handle) (rooms : List Nat) (record : Transcribed σ) :
    ∃ calls, (channels.transcribed.readEach rooms (some h) record).Made h record calls := by
  induction rooms generalizing record with
  | nil => exact ⟨[], (List.append_nil _).symm, rfl, Or.inl ⟨rfl, rfl⟩⟩
  | cons room rest ih =>
    simp only [readEach]
    generalize asked : (channels.stream h).read room record.os = answered
    have passes := channels.readOnce_passesOn h room record
    rw [asked] at passes
    generalize channels.transcribed.readOnce (some h) room record = first at passes
    match read : first.answer with
    | .error fault =>
      -- the handle is gone, so the later attempts neither ask nor return anything
      obtain ⟨given_up, shut⟩ := passes.released ⟨fault, read⟩
      refine ⟨[.read room answered.1], ?_, ?_, Or.inr ⟨?_, ?_⟩⟩ <;>
        simp only [given_up, readEach_none]
      · exact passes.one_call
      · rw [yieldedBytes, yieldedBytes_refused, givenBytes, ← passes.yielded_eq, read]
        rfl
      · exact shut
    | .ok reading =>
      obtain ⟨still, open_still⟩ := passes.kept (by simp [read])
      obtain ⟨calls, later⟩ := ih first.host
      refine ⟨.read room answered.1 :: calls, ?_, ?_, ?_⟩ <;> simp only [still]
      · rw [later.called, passes.one_call, List.append_assoc, List.singleton_append]
      · rw [yieldedBytes, later.bytes, givenBytes, ← passes.yielded_eq, read]
      · rw [← open_still]
        exact later.ends

/-- What a sequence of attempts through a handle comes to, whatever the stream answers. -/
structure ReadsInOrder (h : Handle) (rooms : List Nat) (os : σ) : Prop where
  /-- The transcript leaves the attempts as they are. -/
  observed : channels.readEach rooms (some h) os =
    let run := channels.transcribed.readEach rooms (some h) { os }
    ⟨run.answers, run.held, run.host.os⟩
  in_order : let run := channels.transcribed.readEach rooms (some h) { os }
    yieldedBytes run.answers = givenBytes run.host.calls
  ends : let run := channels.transcribed.readEach rooms (some h) { os }
    run.held = some h ∧ run.host.closed = [] ∨ run.held = none ∧ run.host.closed = [h]
  /-- With the handle in place, the next attempt asks once. -/
  asks : let run := channels.transcribed.readEach rooms (some h) { os }
    run.held = some h → ∀ room,
      PassesOn h room ((channels.stream h).read room run.host.os).1 run.host
        (channels.transcribed.readOnce run.held room run.host)
  /-- Without it, no later attempt asks. -/
  silent : let run := channels.transcribed.readEach rooms (some h) { os }
    run.held = none → ∀ later, channels.transcribed.readEach later run.held run.host =
      ⟨later.map fun _ => .error .readWithoutHandle, none, run.host⟩

theorem readEach_inOrder (h : Handle) (rooms : List Nat) (os : σ) :
    channels.ReadsInOrder h rooms os := by
  obtain ⟨calls, made⟩ := channels.readEach_made h rooms { os }
  constructor
  case observed => exact channels.readEach_transcribed rooms (some h) { os }
  case in_order =>
    intro run
    have called : run.host.calls = calls := made.called
    rw [called]
    exact made.bytes
  case ends => exact made.ends
  case asks =>
    intro run held room
    rw [held]
    exact channels.readOnce_passesOn h room run.host
  case silent =>
    intro run gone later
    rw [gone]
    exact channels.transcribed.readEach_none later run.host

end Channels

end InstrumentLink
