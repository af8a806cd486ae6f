import InstrumentLink.Stream

/-!
# Transcripts of streams

A transcript notes every call that reaches a stream, with its answer. The stream below answers as
it would without one. A schedule of interruptions does the opposite: it lets some writes fail as
interrupted before they reach the stream. Both follow the stream below write by write.
-/

namespace InstrumentLink

/-- A call on a stream, and what it answered. -/
inductive StreamCall
  | write (offered : ByteArray) (answer : Except IoError Nat)
  | read (room : Nat) (answer : Except IoError ByteArray)

/-- The bytes that a stream took with a call. -/
def StreamCall.taken : StreamCall → ByteArray
  | write offered (.ok n) => offered.extract 0 n
  | _ => ByteArray.empty

/-- The bytes that a stream took with several calls, in their order. -/
def takenBytes : List StreamCall → ByteArray
  | [] => ByteArray.empty
  | call :: later => call.taken ++ takenBytes later

@[simp] theorem takenBytes_nil : takenBytes [] = ByteArray.empty := rfl

@[simp] theorem takenBytes_cons (call : StreamCall) (later : List StreamCall) :
    takenBytes (call :: later) = call.taken ++ takenBytes later := rfl

theorem takenBytes_append (calls later : List StreamCall) :
    takenBytes (calls ++ later) = takenBytes calls ++ takenBytes later := by
  induction calls with
  | nil => exact ByteArray.empty_append.symm
  | cons call rest ih =>
    rw [List.cons_append, takenBytes_cons, takenBytes_cons, ih, ByteArray.append_assoc]

/-- A host with a transcript of its streams. -/
structure Transcribed (σ : Type) where
  os : σ
  /-- The calls so far, oldest first. -/
  calls : List StreamCall := []
  /-- The handles that were closed, oldest first. -/
  closed : List Handle := []

namespace Transcribed

variable {σ : Type}

/-- Notes a call. -/
def note (call : StreamCall) (os : σ) (record : Transcribed σ) : Transcribed σ :=
  { record with os, calls := record.calls ++ [call] }

@[simp] theorem calls_note (call : StreamCall) (os : σ) (record : Transcribed σ) :
    (record.note call os).calls = record.calls ++ [call] := rfl

end Transcribed

variable {σ σ' : Type}

/-- A stream follows another one under a reading of its states: each of its writes is one of the
other stream's, or is interrupted and of no consequence there. -/
def ByteStream.Follows (upper : ByteStream σ') (lower : ByteStream σ) (below : σ' → σ) : Prop :=
  ∀ bytes state,
    (∃ e, (upper.write bytes state).1 = .error e ∧ e.condition = .interrupted ∧
        below (upper.write bytes state).2 = below state) ∨
      ((upper.write bytes state).1 = (lower.write bytes (below state)).1 ∧
        below (upper.write bytes state).2 = (lower.write bytes (below state)).2)

/-- The streams of a host follow those of another one, and closing a handle has the same effect. -/
structure Channels.Follow (upper : Channels σ') (lower : Channels σ) (below : σ' → σ) : Prop where
  stream : ∀ h, (upper.stream h).Follows (lower.stream h) below
  close : ∀ h state, below (upper.close h state) = lower.close h (below state)

/-- The stream with a transcript. -/
def ByteStream.transcribed (stream : ByteStream σ) : ByteStream (Transcribed σ) where
  write := fun bytes record =>
    let answered := stream.write bytes record.os
    (answered.1, record.note (.write bytes answered.1) answered.2)
  read := fun room record =>
    let answered := stream.read room record.os
    (answered.1, record.note (.read room answered.1) answered.2)
  patience := fun record => stream.patience record.os
  accepted_le := fun bytes record => stream.accepted_le bytes record.os
  received_le := fun room record => stream.received_le room record.os
  patience_lt := fun bytes record => stream.patience_lt bytes record.os

@[simp] theorem ByteStream.answer_transcribed_write (stream : ByteStream σ) (bytes : ByteArray)
    (record : Transcribed σ) :
    (stream.transcribed.write bytes record).1 = (stream.write bytes record.os).1 := rfl

@[simp] theorem ByteStream.host_transcribed_write (stream : ByteStream σ) (bytes : ByteArray)
    (record : Transcribed σ) :
    (stream.transcribed.write bytes record).2 =
      record.note (.write bytes (stream.write bytes record.os).1)
        (stream.write bytes record.os).2 := rfl

/-- The streams of a host with a transcript of what becomes of them. -/
def Channels.transcribed (channels : Channels σ) : Channels (Transcribed σ) where
  stream := fun h => (channels.stream h).transcribed
  close := fun h record =>
    { record with os := channels.close h record.os, closed := record.closed ++ [h] }

theorem Channels.transcribed_follow (channels : Channels σ) :
    channels.transcribed.Follow channels Transcribed.os where
  stream := fun _ _ _ => Or.inr ⟨rfl, rfl⟩
  close := fun _ _ => rfl

/-- Interruptions to come: an entry either interrupts a write with a text, or lets it through. -/
abbrev Interruptions := List (Option String)

/-- A write on a stream that may be interrupted first. -/
def ByteStream.writeUnlessInterrupted (stream : ByteStream σ) (bytes : ByteArray) :
    σ × Interruptions → Except IoError Nat × σ × Interruptions
  | (os, some text :: later) => (.error ⟨.interrupted, text⟩, os, later)
  | (os, none :: later) => ((stream.write bytes os).1, (stream.write bytes os).2, later)
  | (os, []) => ((stream.write bytes os).1, (stream.write bytes os).2, [])

private theorem ByteStream.writeUnlessInterrupted_accepted_le (stream : ByteStream σ)
    (bytes : ByteArray) (state : σ × Interruptions) (n : Nat)
    (h : (stream.writeUnlessInterrupted bytes state).1 = .ok n) : n ≤ bytes.size := by
  unfold writeUnlessInterrupted at h
  split at h
  · cases h
  · exact stream.accepted_le bytes _ n h
  · exact stream.accepted_le bytes _ n h

private theorem ByteStream.writeUnlessInterrupted_patience_lt (stream : ByteStream σ)
    (bytes : ByteArray) (state : σ × Interruptions) (e : IoError)
    (h : (stream.writeUnlessInterrupted bytes state).1 = .error e)
    (again : e.condition = .interrupted) :
    stream.patience (stream.writeUnlessInterrupted bytes state).2.1 +
        (stream.writeUnlessInterrupted bytes state).2.2.length <
      stream.patience state.1 + state.2.length := by
  unfold writeUnlessInterrupted at h ⊢
  split at h
  · simp only [List.length_cons]
    omega
  · have := stream.patience_lt bytes _ e h again
    simp only [List.length_cons]
    omega
  · have := stream.patience_lt bytes _ e h again
    simp only [List.length_nil]
    omega

/-- The stream with interruptions put in front of its own answers to writes. -/
def ByteStream.interrupted (stream : ByteStream σ) : ByteStream (σ × Interruptions) where
  write := stream.writeUnlessInterrupted
  read := fun room state =>
    ((stream.read room state.1).1, (stream.read room state.1).2, state.2)
  patience := fun state => stream.patience state.1 + state.2.length
  accepted_le := stream.writeUnlessInterrupted_accepted_le
  received_le := fun room state => stream.received_le room state.1
  patience_lt := stream.writeUnlessInterrupted_patience_lt

/-- The streams of a host with interruptions put in front of their own answers to writes. -/
def Channels.interrupted (channels : Channels σ) : Channels (σ × Interruptions) where
  stream := fun h => (channels.stream h).interrupted
  close := fun h state => (channels.close h state.1, state.2)

theorem Channels.interrupted_follow (channels : Channels σ) :
    channels.interrupted.Follow channels Prod.fst where
  stream := by
    rintro h bytes ⟨os, schedule⟩
    match schedule with
    | some text :: later => exact Or.inl ⟨⟨.interrupted, text⟩, rfl, rfl, rfl⟩
    | none :: later => exact Or.inr ⟨rfl, rfl⟩
    | [] => exact Or.inr ⟨rfl, rfl⟩
  close := fun _ _ => rfl

end InstrumentLink
