import InstrumentLink.Outcome

/-!
# Byte streams behind a handle

A host moves bytes a part at a time: a write may take fewer bytes than it is offered, and a read
returns what there is. Over such a stream this module defines the two operations that endpoints
use. `Channels.writeFully` repeats partial writes until all bytes are out, `Channels.readOnce`
makes a single attempt. Both give the handle up on an error that is not transient.
-/

namespace InstrumentLink

/-- A resource that the host has opened. -/
structure Handle where
  number : Nat
deriving DecidableEq, Repr, Inhabited

/-- One open byte stream of a host with states `σ`. -/
structure ByteStream (σ : Type) where
  /-- Offers bytes; answers how many were taken. -/
  write : ByteArray → σ → Except IoError Nat × σ
  /-- Asks for at most so many bytes; no bytes at all mean that the peer has closed. -/
  read : Nat → σ → Except IoError ByteArray × σ
  /-- How many more writes the host may interrupt. -/
  patience : σ → Nat
  accepted_le : ∀ bytes os n, (write bytes os).1 = .ok n → n ≤ bytes.size
  received_le : ∀ room os bytes, (read room os).1 = .ok bytes → bytes.size ≤ room
  patience_lt : ∀ bytes os e, (write bytes os).1 = .error e → e.condition = .interrupted →
    patience (write bytes os).2 < patience os

/-- The front part of a byte sequence is no longer than asked for. -/
theorem size_front_le (bytes : ByteArray) (room : Nat) : (bytes.extract 0 room).size ≤ room := by
  rw [ByteArray.size_extract]
  omega

namespace ByteStream

variable {σ : Type}

/-- Offers what is left until nothing is, and answers the count of all bytes taken. An interrupted
write is tried again; a write that takes nothing is an error. -/
def writeAll (stream : ByteStream σ) (rest : ByteArray) (sent : Nat) (os : σ) :
    Except IoError Nat × σ :=
  if _empty : rest.size = 0 then (.ok sent, os)
  else
    match taken : (stream.write rest os).1 with
    | .ok 0 => (.error .nothingAccepted, (stream.write rest os).2)
    | .ok (n + 1) =>
        stream.writeAll (rest.extract (n + 1) rest.size) (sent + (n + 1)) (stream.write rest os).2
    | .error e =>
        if _again : e.condition = .interrupted then
          stream.writeAll rest sent (stream.write rest os).2
        else (.error e, (stream.write rest os).2)
termination_by (rest.size, stream.patience os)
decreasing_by
  · apply Prod.Lex.left
    have := stream.accepted_le rest os _ taken
    simp only [ByteArray.size_extract]
    omega
  · exact Prod.Lex.right _ (stream.patience_lt rest os e taken _again)

variable (stream : ByteStream σ) {rest : ByteArray} (sent : Nat) {os : σ}

theorem writeAll_of_empty (empty : rest.size = 0) :
    stream.writeAll rest sent os = (.ok sent, os) := by
  rw [writeAll]
  simp [empty]

theorem writeAll_of_refused (some_left : rest.size ≠ 0)
    (refused : (stream.write rest os).1 = .ok 0) :
    stream.writeAll rest sent os = (.error .nothingAccepted, (stream.write rest os).2) := by
  rw [writeAll]
  simp only [some_left, ↓reduceDIte]
  split <;> simp_all

theorem writeAll_of_taken (some_left : rest.size ≠ 0) {n : Nat}
    (taken : (stream.write rest os).1 = .ok (n + 1)) :
    stream.writeAll rest sent os =
      stream.writeAll (rest.extract (n + 1) rest.size) (sent + (n + 1))
        (stream.write rest os).2 := by
  rw [writeAll]
  simp only [some_left, ↓reduceDIte]
  split <;> simp_all

theorem writeAll_of_interrupted (some_left : rest.size ≠ 0) {e : IoError}
    (failed : (stream.write rest os).1 = .error e) (again : e.condition = .interrupted) :
    stream.writeAll rest sent os = stream.writeAll rest sent (stream.write rest os).2 := by
  rw [writeAll]
  simp only [some_left, ↓reduceDIte]
  split <;> simp_all

theorem writeAll_of_failed (some_left : rest.size ≠ 0) {e : IoError}
    (failed : (stream.write rest os).1 = .error e) (final : e.condition ≠ .interrupted) :
    stream.writeAll rest sent os = (.error e, (stream.write rest os).2) := by
  rw [writeAll]
  simp only [some_left, ↓reduceDIte]
  split <;> simp_all

/-- What every write keeps, the loop keeps. -/
theorem writeAll_keeps {P : σ → Prop} (kept : ∀ bytes os, P os → P (stream.write bytes os).2)
    (rest : ByteArray) (sent : Nat) {os : σ} (holds : P os) :
    P (stream.writeAll rest sent os).2 := by
  induction rest, sent, os using writeAll.induct stream with
  | case1 rest sent os empty =>
    rw [writeAll_of_empty _ sent empty]
    exact holds
  | case2 rest sent os some_left refused =>
    rw [writeAll_of_refused _ sent some_left refused]
    exact kept rest os holds
  | case3 rest sent os some_left n taken ih =>
    rw [writeAll_of_taken _ sent some_left taken]
    exact ih (kept rest os holds)
  | case4 rest sent os some_left e failed again ih =>
    rw [writeAll_of_interrupted _ sent some_left failed again]
    exact ih (kept rest os holds)
  | case5 rest sent os some_left e failed final =>
    rw [writeAll_of_failed _ sent some_left failed final]
    exact kept rest os holds

end ByteStream

/-- What a single read attempt found. -/
inductive Reading
  | data (bytes : ByteArray)
  | wouldBlock
  | closed

/-- The open streams of a host, by handle. -/
structure Channels (σ : Type) where
  stream : Handle → ByteStream σ
  close : Handle → σ → σ

namespace Channels

variable {σ : Type}

/-- Writes every byte, or fails and gives the handle up. -/
def writeFully (channels : Channels σ) (held : Option Handle) (bytes : ByteArray) (os : σ) :
    Outcome σ (Option Handle) Nat :=
  match held with
  | none => ⟨.error .writeWithoutHandle, none, os⟩
  | some h =>
      match (channels.stream h).writeAll bytes 0 os with
      | (.ok sent, os) => ⟨.ok sent, some h, os⟩
      | (.error e, os) => ⟨.error (.ofWrite e), none, channels.close h os⟩

/-- Makes one read attempt. A transient condition is a reading of its own and keeps the handle;
any other error gives it up. An empty buffer never shows that the peer has closed. -/
def readOnce (channels : Channels σ) (held : Option Handle) (room : Nat) (os : σ) :
    Outcome σ (Option Handle) Reading :=
  match held with
  | none => ⟨.error .readWithoutHandle, none, os⟩
  | some h =>
      match (channels.stream h).read room os with
      | (.ok bytes, os) =>
          if bytes.size = 0 ∧ room ≠ 0 then ⟨.ok .closed, some h, os⟩
          else ⟨.ok (.data bytes), some h, os⟩
      | (.error e, os) =>
          if e.isTransient then ⟨.ok .wouldBlock, some h, os⟩
          else ⟨.error (.ofRead e), none, channels.close h os⟩

end Channels

end InstrumentLink
