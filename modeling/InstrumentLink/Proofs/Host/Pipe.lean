import InstrumentLink.Proofs.Endpoint.Receive
import InstrumentLink.Proofs.Stream.Delivery

/-!
# Pipes

One direction of a connection is a pipe from the end that writes to the end that reads. A host that
carries bytes takes them at one end and gives them out at the other, in order and without loss, and
shows an end of the stream only after all bytes. This module follows the bytes through the
operations that endpoints use.
-/

namespace InstrumentLink

variable {σ : Type}

/-- What a pipe holds: the bytes that were taken and not given out yet, oldest first. -/
structure Pipe where
  waiting : ByteArray := ByteArray.empty
  /-- The writing end is gone, so that no more bytes will follow. -/
  ended : Bool := false

/-- A host carries bytes from one handle to another. `Holds` is what the pipe between them holds in
a state of the host; it matters as long as the reader has its handle. -/
structure Host.Carries (host : Host σ) (writer reader : Handle) (Holds : Pipe → σ → Prop) :
    Prop where
  /-- What a write takes goes behind the bytes that wait. -/
  write : ∀ {waiting os} bytes, Holds { waiting } os →
    let done := (host.stream writer).write bytes os
    Holds { waiting := waiting ++ (StreamCall.write bytes done.1).taken } done.2
  /-- A read gives out the bytes in front. -/
  read : ∀ {waiting ended os room bytes os'}, Holds ⟨waiting, ended⟩ os →
    (host.stream reader).read room os = (.ok bytes, os') →
    ∃ later, waiting = bytes ++ later ∧ Holds ⟨later, ended⟩ os'
  read_transient : ∀ {pipe os room e os'}, Holds pipe os →
    (host.stream reader).read room os = (.error e, os') → e.isTransient = true → Holds pipe os'
  /-- The end of the stream comes after all bytes, once the writer is gone. -/
  read_end : ∀ {pipe os room bytes os'}, Holds pipe os →
    (host.stream reader).read room os = (.ok bytes, os') → bytes.size = 0 → room ≠ 0 →
    pipe.waiting = ByteArray.empty ∧ pipe.ended = true
  /-- Closing the writer's end ends the stream and loses nothing. -/
  close : ∀ {waiting os}, Holds { waiting } os → Holds ⟨waiting, true⟩ (host.close writer os)
  finish : ∀ {waiting os} how, Holds { waiting } os →
    Holds ⟨waiting, true⟩ (host.close writer (host.shutdown writer how os))
  /-- The direction back does not touch the pipe. -/
  write_back : ∀ {pipe os} bytes, Holds pipe os →
    Holds pipe ((host.stream reader).write bytes os).2
  read_back : ∀ {waiting os} room, Holds { waiting } os →
    Holds { waiting } ((host.stream writer).read room os).2

namespace Host.Carries

variable {host : Host σ} {writer reader : Handle} {Holds : Pipe → σ → Prop}
  (carries : host.Carries writer reader Holds)

include carries

private theorem writeAll {waiting : ByteArray} {os : σ} (holds : Holds { waiting } os)
    (bytes : ByteArray) :
    let done := (host.stream writer).transcribed.writeAll bytes 0 { os }
    Holds { waiting := waiting ++ takenBytes done.2.calls } done.2.os := by
  apply ByteStream.writeAll_keeps (host.stream writer).transcribed
    (P := fun record => Holds { waiting := waiting ++ takenBytes record.calls } record.os)
  · intro offered record so_far
    have wrote := carries.write offered so_far
    simp only [ByteStream.host_transcribed_write, Transcribed.calls_note, takenBytes_append,
      takenBytes_cons, takenBytes_nil, ByteArray.append_empty]
    rw [← ByteArray.append_assoc]
    exact wrote
  · rw [takenBytes_nil, ByteArray.append_empty]
    exact holds

theorem writeFully {waiting : ByteArray} {os : σ} (holds : Holds { waiting } os)
    (bytes : ByteArray) :
    let done := host.transcribed.writeFully (some writer) bytes { os }
    ∃ ended, Holds ⟨waiting ++ takenBytes done.host.calls, ended⟩ done.host.os ∧
      (done.state ≠ none → ended = false) := by
  have took := carries.writeAll holds bytes
  dsimp only at took ⊢
  cases loop : (host.stream writer).transcribed.writeAll bytes 0 { os } with
  | mk answer record =>
    rw [loop] at took
    cases answer with
    | ok sent =>
      rw [host.transcribed.writeFully_of_ok writer bytes _ loop]
      exact ⟨false, took, fun _ => rfl⟩
    | error e =>
      rw [host.transcribed.writeFully_of_error writer bytes _ loop]
      exact ⟨true, carries.close took, fun held => absurd rfl held⟩

theorem writeFully_back {pipe : Pipe} {os : σ} (holds : Holds pipe os) (bytes : ByteArray)
    (keeps : (host.writeFully (some reader) bytes os).state ≠ none) :
    Holds pipe (host.writeFully (some reader) bytes os).host := by
  have kept : Holds pipe ((host.stream reader).writeAll bytes 0 os).2 := by
    apply (host.stream reader).writeAll_keeps (P := Holds pipe)
    · intro offered between held
      exact carries.write_back offered held
    · exact holds
  cases loop : (host.stream reader).writeAll bytes 0 os with
  | mk answer os' =>
    rw [loop] at kept
    cases answer with
    | ok sent =>
      rw [host.writeFully_of_ok reader bytes os loop]
      exact kept
    | error e =>
      rw [host.writeFully_of_error reader bytes os loop] at keeps
      exact absurd rfl keeps

theorem receive {pipe : Pipe} {os : σ} (holds : Holds pipe os) (how : Shutdown) (room : Nat) :
    let done := host.receive how (some reader) room os
    (∃ bytes later, done.answer = .ok bytes ∧ done.state = some reader ∧
        pipe.waiting = bytes ++ later ∧ Holds ⟨later, pipe.ended⟩ done.host) ∨
      (done.answer = .ok ByteArray.empty ∧ done.state = none ∧ pipe = ⟨ByteArray.empty, true⟩) ∨
      ∃ fault, done.answer = .error fault ∧ done.state = none := by
  have received := host.received how reader room os
  generalize host.receive how (some reader) room os = done at received
  cases received with
  | data given =>
    obtain ⟨later, waiting_eq, after⟩ := carries.read holds given
    exact Or.inl ⟨_, later, rfl, rfl, waiting_eq, after⟩
  | nothingYet failed transient =>
    have after := carries.read_transient holds failed transient
    exact Or.inl ⟨_, pipe.waiting, rfl, rfl, ByteArray.empty_append.symm, after⟩
  | ended given nothing asked =>
    obtain ⟨empty, ended⟩ := carries.read_end holds given nothing asked
    have pipe_eq : pipe = ⟨pipe.waiting, pipe.ended⟩ := rfl
    rw [empty, ended] at pipe_eq
    exact Or.inr (Or.inl ⟨rfl, rfl, pipe_eq⟩)
  | failed failed => exact Or.inr (Or.inr ⟨_, rfl, rfl⟩)

theorem receive_back {waiting : ByteArray} {os : σ} (holds : Holds { waiting } os) (how : Shutdown)
    (room : Nat) :
    let done := host.receive how (some writer) room os
    ∃ ended, Holds ⟨waiting, ended⟩ done.host ∧ (done.state ≠ none → ended = false) := by
  have left := carries.read_back room holds
  have received := host.received how writer room os
  generalize host.receive how (some writer) room os = done at received
  cases received with
  | data given =>
    rw [given] at left
    exact ⟨false, left, fun _ => rfl⟩
  | nothingYet failed transient =>
    rw [failed] at left
    exact ⟨false, left, fun _ => rfl⟩
  | ended given nothing asked =>
    rw [given] at left
    exact ⟨true, carries.finish how left, fun held => absurd rfl held⟩
  | failed failed =>
    rw [failed] at left
    exact ⟨true, carries.close left, fun held => absurd rfl held⟩

end Host.Carries

/-- The bytes that a read has returned; none if it failed. -/
def returned (answer : Except Fault ByteArray) : ByteArray :=
  answer.toOption.getD ByteArray.empty

/-- What was received is the front of what was sent, and while the reader has its handle the pipe
holds the rest. A pipe does not end before the writer has given its handle up. -/
def Flows (Holds : Pipe → σ → Prop) (sent received : ByteArray) (writer reader : Option Handle)
    (os : σ) : Prop :=
  ∃ pipe : Pipe, sent = received ++ pipe.waiting ∧
    (reader ≠ none → Holds pipe os ∧ (writer ≠ none → pipe.ended = false))

namespace Flows

variable {host : Host σ} {source target : Handle} {Holds : Pipe → σ → Prop}
  (carries : host.Carries source target Holds) {sent received : ByteArray}
  {writer reader : Option Handle} {os : σ}

include carries

theorem write (flows : Flows Holds sent received writer reader os)
    (own : writer ≠ none → writer = some source) (bytes : ByteArray) :
    Flows Holds
      (sent ++ takenBytes (host.transcribed.writeFully writer bytes { os }).host.calls) received
      (host.writeFully writer bytes os).state reader (host.writeFully writer bytes os).host := by
  obtain ⟨⟨waiting, ended⟩, sent_eq, holds⟩ := flows
  have same := Channels.writeFully_of_follow host.transcribed_follow writer bytes { os }
  rw [← same]
  cases writer with
  | none =>
    refine ⟨⟨waiting, ended⟩, ?_, fun held => ⟨(holds held).1, fun writes => absurd rfl writes⟩⟩
    simp only [Channels.writeFully, takenBytes_nil, ByteArray.append_empty, sent_eq]
  | some h =>
    obtain rfl : h = source := Option.some.inj (own (Option.some_ne_none h))
    have behind : ∀ more : ByteArray, sent ++ more = received ++ (waiting ++ more) := by
      intro more
      rw [sent_eq, ByteArray.append_assoc]
    cases reader with
    | none => exact ⟨⟨_, ended⟩, behind _, fun held => absurd rfl held⟩
    | some _ =>
      obtain ⟨in_pipe, open_still⟩ := holds (Option.some_ne_none _)
      obtain rfl : ended = false := open_still (Option.some_ne_none h)
      obtain ⟨ended', after, ends⟩ := carries.writeFully in_pipe bytes
      exact ⟨⟨_, ended'⟩, behind _, fun _ => ⟨after, ends⟩⟩

theorem write_back (flows : Flows Holds sent received writer reader os)
    (own : reader ≠ none → reader = some target) (bytes : ByteArray) :
    Flows Holds sent received writer (host.writeFully reader bytes os).state
      (host.writeFully reader bytes os).host := by
  obtain ⟨pipe, sent_eq, holds⟩ := flows
  refine ⟨pipe, sent_eq, fun still_held => ?_⟩
  cases reader with
  | none => exact absurd rfl still_held
  | some h =>
    obtain rfl : h = target := Option.some.inj (own (Option.some_ne_none h))
    obtain ⟨in_pipe, open_still⟩ := holds (Option.some_ne_none h)
    exact ⟨carries.writeFully_back in_pipe bytes still_held, open_still⟩

/-- A read receives from the front of the pipe. A reader that loses its handle without a fault has
received everything, and the writer has given its own handle up. -/
theorem read (flows : Flows Holds sent received writer reader os)
    (own : reader ≠ none → reader = some target) (how : Shutdown) (room : Nat) :
    let done := host.receive how reader room os
    Flows Holds sent (received ++ returned done.answer) writer done.state done.host ∧
      (∀ bytes, done.answer = .ok bytes → done.state = none →
        sent = received ++ returned done.answer ∧ writer = none) := by
  obtain ⟨pipe, sent_eq, holds⟩ := flows
  cases reader with
  | none =>
    refine ⟨⟨pipe, ?_, fun held => absurd rfl held⟩, fun bytes ok => by cases ok⟩
    rw [sent_eq]
    exact congrArg (· ++ pipe.waiting) ByteArray.append_empty.symm
  | some h =>
    obtain rfl : h = target := Option.some.inj (own (Option.some_ne_none h))
    obtain ⟨in_pipe, open_still⟩ := holds (Option.some_ne_none h)
    rcases carries.receive in_pipe how room with ⟨bytes, later, answer, state, waiting_eq, after⟩ |
      ⟨answer, state, pipe_eq⟩ | ⟨fault, answer, state⟩
    · dsimp only
      rw [answer, state]
      refine ⟨⟨⟨later, pipe.ended⟩, ?_, fun _ => ⟨after, open_still⟩⟩,
        fun _ _ lost => by cases lost⟩
      rw [sent_eq, waiting_eq, ByteArray.append_assoc]
      rfl
    · dsimp only
      rw [answer, state]
      have all : sent = received ++ returned (.ok ByteArray.empty) := by rw [sent_eq, pipe_eq]; rfl
      refine ⟨⟨⟨ByteArray.empty, true⟩, ?_, fun held => absurd rfl held⟩, fun _ _ _ => ⟨all, ?_⟩⟩
      · rw [all, ByteArray.append_empty]
      · cases writer with
        | none => rfl
        | some w =>
          have open_pipe := open_still (Option.some_ne_none w)
          rw [pipe_eq] at open_pipe
          cases open_pipe
    · dsimp only
      rw [answer, state]
      refine ⟨⟨pipe, ?_, fun held => absurd rfl held⟩, fun bytes ok => by cases ok⟩
      rw [sent_eq]
      exact congrArg (· ++ pipe.waiting) ByteArray.append_empty.symm

theorem read_back (flows : Flows Holds sent received writer reader os)
    (own : writer ≠ none → writer = some source) (how : Shutdown) (room : Nat) :
    Flows Holds sent received (host.receive how writer room os).state reader
      (host.receive how writer room os).host := by
  obtain ⟨⟨waiting, ended⟩, sent_eq, holds⟩ := flows
  cases writer with
  | none =>
    exact ⟨⟨waiting, ended⟩, sent_eq, fun held => ⟨(holds held).1, fun writes => absurd rfl writes⟩⟩
  | some h =>
    obtain rfl : h = source := Option.some.inj (own (Option.some_ne_none h))
    cases reader with
    | none => exact ⟨⟨waiting, ended⟩, sent_eq, fun held => absurd rfl held⟩
    | some _ =>
      obtain ⟨in_pipe, open_still⟩ := holds (Option.some_ne_none _)
      obtain rfl : ended = false := open_still (Option.some_ne_none h)
      obtain ⟨ended', after, ends⟩ := carries.receive_back in_pipe how room
      exact ⟨⟨waiting, ended'⟩, sent_eq, fun _ => ⟨after, ends⟩⟩

/-- A writer that ends the connection leaves the bytes in the pipe. -/
theorem finish (flows : Flows Holds sent received writer reader os)
    (own : writer ≠ none → writer = some source) (how : Shutdown) :
    Flows Holds sent received none reader (host.endHeld how writer os) := by
  obtain ⟨⟨waiting, ended⟩, sent_eq, holds⟩ := flows
  cases writer with
  | none => exact ⟨⟨waiting, ended⟩, sent_eq, holds⟩
  | some h =>
    obtain rfl : h = source := Option.some.inj (own (Option.some_ne_none h))
    cases reader with
    | none => exact ⟨⟨waiting, ended⟩, sent_eq, fun held => absurd rfl held⟩
    | some _ =>
      obtain ⟨in_pipe, open_still⟩ := holds (Option.some_ne_none _)
      obtain rfl : ended = false := open_still (Option.some_ne_none h)
      exact ⟨⟨waiting, true⟩, sent_eq,
        fun _ => ⟨carries.finish how in_pipe, fun writes => absurd rfl writes⟩⟩

omit carries in
theorem leave (flows : Flows Holds sent received writer reader os) (os' : σ) :
    Flows Holds sent received writer none os' := by
  obtain ⟨pipe, sent_eq, -⟩ := flows
  exact ⟨pipe, sent_eq, fun held => absurd rfl held⟩

end Flows

end InstrumentLink
