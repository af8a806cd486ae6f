import InstrumentLink.Loopback.Host
import InstrumentLink.Proofs.Host.Pipe

/-! # The inbox of each end of a stream is the pipe from the other end -/

namespace InstrumentLink.Loopback.World

/-- What the inbox of a reader holds. As long as the pipe has not ended, both ends are there and
know of each other. -/
def Piped (writer reader : Handle) (pipe : Pipe) (world : World) : Prop :=
  ∃ far, world.streams.get? reader = some far ∧ far.peer = writer ∧ far.inbox = pipe.waiting ∧
    (pipe.ended = false → far.peerState = .present ∧
      ∃ near, world.streams.get? writer = some near ∧ near.peer = reader ∧
        near.peerState = .present)

variable {world : World} {h other : Handle}

private theorem get?_modifyEnd_self {streamEnd : StreamEnd} (f : StreamEnd → StreamEnd)
    (found : world.streams.get? h = some streamEnd) :
    (world.modifyEnd h f).streams.get? h = some (f streamEnd) := by
  simp only [modifyEnd, found]
  exact world.streams.get?_insert_self h (f streamEnd)

private theorem get?_modifyEnd_of_ne (f : StreamEnd → StreamEnd) (apart : other ≠ h) :
    (world.modifyEnd h f).streams.get? other = world.streams.get? other := by
  unfold modifyEnd
  split
  · exact world.streams.get?_insert_of_ne _ apart
  · rfl

private theorem front_min_size (bytes : ByteArray) (room : Nat) :
    bytes.extract 0 (min room bytes.size) = bytes.extract 0 room := by
  rcases Nat.le_total room bytes.size with fits | more
  · rw [Nat.min_eq_left fits]
  · rw [Nat.min_eq_right more, ByteArray.extract_zero_size, ← Nat.max_eq_left more,
      ByteArray.extract_zero_max_size]

private theorem front_append_back (bytes : ByteArray) (room : Nat) :
    bytes.extract 0 room ++ bytes.extract room bytes.size = bytes := by
  apply ByteArray.ext
  simp

namespace Piped

variable {writer reader : Handle} (apart : writer ≠ reader) {pipe : Pipe}

include apart

private theorem modify_writer (holds : Piped writer reader pipe world) {f : StreamEnd → StreamEnd}
    (same : ∀ near, (f near).peer = near.peer ∧ (f near).peerState = near.peerState) :
    Piped writer reader pipe (world.modifyEnd writer f) := by
  obtain ⟨far, found, peer, inbox, live⟩ := holds
  refine ⟨far, ?_, peer, inbox, ?_⟩
  · rw [get?_modifyEnd_of_ne f apart.symm, found]
  · intro open_still
    obtain ⟨present, near, near_found, near_peer, near_present⟩ := live open_still
    obtain ⟨same_peer, same_state⟩ := same near
    exact ⟨present, f near, get?_modifyEnd_self f near_found, same_peer.trans near_peer,
      same_state.trans near_present⟩

private theorem modify_reader (holds : Piped writer reader pipe world) {f : StreamEnd → StreamEnd}
    {waiting : ByteArray} (same : ∀ far, (f far).peer = far.peer)
    (state : pipe.ended = false → ∀ far, (f far).peerState = far.peerState)
    (inbox : ∀ far, far.inbox = pipe.waiting → (f far).inbox = waiting) :
    Piped writer reader ⟨waiting, pipe.ended⟩ (world.modifyEnd reader f) := by
  obtain ⟨far, found, peer, inbox_eq, live⟩ := holds
  refine ⟨f far, get?_modifyEnd_self f found, (same far).trans peer, inbox far inbox_eq, ?_⟩
  intro open_still
  obtain ⟨present, near, near_found, near_peer, near_present⟩ := live open_still
  refine ⟨(state open_still far).trans present, near, ?_, near_peer, near_present⟩
  rw [get?_modifyEnd_of_ne f apart, near_found]

private theorem write {waiting : ByteArray} (holds : Piped writer reader { waiting } world)
    (bytes : ByteArray) :
    Piped writer reader
      { waiting := waiting ++ (StreamCall.write bytes (World.write writer bytes world).1).taken }
      (World.write writer bytes world).2 := by
  obtain ⟨far, found, peer, inbox, live⟩ := id holds
  obtain ⟨present, near, near_found, near_peer, near_present⟩ := live rfl
  -- a call that takes nothing leaves the world
  have nothing : Piped writer reader { waiting := waiting ++ ByteArray.empty } world := by
    rw [ByteArray.append_empty]
    exact holds
  simp only [World.write, near_found]
  split
  · simp only [StreamCall.taken, ByteArray.extract_same]
    exact nothing
  · simp only [writeStream, near_present, near_peer, found]
    split
    · exact nothing
    · simp only [StreamCall.taken, front_min_size]
      apply holds.modify_reader apart
      · exact fun _ => rfl
      · exact fun _ _ => rfl
      · intro other inbox_eq
        rw [inbox_eq]

private theorem write_back (holds : Piped writer reader pipe world) (bytes : ByteArray) :
    Piped writer reader pipe (World.write reader bytes world).2 := by
  obtain ⟨far, found, peer, inbox, live⟩ := id holds
  simp only [World.write, found]
  split
  · exact holds
  · unfold writeStream
    split
    · exact holds
    · exact holds
    · next closed =>
      -- a reader that knows the other end to be closed is at the end of its pipe
      apply holds.modify_reader apart
      · exact fun _ => rfl
      · intro open_still
        rw [(live open_still).1] at closed
        cases closed
      · exact fun _ inbox_eq => inbox_eq
    · rw [peer]
      split
      · exact holds
      · dsimp only
        split
        · exact holds
        · exact holds.modify_writer apart fun _ => ⟨rfl, rfl⟩

private theorem read {room : Nat} {bytes : ByteArray} {after : World}
    (holds : Piped writer reader pipe world)
    (given : World.read reader room world = (.ok bytes, after)) :
    ∃ later, pipe.waiting = bytes ++ later ∧ Piped writer reader ⟨later, pipe.ended⟩ after := by
  obtain ⟨far, found, peer, inbox, live⟩ := id holds
  simp only [World.read, found, readStream] at given
  split at given
  · next empty =>
    obtain ⟨past_end, rfl⟩ := Prod.mk.inj given
    unfold readPastEnd at past_end
    split at past_end
    all_goals cases past_end
    all_goals exact ⟨pipe.waiting, ByteArray.empty_append.symm, holds⟩
  · obtain ⟨front, rfl⟩ := Prod.mk.inj given
    cases front
    refine ⟨far.inbox.extract room far.inbox.size, ?_, ?_⟩
    · rw [front_append_back, inbox]
    · apply holds.modify_reader apart
      · exact fun _ => rfl
      · exact fun _ _ => rfl
      · intro other inbox_eq
        rw [inbox_eq, inbox]

private theorem read_back (holds : Piped writer reader pipe world) (open_still : pipe.ended = false)
    (room : Nat) : Piped writer reader pipe (World.read writer room world).2 := by
  obtain ⟨far, found, peer, inbox, live⟩ := id holds
  obtain ⟨present, near, near_found, near_peer, near_present⟩ := live open_still
  simp only [World.read, near_found, readStream]
  split
  · exact holds
  · exact holds.modify_writer apart fun _ => ⟨rfl, rfl⟩

private theorem close {waiting : ByteArray} (holds : Piped writer reader { waiting } world) :
    Piped writer reader ⟨waiting, true⟩ (World.close writer world) := by
  obtain ⟨far, found, peer, inbox, live⟩ := holds
  obtain ⟨present, near, near_found, near_peer, near_present⟩ := live rfl
  simp only [World.close, near_found, closeStream, near_peer]
  refine ⟨{ far with peerState := near.farewell }, ?_, peer, inbox, fun open_still => ?_⟩
  · rw [Table.get?_erase_of_ne _ apart.symm]
    exact get?_modifyEnd_self _ found
  · cases open_still

private theorem finish {waiting : ByteArray} (holds : Piped writer reader { waiting } world)
    (how : Shutdown) :
    Piped writer reader ⟨waiting, true⟩ (World.close writer (World.shutdown writer how world)) :=
  close apart (holds.modify_writer apart fun _ => ⟨rfl, rfl⟩)

omit apart

private theorem read_end {room : Nat} {bytes : ByteArray} {after : World}
    (holds : Piped writer reader pipe world)
    (given : World.read reader room world = (.ok bytes, after)) (nothing : bytes.size = 0)
    (asked : room ≠ 0) : pipe.waiting = ByteArray.empty ∧ pipe.ended = true := by
  obtain ⟨far, found, peer, inbox, live⟩ := holds
  simp only [World.read, found, readStream] at given
  split at given
  · next empty =>
    refine ⟨by rw [← inbox]; exact ByteArray.size_eq_zero_iff.mp empty, ?_⟩
    cases ended : pipe.ended with
    | true => rfl
    | false =>
      rw [(live ended).1] at given
      cases given
  · next some_left =>
    obtain ⟨front, -⟩ := Prod.mk.inj given
    cases front
    rw [ByteArray.size_extract] at nothing
    omega

private theorem read_failed {room : Nat} {e : IoError} {after : World}
    (holds : Piped writer reader pipe world)
    (failed : World.read reader room world = (.error e, after)) :
    Piped writer reader pipe after := by
  obtain ⟨far, found, -⟩ := id holds
  simp only [World.read, found, readStream] at failed
  split at failed
  · obtain ⟨-, rfl⟩ := Prod.mk.inj failed
    exact holds
  · obtain ⟨front, -⟩ := Prod.mk.inj failed
    cases front

end Piped

/-- The machine in memory carries bytes between any two handles that are the ends of a stream. -/
theorem carries {writer reader : Handle} (apart : writer ≠ reader) :
    host.Carries writer reader (Piped writer reader) where
  write := fun bytes holds => Piped.write apart holds bytes
  read := fun holds given => Piped.read apart holds given
  read_transient := fun holds failed _ => Piped.read_failed holds failed
  read_end := fun holds given nothing asked => Piped.read_end holds given nothing asked
  close := fun holds => Piped.close apart holds
  finish := fun how holds => Piped.finish apart holds how
  write_back := fun bytes holds => Piped.write_back apart holds bytes
  read_back := fun room holds => Piped.read_back apart holds rfl room

end InstrumentLink.Loopback.World
