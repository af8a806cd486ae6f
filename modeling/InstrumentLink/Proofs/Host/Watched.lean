import InstrumentLink.Proofs.Host.Custody
import InstrumentLink.Proofs.Host.Ledger
import Mathlib.Data.List.Nodup

/-!
# Watched hosts

A watched host has a ledger of what it opens, and also notes what it closes. What is open is what
was opened and not closed. The main statement is that requests keep the account in which what was
closed, together with what is held, is everything that was ever opened.
-/

namespace InstrumentLink

variable {σ : Type}

namespace Ledger

/-- The handles of all entries. -/
def handles (ledger : Ledger σ) : List Handle :=
  (List.range ledger.entries.length).map Handle.mk

theorem mem_handles_iff {ledger : Ledger σ} {h : Handle} :
    h ∈ ledger.handles ↔ (ledger.opening? h).isSome := by
  simp only [handles, opening?, List.mem_map, List.mem_range, Option.isSome_map,
    isSome_getElem?]
  constructor
  · rintro ⟨n, lt, rfl⟩
    exact lt
  · intro lt
    exact ⟨h.number, lt, rfl⟩

theorem nodup_handles (ledger : Ledger σ) : ledger.handles.Nodup := by
  apply List.Nodup.map _ List.nodup_range
  intro n m same
  exact congrArg Handle.number same

theorem handles_enter (ledger : Ledger σ) (opening : Opening)
    (answered : Except IoError Handle × σ) :
    (ledger.enter opening answered).2.handles =
      ledger.handles ++ granted (ledger.enter opening answered).1 := by
  unfold enter
  split
  · simp [handles, granted, List.range_succ]
  · simp [handles, granted]

end Ledger

/-- A host with a ledger of what it opens and a record of what it closes. -/
structure Watched (σ : Type) where
  ledger : Ledger σ
  /-- The handles that were closed, oldest first. -/
  closed : List Handle := []

namespace Watched

/-- Whether a handle was opened and not closed since. -/
def IsOpen (watched : Watched σ) (h : Handle) : Prop :=
  (watched.ledger.opening? h).isSome ∧ h ∉ watched.closed

def part : StatePart (Ledger σ) (Watched σ) where
  os := ledger
  withOs := fun ledger watched => { watched with ledger }

/-- What was closed, together with what is held, is everything that was opened, each once. -/
def custody : Custody (Watched σ) where
  Holds := fun watched held => (watched.closed ++ held).Perm watched.ledger.handles
  perm := fun same holds => (List.Perm.append_left _ same.symm).trans holds

variable {watched : Watched σ} {held : List Handle}

/-- What is open is what is held. -/
theorem isOpen_iff (holds : custody.Holds watched held) {h : Handle} :
    watched.IsOpen h ↔ h ∈ held := by
  have nodup := holds.nodup_iff.mpr watched.ledger.nodup_handles
  rw [IsOpen, ← Ledger.mem_handles_iff, ← holds.mem_iff, List.mem_append]
  constructor
  · rintro ⟨was_closed | mem, notMem⟩
    · exact absurd was_closed notMem
    · exact mem
  · intro mem
    exact ⟨Or.inr mem, fun was_closed => List.disjoint_of_nodup_append nodup was_closed mem⟩

theorem nodup_held (holds : custody.Holds watched held) : held.Nodup :=
  (holds.nodup_iff.mpr watched.ledger.nodup_handles).of_append_right

theorem isOpen_iff_of_exchanged {watched' : Watched σ} {given taken others : List Handle}
    (before : custody.Holds watched (given ++ others))
    (after : custody.Holds watched' (taken ++ others)) (h : Handle) :
    watched'.IsOpen h ↔ h ∈ taken ∨ watched.IsOpen h ∧ h ∉ given := by
  obtain ⟨-, -, apart⟩ := List.nodup_append.mp (nodup_held before)
  rw [isOpen_iff after, isOpen_iff before, List.mem_append, List.mem_append]
  refine or_congr_right ⟨fun other => ⟨Or.inr other, fun own => apart h own h other rfl⟩, ?_⟩
  rintro ⟨own | other, notMem⟩
  · exact absurd own notMem
  · exact other

private theorem exchanges_enter (watched : Watched σ) (opening : Opening)
    (answered : Except IoError Handle × σ) :
    custody.Exchanges [] (granted (watched.ledger.enter opening answered).1) watched
      (part.pass watched (watched.ledger.enter opening answered)).2 := by
  intro others holds
  change (watched.closed ++ _).Perm (watched.ledger.enter opening answered).2.handles
  rw [Ledger.handles_enter]
  -- the new handle is the last one in the ledger
  have moved : (granted (watched.ledger.enter opening answered).1 ++ others).Perm
      (others ++ granted (watched.ledger.enter opening answered).1) := List.perm_append_comm
  refine (moved.append_left watched.closed).trans ?_
  rw [← List.append_assoc]
  exact holds.append_right _

end Watched

/-- The host with a ledger of what it opens and a record of what it closes. -/
def Host.watched (host : Host σ) : Host (Watched σ) :=
  { host.ledger.within Watched.part with
    close := fun h watched =>
      { ledger := host.ledger.close h watched.ledger, closed := watched.closed ++ [h] } }

namespace Host

/-- Requests keep the account of what was opened and closed. -/
theorem respects_watched (host : Host σ) : host.watched.Respects Watched.custody where
  request := by
    intro given taken watched watched' request
    cases request with
    | close h =>
      intro others holds
      change ((watched.closed ++ [h]) ++ others).Perm watched.ledger.handles
      rw [List.append_assoc]
      exact holds
    | connect | listen | accept | bindDatagram | openLine => exact watched.exchanges_enter _ _
    | _ => exact fun _ holds => holds

theorem keeps_closed (host : Host σ) :
    host.watched.Keeps fun before after => before.closed <+: after.closed where
  refl := fun _ => List.prefix_rfl
  trans := List.IsPrefix.trans
  request := by
    intro given taken watched watched' request
    cases request with
    | close => exact List.prefix_append _ _
    | _ => exact List.prefix_rfl

theorem keeps_opened (host : Host σ) :
    host.watched.Keeps fun before after => before.ledger.Extends after.ledger where
  refl := fun watched => Ledger.Extends.refl watched.ledger
  trans := Ledger.Extends.trans
  request := by
    intro given taken watched watched' request
    cases request with
    | connect | listen | accept | bindDatagram | openLine =>
      exact watched.ledger.extends_enter _ _
    | _ => exact List.prefix_rfl

private theorem closed_closeHeld (host : Host σ) (held : Option Handle) (watched : Watched σ) :
    (host.watched.closeHeld held watched).closed = watched.closed ++ held.toList := by
  cases held with
  | none => exact (List.append_nil _).symm
  | some h => rfl

private theorem closed_endHeld (host : Host σ) (how : Shutdown) (held : Option Handle)
    (watched : Watched σ) :
    (host.watched.endHeld how held watched).closed = watched.closed ++ held.toList := by
  cases held with
  | none => exact (List.append_nil _).symm
  | some h => rfl

end Host

namespace Endpoint

private theorem reverse_toList (held : Option Handle) : held.toList.reverse = held.toList := by
  cases held <;> rfl

/-- An endpoint that is disconnected has its handles closed, the client of a listener before the
socket. -/
theorem closed_disconnect (host : Host σ) (endpoint : Endpoint) (watched : Watched σ) :
    (endpoint.disconnect host.watched watched).2.closed =
      watched.closed ++ endpoint.handles.reverse := by
  cases endpoint with
  | tcpClient client =>
    rw [handles, reverse_toList]
    exact host.closed_endHeld .write client.stream watched
  | udpClient client =>
    rw [handles, reverse_toList]
    exact host.closed_closeHeld client.socket watched
  | listener l =>
    have client := host.closed_endHeld .both l.client watched
    have socket := host.closed_closeHeld l.socket (host.watched.endHeld .both l.client watched)
    rw [client, List.append_assoc] at socket
    rw [handles, List.reverse_append, reverse_toList, reverse_toList]
    exact socket
  | serialLine line =>
    rw [handles, reverse_toList]
    exact host.closed_closeHeld line.port watched

theorem closed_release (host : Host σ) (endpoint : Endpoint) (watched : Watched σ) :
    (endpoint.release host.watched watched).closed = watched.closed ++ endpoint.handles := by
  cases endpoint with
  | tcpClient client => exact host.closed_closeHeld client.stream watched
  | udpClient client => exact host.closed_closeHeld client.socket watched
  | listener l =>
    have socket := host.closed_closeHeld l.socket watched
    have client := host.closed_closeHeld l.client (host.watched.closeHeld l.socket watched)
    rw [socket, List.append_assoc] at client
    exact client
  | serialLine line => exact host.closed_closeHeld line.port watched

end Endpoint

end InstrumentLink
