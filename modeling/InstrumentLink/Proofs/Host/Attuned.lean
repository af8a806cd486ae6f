import InstrumentLink.Proofs.Host.Ledger
import Mathlib.Data.List.Nodup
import Mathlib.Logic.Function.Basic

/-!
# Hosts that note modes

An attuned host has a ledger of what it opens, and notes the mode that was chosen last for each
handle. A handle that has just been opened has none, but for a line, which is opened with a timeout.
What is opened gets a handle of its own, so no handle loses its mode but to a request to choose one
for it: a host that ignores these requests leaves the mode of the handle as it is.
-/

namespace InstrumentLink

variable {σ : Type}

/-- The host always does as it is told when a mode is chosen. -/
structure Host.SetsModes (host : Host σ) : Prop where
  setBlocking : ∀ h blocking os, (host.setBlocking h blocking os).1 = .ok ()
  setTimeout : ∀ h timeout os, (host.setTimeout h timeout os).1 = .ok ()

structure Attuned (σ : Type) where
  ledger : Ledger σ
  blocking : Handle → Option Bool := fun _ => none
  timeout : Handle → Option LineTimeout := fun _ => none

namespace Attuned

def part : StatePart (Ledger σ) (Attuned σ) where
  os := ledger
  withOs := fun ledger attuned => { attuned with ledger }

/-- The record after a request to open something, with the timeout that a line starts with. -/
def enter (attuned : Attuned σ) (timeout : Option LineTimeout)
    (answered : Except IoError Handle × Ledger σ) : Except IoError Handle × Attuned σ :=
  match answered with
  | (.ok h, ledger) =>
      (.ok h,
        { ledger
          blocking := Function.update attuned.blocking h none
          timeout := Function.update attuned.timeout h timeout })
  | (.error e, ledger) => (.error e, { attuned with ledger })

def chooseBlocking (attuned : Attuned σ) (h : Handle) (blocking : Bool)
    (answered : Except IoError Unit × Ledger σ) : Except IoError Unit × Attuned σ :=
  match answered with
  | (.ok (), ledger) =>
      (.ok (),
        { attuned with ledger, blocking := Function.update attuned.blocking h (some blocking) })
  | (.error e, ledger) => (.error e, { attuned with ledger })

def chooseTimeout (attuned : Attuned σ) (h : Handle) (timeout : LineTimeout)
    (answered : Except IoError Unit × Ledger σ) : Except IoError Unit × Attuned σ :=
  match answered with
  | (.ok (), ledger) =>
      (.ok (),
        { attuned with ledger, timeout := Function.update attuned.timeout h (some timeout) })
  | (.error e, ledger) => (.error e, { attuned with ledger })

end Attuned

/-- The host with a ledger of what it opens and a record of the modes that were chosen. -/
def Host.attuned (host : Host σ) : Host (Attuned σ) :=
  { host.ledger.within Attuned.part with
    connect := fun address attuned =>
      attuned.enter none (host.ledger.connect address attuned.ledger)
    listen := fun port attuned => attuned.enter none (host.ledger.listen port attuned.ledger)
    accept := fun h attuned => attuned.enter none (host.ledger.accept h attuned.ledger)
    bindDatagram := fun attuned => attuned.enter none (host.ledger.bindDatagram attuned.ledger)
    openLine := fun settings timeout attuned =>
      attuned.enter (some timeout) (host.ledger.openLine settings timeout attuned.ledger)
    setBlocking := fun h blocking attuned =>
      attuned.chooseBlocking h blocking (host.ledger.setBlocking h blocking attuned.ledger)
    setTimeout := fun h timeout attuned =>
      attuned.chooseTimeout h timeout (host.ledger.setTimeout h timeout attuned.ledger) }

namespace Attuned

/-- Whether something was opened under a handle. -/
def Knows (attuned : Attuned σ) (h : Handle) : Prop := (attuned.ledger.opening? h).isSome

/-- A handle is in the mode that a blocking mode means for its kind: that of a line is a timeout. -/
def HasMode (attuned : Attuned σ) (kind : EndpointKind) (blocking : Bool) (h : Handle) : Prop :=
  match kind with
  | .serialLine => attuned.timeout h = some (.ofBlocking blocking)
  | _ => attuned.blocking h = some blocking

/-- What was opened is still there, and a handle that was opened is in the mode that it was in. -/
structure LeavesMode (h : Handle) (before after : Attuned σ) : Prop where
  opened : before.ledger.Extends after.ledger
  blocking_eq : before.Knows h → after.blocking h = before.blocking h
  timeout_eq : before.Knows h → after.timeout h = before.timeout h

/-- Whatever is held was opened, and is held once. -/
def custody : Custody (Attuned σ) where
  Holds := fun attuned held => held.Nodup ∧ ∀ h ∈ held, attuned.Knows h
  perm := fun same holds =>
    ⟨same.nodup_iff.mp holds.1, fun h mem => holds.2 h (same.mem_iff.mpr mem)⟩

variable {attuned attuned' : Attuned σ} {h : Handle}

theorem Knows.mono (known : attuned.Knows h) (grown : attuned.ledger.Extends attuned'.ledger) :
    attuned'.Knows h := by
  obtain ⟨opening, noted⟩ := Option.isSome_iff_exists.mp known
  exact Option.isSome_iff_exists.mpr ⟨opening, grown.opening?_eq noted⟩

theorem LeavesMode.refl (attuned : Attuned σ) : attuned.LeavesMode h attuned where
  opened := Ledger.Extends.refl _
  blocking_eq := fun _ => rfl
  timeout_eq := fun _ => rfl

theorem LeavesMode.trans {attuned'' : Attuned σ} (first : LeavesMode h attuned attuned')
    (later : LeavesMode h attuned' attuned'') : LeavesMode h attuned attuned'' where
  opened := first.opened.trans later.opened
  blocking_eq := fun known =>
    (later.blocking_eq (known.mono first.opened)).trans (first.blocking_eq known)
  timeout_eq := fun known =>
    (later.timeout_eq (known.mono first.opened)).trans (first.timeout_eq known)

theorem LeavesMode.hasMode {kind : EndpointKind} {blocking : Bool}
    (leaves : LeavesMode h attuned attuned') (known : attuned.Knows h)
    (mode : attuned.HasMode kind blocking h) : attuned'.HasMode kind blocking h := by
  cases kind with
  | serialLine => exact (leaves.timeout_eq known).trans mode
  | _ => exact (leaves.blocking_eq known).trans mode

private theorem leavesMode_of_extends {ledger : Ledger σ} (grown : attuned.ledger.Extends ledger) :
    LeavesMode h attuned { attuned with ledger } where
  opened := grown
  blocking_eq := fun _ => rfl
  timeout_eq := fun _ => rfl

private theorem ne_of_knows (known : attuned.Knows h) : h ≠ ⟨attuned.ledger.entries.length⟩ := by
  rintro rfl
  simp [Knows, Ledger.opening?] at known

private theorem leavesMode_enter (attuned : Attuned σ) (timeout : Option LineTimeout)
    (opening : Opening) (answered : Except IoError Handle × σ) :
    LeavesMode h attuned (attuned.enter timeout (attuned.ledger.enter opening answered)).2 := by
  obtain ⟨answer, os⟩ := answered
  cases answer with
  | error e => exact leavesMode_of_extends List.prefix_rfl
  | ok own =>
    exact {
      opened := List.prefix_append _ _
      blocking_eq := fun known => Function.update_of_ne (ne_of_knows known) _ _
      timeout_eq := fun known => Function.update_of_ne (ne_of_knows known) _ _ }

private theorem leavesMode_chooseBlocking {h' : Handle} (apart : h ≠ h') (blocking : Bool)
    (answered : Except IoError Unit × σ) :
    LeavesMode h attuned
      (attuned.chooseBlocking h' blocking (Ledger.part.pass attuned.ledger answered)).2 := by
  obtain ⟨answer, os⟩ := answered
  cases answer with
  | error e => exact leavesMode_of_extends List.prefix_rfl
  | ok done =>
    exact {
      opened := List.prefix_rfl
      blocking_eq := fun _ => Function.update_of_ne apart _ _
      timeout_eq := fun _ => rfl }

private theorem leavesMode_chooseTimeout {h' : Handle} (apart : h ≠ h') (timeout : LineTimeout)
    (answered : Except IoError Unit × σ) :
    LeavesMode h attuned
      (attuned.chooseTimeout h' timeout (Ledger.part.pass attuned.ledger answered)).2 := by
  obtain ⟨answer, os⟩ := answered
  cases answer with
  | error e => exact leavesMode_of_extends List.prefix_rfl
  | ok done =>
    exact {
      opened := List.prefix_rfl
      blocking_eq := fun _ => rfl
      timeout_eq := fun _ => Function.update_of_ne apart _ _ }

private theorem extends_chooseBlocking (attuned : Attuned σ) (h : Handle) (blocking : Bool)
    (answered : Except IoError Unit × σ) :
    attuned.ledger.Extends
      (attuned.chooseBlocking h blocking (Ledger.part.pass attuned.ledger answered)).2.ledger := by
  obtain ⟨answer, os⟩ := answered
  cases answer <;> exact List.prefix_rfl

private theorem extends_chooseTimeout (attuned : Attuned σ) (h : Handle) (timeout : LineTimeout)
    (answered : Except IoError Unit × σ) :
    attuned.ledger.Extends
      (attuned.chooseTimeout h timeout (Ledger.part.pass attuned.ledger answered)).2.ledger := by
  obtain ⟨answer, os⟩ := answered
  cases answer <;> exact List.prefix_rfl

private theorem exchanges_of_extends {held : List Handle}
    (grown : attuned.ledger.Extends attuned'.ledger) :
    custody.Exchanges held held attuned attuned' :=
  fun _ holds => ⟨holds.1, fun h mem => (holds.2 h mem).mono grown⟩

private theorem exchanges_enter (attuned : Attuned σ) (timeout : Option LineTimeout)
    (opening : Opening) (answered : Except IoError Handle × σ) :
    custody.Exchanges []
      (granted (attuned.enter timeout (attuned.ledger.enter opening answered)).1) attuned
      (attuned.enter timeout (attuned.ledger.enter opening answered)).2 := by
  have grown := (attuned.leavesMode_enter (h := default) timeout opening answered).opened
  obtain ⟨answer, os⟩ := answered
  cases answer with
  | error e => exact exchanges_of_extends grown
  | ok own =>
    -- the number of the new handle is the length of the ledger, which no known handle reaches
    rintro others ⟨nodup, known⟩
    refine ⟨List.nodup_cons.mpr ⟨fun mem => ne_of_knows (known _ mem) rfl, nodup⟩, ?_⟩
    intro h mem
    rcases List.mem_cons.mp mem with rfl | other
    · simp [Knows, enter, Ledger.enter, Ledger.opening?]
    · exact (known h other).mono grown

theorem ne_of_exchanges {answer : Except IoError Handle} {own : Handle} (known : attuned.Knows h)
    (exchange : custody.Exchanges [] (granted answer) attuned attuned')
    (opened : answer = .ok own) : own ≠ h := by
  subst opened
  have both := exchange [h] ⟨List.nodup_singleton h, by simpa using known⟩
  simpa [granted] using both.1

end Attuned

namespace Host

/-- An endpoint has no handle that was not opened, and shares none. -/
theorem respects_attuned (host : Host σ) : host.attuned.Respects Attuned.custody where
  request := by
    intro given taken attuned attuned' request
    cases request with
    | close =>
      intro others holds
      exact ⟨(List.nodup_cons.mp holds.1).2, fun h mem => holds.2 h (List.mem_cons_of_mem _ mem)⟩
    | connect | listen | accept | bindDatagram | openLine => exact attuned.exchanges_enter _ _ _
    | setBlocking => exact Attuned.exchanges_of_extends (attuned.extends_chooseBlocking _ _ _)
    | setTimeout => exact Attuned.exchanges_of_extends (attuned.extends_chooseTimeout _ _ _)
    | _ => exact fun _ holds => holds

/-- The host that does not do as it is told when a mode is chosen for a handle. -/
def ignoring (host : Host σ) (h : Handle) : Host σ :=
  { host with
    setBlocking := fun h' blocking os =>
      if h = h' then (.ok (), os) else host.setBlocking h' blocking os
    setTimeout := fun h' timeout os =>
      if h = h' then (.ok (), os) else host.setTimeout h' timeout os }

theorem keeps_ignoring (host : Host σ) (h : Handle) :
    (host.attuned.ignoring h).Keeps (Attuned.LeavesMode h) where
  refl := Attuned.LeavesMode.refl
  trans := Attuned.LeavesMode.trans
  request := by
    intro given taken attuned attuned' request
    cases request with
    | connect | listen | accept | bindDatagram | openLine => exact attuned.leavesMode_enter _ _ _
    | setBlocking h' blocking =>
      dsimp only [ignoring]
      split
      · exact Attuned.LeavesMode.refl attuned
      · next apart => exact Attuned.leavesMode_chooseBlocking apart blocking _
    | setTimeout h' timeout =>
      dsimp only [ignoring]
      split
      · exact Attuned.LeavesMode.refl attuned
      · next apart => exact Attuned.leavesMode_chooseTimeout apart timeout _
    | _ => exact Attuned.leavesMode_of_extends List.prefix_rfl

end Host

end InstrumentLink
