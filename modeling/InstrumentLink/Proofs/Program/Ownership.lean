import InstrumentLink.Loopback.Host
import InstrumentLink.Proofs.Program.Step
import Mathlib.Data.List.Perm.Basic

/-!
# Ownership of handles

Whatever a program does, the handles that are open are those of its endpoints, and each belongs to
one endpoint. An invariant carries this: what was closed, together with what the endpoints hold, is
everything that was ever opened. Every step of a program exchanges handles, so it keeps the
invariant, whether it succeeds or fails half way.
-/

namespace InstrumentLink

variable {σ : Type}

/-- The endpoints of all owners. -/
def membersOf (owners : List Owner) : List Endpoint := owners.flatMap Owner.members

def handlesOf (owners : List Owner) : List Handle := owners.flatMap Owner.handles

private theorem flatMap_handles_membersOf (owners : List Owner) :
    (membersOf owners).flatMap Endpoint.handles = handlesOf owners :=
  List.flatMap_assoc

private theorem handlesOf_concat (owners : List Owner) (owner : Owner) :
    handlesOf (owners ++ [owner]) = handlesOf owners ++ owner.handles := by
  rw [handlesOf, List.flatMap_append, List.flatMap_singleton, handlesOf]

theorem perm_eraseIdx {owners : List Owner} {place : Nat} {owner : Owner}
    (found : owners[place]? = some owner) : owners.Perm (owner :: owners.eraseIdx place) := by
  obtain ⟨lt, rfl⟩ := List.getElem?_eq_some_iff.mp found
  exact (List.getElem_cons_eraseIdx_perm lt).symm

theorem perm_set {owners : List Owner} {place : Nat} {owner : Owner}
    (found : owners[place]? = some owner) (new : Owner) :
    (owners.set place new).Perm (new :: owners.eraseIdx place) := by
  obtain ⟨lt, -⟩ := List.getElem?_eq_some_iff.mp found
  rw [← List.eraseIdx_set_eq (a := new)]
  exact perm_eraseIdx (List.getElem?_set_self lt)

private theorem perm_handlesOf {owners others : List Owner} {owner : Owner}
    (split : owners.Perm (owner :: others)) :
    (handlesOf owners).Perm (owner.handles ++ handlesOf others) :=
  split.flatMap_right Owner.handles

namespace Host.Respects

variable {host : Host σ} {custody : Custody σ} (respects : host.Respects custody)

include respects

private theorem operate (operation : Endpoint.Operation) (endpoint : Endpoint) (os : σ) :
    custody.Exchanges endpoint.handles (operation.run host endpoint os).state.handles os
      (operation.run host endpoint os).host := by
  cases operation with
  | set setting =>
    have retuned := Endpoint.retuned_apply host setting endpoint os
    rw [Endpoint.Operation.run, retuned.handles_eq]
    exact (respects.apply setting endpoint os).keep _
  | bringUp => exact respects.bringUp endpoint os
  | attach => exact respects.attach endpoint os
  | disconnect => exact respects.steps .disconnected
  | dropClient =>
    cases endpoint with
    | listener l => exact respects.disconnectClient l os
    | _ => exact custody.exchanges_refl _ os
  | write bytes => exact respects.writeEndpoint endpoint bytes os
  | read room => exact respects.readEndpoint endpoint room os
  | sendBreak milliseconds =>
    cases endpoint with
    | serialLine line => exact (respects.sendBreak line milliseconds os).keep _
    | _ => exact custody.exchanges_refl _ os

theorem act (action : Endpoint.Action) (endpoint : Endpoint) (os : σ) :
    custody.Exchanges endpoint.handles (action.run host endpoint os).1.handles os
      (action.run host endpoint os).2 := by
  cases action with
  | operate operation => exact respects.operate operation endpoint os
  | replace identity blocking =>
    have released := respects.release endpoint os
    rw [← Endpoint.handles_new identity blocking] at released
    exact released

private theorem actAll (actions : List Endpoint.Action) (endpoint : Endpoint) (os : σ) :
    custody.Exchanges endpoint.handles (endpoint.actAll host actions os).1.handles os
      (endpoint.actAll host actions os).2 := by
  induction actions generalizing endpoint os with
  | nil => exact custody.exchanges_refl _ os
  | cons action rest ih => exact (respects.act action endpoint os).trans (ih _ _)

private theorem make_of_some {design : Design} {owner : Owner} {os os' : σ}
    (made : design.make host os = (some owner, os')) :
    custody.Exchanges [] owner.handles os os' := by
  cases design with
  | endpoint identity blocking =>
    cases made
    have bare := Endpoint.handles_new identity blocking
    rw [Owner.handles, Owner.members, List.flatMap_singleton, bare]
    exact custody.exchanges_refl [] os
  | link topology =>
    cases made
    have bare := (Link.isBare_new topology).handles_eq_nil
    rw [Owner.handles, Owner.members, ← Link.handles, bare]
    exact custody.exchanges_refl [] os
  | configured config =>
    unfold Design.make at made
    dsimp only at made
    split at made
    · next link between built =>
      cases made
      exact respects.build_of_ok built
    · cases made

private theorem make_of_none {design : Design} {os os' : σ}
    (refused : design.make host os = (none, os')) :
    custody.Exchanges [] [] os os' := by
  cases design with
  | endpoint identity blocking => cases refused
  | link topology => cases refused
  | configured config =>
    unfold Design.make at refused
    dsimp only at refused
    split at refused
    · cases refused
    · next fault between failed =>
      cases refused
      exact respects.build_of_error failed

theorem releaseOwner (owner : Owner) (os : σ) :
    custody.Exchanges owner.handles [] os (owner.release host os) := by
  cases owner with
  | endpoint e =>
    rw [Owner.handles, Owner.members, List.flatMap_singleton]
    exact respects.release e os
  | link l => exact respects.releaseLink l os

private theorem change (change : Owner.Change) (owner : Owner) (os : σ) :
    custody.Exchanges owner.handles (change.run host owner os).1.handles os
      (change.run host owner os).2 := by
  cases change with
  | replace design =>
    simp only [Owner.Change.run]
    split
    · next os' refused => exact (respects.make_of_none refused).keep owner.handles
    · next new os' made =>
      -- the new owner is made while the old one still holds its handles
      have both := (respects.make_of_some made).before owner.handles
      have released := (respects.releaseOwner owner os').after new.handles
      rw [List.append_nil] at released
      exact both.trans released
  | act action =>
    cases owner with
    | endpoint e =>
      simp only [Owner.handles, Owner.members, Owner.Change.run, List.flatMap_singleton]
      exact respects.act action e os
    | link l => exact custody.exchanges_refl _ os
  | actOn role action =>
    cases owner with
    | endpoint e => exact custody.exchanges_refl _ os
    | link l =>
      simp only [Owner.Change.run]
      split
      · exact custody.exchanges_refl _ os
      · next e found => exact Custody.exchanges_withEndpoint found (respects.act action e os)
  | operate operation =>
    cases owner with
    | endpoint e => exact custody.exchanges_refl _ os
    | link l => exact respects.run operation l os
  | reconfigure role actions =>
    cases owner with
    | endpoint e => exact custody.exchanges_refl _ os
    | link l =>
      simp only [Owner.Change.run, Link.reconfigureWith]
      split
      · exact custody.exchanges_refl _ os
      · next before found =>
        have acted := respects.actAll actions before os
        exact Custody.exchanges_withEndpoint found
          (acted.trans (respects.reopenIfChanged before _ _))

theorem changeAll (changes : List Owner.Change) (owner : Owner) (os : σ) :
    custody.Exchanges owner.handles (Owner.changeAll host changes owner os).1.handles os
      (Owner.changeAll host changes owner os).2 := by
  induction changes generalizing owner os with
  | nil => exact custody.exchanges_refl _ os
  | cons change rest ih => exact (respects.change change owner os).trans (ih _ _)

/-- Every step of a program exchanges the handles of its owners. -/
theorem step (step : Step) (owners : List Owner) (os : σ) :
    custody.Exchanges (handlesOf owners) (handlesOf (step.run host owners os).1) os
      (step.run host owners os).2 := by
  cases step with
  | create design =>
    simp only [Step.run]
    split
    · next os' refused => exact (respects.make_of_none refused).keep _
    · next owner os' made =>
      have added := (respects.make_of_some made).after (handlesOf owners)
      rw [List.append_nil] at added
      rw [← handlesOf_concat] at added
      exact added
  | copy place role =>
    simp only [Step.run]
    split
    · exact custody.exchanges_refl _ os
    · next endpoint found =>
      have bare := Endpoint.handles_new endpoint.identity endpoint.blocking
      rw [← endpoint.template_eq_new] at bare
      have same : handlesOf (owners ++ [.endpoint endpoint.template]) = handlesOf owners := by
        rw [handlesOf_concat, Owner.handles, Owner.members, List.flatMap_singleton, bare,
          List.append_nil]
      rw [same]
      exact custody.exchanges_refl _ os
  | change place made =>
    simp only [Step.run]
    split
    · exact custody.exchanges_refl _ os
    · next owner found =>
      have before := perm_handlesOf (perm_eraseIdx found)
      have after := perm_handlesOf (perm_set found (made.run host owner os).1)
      have changed := (respects.change made owner os).before (handlesOf (owners.eraseIdx place))
      exact ((custody.exchanges_of_perm before os).trans changed).trans
        (custody.exchanges_of_perm after.symm _)
  | drop place =>
    simp only [Step.run]
    split
    · exact custody.exchanges_refl _ os
    · next owner found =>
      have before := perm_handlesOf (perm_eraseIdx found)
      have released := (respects.releaseOwner owner os).before (handlesOf (owners.eraseIdx place))
      exact (custody.exchanges_of_perm before os).trans released

private theorem runAll (steps : List Step) (owners : List Owner) (os : σ) :
    custody.Exchanges (handlesOf owners) (handlesOf (Step.runAll host steps owners os).1) os
      (Step.runAll host steps owners os).2 := by
  induction steps generalizing owners os with
  | nil => exact custody.exchanges_refl _ os
  | cons step rest ih => exact (respects.step step owners os).trans (ih _ _)

end Host.Respects

section Discards

variable (host : Host σ)

private theorem Endpoint.Action.closed_of_mem_discards {action : Action} {endpoint : Endpoint}
    {watched : Watched σ} {h : Handle} (mem : h ∈ action.discards endpoint) :
    h ∈ (action.run host.watched endpoint watched).2.closed := by
  cases action with
  | operate operation => cases mem
  | replace identity blocking =>
    rw [run, closed_release]
    exact List.mem_append_right _ mem

private theorem Endpoint.closed_of_mem_discardsAll {actions : List Action} {endpoint : Endpoint}
    {watched : Watched σ} {h : Handle}
    (mem : h ∈ endpoint.discardsAll host.watched actions watched) :
    h ∈ (endpoint.actAll host.watched actions watched).2.closed := by
  induction actions generalizing endpoint watched with
  | nil => cases mem
  | cons action rest ih =>
    rcases List.mem_append.mp mem with first | later
    · have later := (host.keeps_closed.respects (action.run host.watched endpoint watched).2).actAll
        rest (action.run host.watched endpoint watched).1
        (action.run host.watched endpoint watched).2
      have kept := host.keeps_closed.of_exchanges later
      exact kept.subset (Action.closed_of_mem_discards host first)
    · exact ih later

private theorem Owner.closed_release (owner : Owner) (watched : Watched σ) :
    (owner.release host.watched watched).closed = watched.closed ++ owner.handles := by
  cases owner with
  | endpoint e =>
    rw [handles, members, List.flatMap_singleton]
    exact e.closed_release host watched
  | link l => exact l.closed_release host watched

private theorem Owner.Change.closed_of_mem_discards {change : Change} {owner : Owner}
    {watched : Watched σ} {h : Handle} (mem : h ∈ change.discards host.watched owner watched) :
    h ∈ (change.run host.watched owner watched).2.closed := by
  cases change with
  | replace design =>
    simp only [discards, run] at mem ⊢
    cases made : design.make host.watched watched with
    | mk new? after =>
      rw [made] at mem
      cases new? with
      | none => simp at mem
      | some new =>
        rw [Owner.closed_release]
        exact List.mem_append_right _ (by simpa using mem)
  | act action =>
    cases owner with
    | endpoint e => exact Endpoint.Action.closed_of_mem_discards host mem
    | link l => cases mem
  | actOn role action =>
    cases owner with
    | endpoint e => cases mem
    | link l =>
      simp only [discards, run] at mem ⊢
      split
      · next absent => simp [absent] at mem
      · next e found =>
        rw [found, Option.map_some, Option.getD_some] at mem
        exact Endpoint.Action.closed_of_mem_discards host mem
  | operate operation => cases owner <;> cases mem
  | reconfigure role actions =>
    cases owner with
    | endpoint e => cases mem
    | link l =>
      simp only [discards, run, Link.reconfigureWith] at mem ⊢
      split
      · next absent => simp [absent] at mem
      · next before found =>
        rw [found, Option.map_some, Option.getD_some] at mem
        have kept := host.keeps_closed.reopenIfChanged before
          (before.actAll host.watched actions watched).1
          (before.actAll host.watched actions watched).2
        exact kept.subset (Endpoint.closed_of_mem_discardsAll host mem)

theorem Step.closed_of_mem_discards {step : Step} {owners : List Owner} {watched : Watched σ}
    {h : Handle} (mem : h ∈ step.discards host.watched owners watched) :
    h ∈ (step.run host.watched owners watched).2.closed := by
  cases step with
  | create design => cases mem
  | copy place role => cases mem
  | change place made =>
    simp only [discards, run] at mem ⊢
    split
    · next absent => simp [absent] at mem
    · next owner found =>
      rw [found, Option.map_some, Option.getD_some] at mem
      exact Owner.Change.closed_of_mem_discards host mem
  | drop place =>
    simp only [discards, run] at mem ⊢
    split
    · next absent => simp [absent] at mem
    · next owner found =>
      rw [found, Option.map_some, Option.getD_some] at mem
      rw [Owner.closed_release]
      exact List.mem_append_right _ mem

end Discards

/-- The open handles are those of the endpoints, and no two endpoints share one. -/
structure Accounted (endpoints : List Endpoint) (watched : Watched σ) : Prop where
  open_iff : ∀ h, watched.IsOpen h ↔ ∃ endpoint ∈ endpoints, h ∈ endpoint.handles
  apart : endpoints.Pairwise fun one other => one.handles.Disjoint other.handles
  own : ∀ endpoint ∈ endpoints,
    endpoint.handles.Nodup ∧ endpoint.handles.length ≤ endpoint.kind.capacity

private theorem accounted_of_holds {owners : List Owner} {watched : Watched σ}
    (holds : Watched.custody.Holds watched (handlesOf owners)) :
    Accounted (membersOf owners) watched := by
  rw [← flatMap_handles_membersOf] at holds
  obtain ⟨own, apart⟩ := List.nodup_flatMap.mp (Watched.nodup_held holds)
  refine ⟨?_, apart, fun endpoint mem => ⟨own endpoint mem, endpoint.length_handles_le⟩⟩
  intro h
  rw [Watched.isOpen_iff holds, List.mem_flatMap]

/-- After any steps of a program that starts with nothing, whatever the host answers and whether
they succeed or fail, exactly the handles of the endpoints that the program owns are open, each held
by one endpoint. Whatever step comes next, the handles of what it replaces or drops are closed. -/
theorem Step.runAll_accounted (host : Host σ) (os : σ) (steps : List Step) :
    let reached := runAll host.watched steps [] { ledger := { os } }
    Accounted (membersOf reached.1) reached.2 ∧
      ∀ (step : Step) (h : Handle), h ∈ step.discards host.watched reached.1 reached.2 →
        ¬ (step.run host.watched reached.1 reached.2).2.IsOpen h := by
  intro reached
  have exchange := host.respects_watched.runAll steps [] { ledger := { os } }
  have nothing : Watched.custody.Holds { ledger := { os } } (handlesOf [] ++ []) :=
    List.Perm.refl _
  have holds := exchange [] nothing
  rw [List.append_nil] at holds
  refine ⟨accounted_of_holds holds, ?_⟩
  intro step h mem still_open
  exact still_open.2 (closed_of_mem_discards host mem)

/-- A listener that is brought up twice and copied has its second socket open, and the copy none. -/
example :
    let steps := [.create (.endpoint (.listener (some 0)) false),
      .change 0 (.act (.operate .bringUp)), .change 0 (.act (.operate .bringUp)), .copy 0 none]
    let reached := Step.runAll Loopback.World.host.watched steps [] { ledger := { os := {} } }
    (membersOf reached.1).map Endpoint.handles = [[⟨1⟩], []] ∧ reached.2.closed = [⟨0⟩] := by
  decide +kernel

end InstrumentLink
