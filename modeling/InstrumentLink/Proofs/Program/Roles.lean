import InstrumentLink.Proofs.Link.Reconfigure
import InstrumentLink.Proofs.Program.Step

namespace InstrumentLink

variable {σ : Type}

private theorem Link.Acts.hasRoles {step : Endpoint → σ → Endpoint → σ → Prop} {link link' : Link}
    {os os' : σ} (acts : Acts step link os link' os') (roles : link.HasRoles) : link'.HasRoles := by
  induction acts with
  | refl => exact roles
  | tail _ found _ ih => exact ih.withEndpoint (Option.isSome_of_eq_some found) _

namespace Owner

/-- A link has the roles of its topology; an endpoint has none. -/
def HasRoles : Owner → Prop
  | .endpoint _ => True
  | .link l => l.HasRoles

private theorem hasRoles_of_make {host : Host σ} {design : Design} {owner : Owner} {os os' : σ}
    (made : design.make host os = (some owner, os')) : owner.HasRoles := by
  cases design with
  | endpoint identity blocking =>
    cases made
    trivial
  | link topology =>
    cases made
    exact (Link.hasKinds_new topology).hasRoles
  | configured config =>
    unfold Design.make at made
    dsimp only at made
    split at made
    · next built _ successful =>
      cases made
      exact (LinkConfig.bare_of_build successful).2.1.hasRoles
    · cases made

private theorem HasRoles.change {owner : Owner} (roles : owner.HasRoles) (host : Host σ)
    (made : Change) (os : σ) : (made.run host owner os).1.HasRoles := by
  cases made with
  | replace design =>
    unfold Change.run
    dsimp only
    split
    · exact roles
    · next new between designed => exact hasRoles_of_make designed
  | act action => cases owner <;> exact roles
  | actOn role action =>
    cases owner with
    | endpoint endpoint => exact roles
    | link link =>
      simp only [Change.run]
      split
      · exact roles
      · next endpoint found => exact roles.withEndpoint (Option.isSome_of_eq_some found) _
  | operate operation =>
    cases owner with
    | endpoint endpoint => exact roles
    | link link => exact (link.acts_run host operation os).hasRoles roles
  | reconfigure role actions =>
    cases owner with
    | endpoint endpoint => exact roles
    | link link =>
      simp only [Change.run, Link.reconfigureWith]
      split
      · exact roles
      · next before found => exact roles.withEndpoint (Option.isSome_of_eq_some found) _

end Owner

namespace Step

private theorem hasRoles_run {host : Host σ} {owners : List Owner}
    (all : ∀ owner ∈ owners, owner.HasRoles)
    (step : Step) (os : σ) : ∀ owner ∈ (step.run host owners os).1, owner.HasRoles := by
  cases step with
  | create design =>
    unfold run
    dsimp only
    split
    · exact all
    · next new between designed =>
      exact List.forall_mem_append.mpr
        ⟨all, List.forall_mem_singleton.mpr (Owner.hasRoles_of_make designed)⟩
  | copy place role =>
    unfold run
    dsimp only
    split
    · exact all
    · exact List.forall_mem_append.mpr ⟨all, List.forall_mem_singleton.mpr trivial⟩
  | change place made =>
    unfold run
    dsimp only
    split
    · exact all
    · next owner found =>
      intro other mem
      rcases List.mem_or_eq_of_mem_set mem with kept | changed
      · exact all other kept
      · rw [changed]
        exact (all owner (List.mem_of_getElem? found)).change host made os
  | drop place =>
    unfold run
    dsimp only
    split
    · exact all
    · exact fun other mem => all other (List.mem_of_mem_eraseIdx mem)

theorem hasRoles_runAll (host : Host σ) (steps : List Step) {owners : List Owner}
    (all : ∀ owner ∈ owners, owner.HasRoles) (os : σ) :
    ∀ owner ∈ (runAll host steps owners os).1, owner.HasRoles := by
  induction steps generalizing owners os with
  | nil => exact all
  | cons step rest ih => exact ih (hasRoles_run all step os) _

/-- Whatever a program did before, a change of one role of a link that it owns is settled for this
role, and the other roles do not notice. -/
theorem reconfiguresRole_runAll (host : Host σ) (os : σ) (steps : List Step) {link : Link}
    (owned : .link link ∈ (runAll host.watched steps [] { ledger := { os } }).1) (role : Role)
    (change : Endpoint → List Setting) :
    let reached := (runAll host.watched steps [] { ledger := { os } }).2
    link.ReconfiguresRole host role change reached
      (link.reconfigureBy host.watched role change reached) := by
  intro reached
  have roles : link.HasRoles :=
    hasRoles_runAll host.watched steps (List.forall_mem_nil _) _ _ owned
  cases found : link.endpoint? role with
  | none => exact Link.reconfiguresRole_of_none host change roles found reached
  | some before => exact Link.reconfiguresRole_of_some host change roles found reached

end Step

end InstrumentLink
