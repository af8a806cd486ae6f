import InstrumentLink.Proofs.Link.Attempt

/-!
# The outcome of bringing a link up

A call raises the fault of the first required role whose attempt faults, and then leaves the roles
after it alone. Otherwise it answers whether the link is up, and every role is up, without a
configuration, or optional and refused. Optional roles have no say in any of this.
-/

namespace InstrumentLink

variable {σ : Type}

private theorem Topology.rolesBefore_of_required {topology : Topology} {before later : List Role}
    {role : Role} (split : topology.requiredRoles = before ++ role :: later) :
    topology.rolesBefore role = before := by
  apply Topology.rolesBefore_eq
  rw [roles, split, List.append_assoc, List.cons_append]

private theorem Topology.notMem_required_of_optional {topology : Topology} {role : Role}
    (optional : role ∈ topology.optionalRoles) : role ∉ topology.requiredRoles := by
  have nodup := topology.roles_nodup
  rw [roles] at nodup
  intro required
  exact (List.nodup_append.mp nodup).2.2 role required role optional rfl

private theorem Topology.mem_rolesBefore_of_required {topology : Topology}
    {before later : List Role} {role other : Role}
    (split : topology.requiredRoles = before ++ role :: later) (mem : other ∈ topology.roles)
    (notMem : other ∉ before) (apart : other ≠ role) :
    role ∈ topology.rolesBefore other := by
  have after : other ∈ later ++ topology.optionalRoles := by
    rw [roles, split] at mem
    simpa [notMem, apart] using mem
  obtain ⟨between, rest, after_eq⟩ := List.append_of_mem after
  have whole : topology.roles = (before ++ role :: between) ++ other :: rest := by
    rw [roles, split, List.append_assoc, List.cons_append, after_eq]
    simp
  rw [rolesBefore_eq whole]
  exact List.mem_append_right _ List.mem_cons_self

namespace Link

private theorem isUp_eq_of_endpoints {link other : Link} (topology : link.topology = other.topology)
    (same : ∀ role ∈ other.topology.requiredRoles, link.endpoint? role = other.endpoint? role) :
    link.isUp = other.isUp := by
  rw [isUp, isUp, allRequired, allRequired, topology]
  apply Bool.eq_iff_iff.mpr
  simp only [List.all_eq_true, roleHas]
  constructor
  · intro up role required
    rw [← same role required]
    exact up role required
  · intro up role required
    rw [same role required]
    exact up role required

@[simp] theorem topology_bringUp (host : Host σ) (link : Link) (os : σ) :
    (link.bringUp host os).state.topology = link.topology := by
  change (bringUpRoles host link.topology.roles link os).state.topology = link.topology
  rw [topology_bringUpRoles]

theorem answer_bringUp_of_no_fault {host : Host σ} {link : Link} {os : σ}
    (quiet : ∀ fault, (link.bringUp host os).answer ≠ .error fault) :
    (link.bringUp host os).answer = .ok (link.bringUp host os).state.isUp := by
  cases answer : (bringUpRoles host link.topology.roles link os).answer with
  | ok _ =>
    simp only [bringUp, Outcome.answer_withAnswer, Outcome.state_withAnswer, answer, Except.map]
  | error fault =>
    refine absurd ?_ (quiet fault)
    simp only [bringUp, Outcome.answer_withAnswer, answer, Except.map]

theorem roleHas_isUp_bringUp {host : Host σ} {link : Link} {role : Role} {os : σ}
    (mem : role ∈ link.topology.roles)
    (opened : link.roleHas role Endpoint.isUp = true ∨
      link.attempt? host role os = some (.ok true)) :
    (link.bringUp host os).state.roleHas role Endpoint.isUp = true := by
  cases attempt : link.attempt? host role os with
  | none =>
    rw [roleHas, endpoint?_bringUp_of_no_attempt attempt]
    rcases opened with up | made
    · exact up
    · rw [attempt] at made
      cases made
  | some answer =>
    obtain ⟨endpoint, found, pending, cases⟩ := attempt_cases mem attempt
    simp only [Endpoint.isPending, Bool.and_eq_true, Bool.not_eq_true'] at pending
    rcases opened with up | made
    · simp [roleHas, found, pending.2] at up
    · rw [attempt] at made
      obtain rfl := Option.some.inj made
      rcases cases with ⟨-, h, after⟩ | ⟨no, -, -⟩ | ⟨fault, no, -, -⟩
      · simp [roleHas, after]
      · cases no
      · cases no

/-- A role is up or lacks a configuration after a call, unless its attempt faulted or never came. -/
theorem bringUp_settles {host : Host σ} {link : Link} {role : Role} {os : σ}
    (mem : role ∈ link.topology.roles)
    (reached : ∀ earlier ∈ link.topology.requiredRoles, ∀ fault,
      earlier ∈ link.topology.rolesBefore role →
        link.attempt? host earlier os ≠ some (.error fault)) :
    (link.bringUp host os).state.roleHas role Endpoint.isUp = true ∨
      (link.bringUp host os).state.roleHas role Endpoint.isConfigured = false ∨
      ∃ fault, link.attempt? host role os = some (.error fault) := by
  cases attempt : link.attempt? host role os with
  | none =>
    simp only [roleHas, endpoint?_bringUp_of_no_attempt attempt]
    cases found : link.endpoint? role with
    | none => simp
    | some endpoint =>
      by_cases pending : endpoint.isPending = true
      · obtain ⟨earlier, mem_before, required, fault, faulted⟩ :=
          exists_fault_of_no_attempt mem found pending attempt
        exact absurd faulted (reached earlier required fault mem_before)
      · simp only [Endpoint.isPending, Bool.and_eq_true, Bool.not_eq_true', not_and,
          Bool.not_eq_false] at pending
        cases configured : endpoint.isConfigured with
        | false => simp [configured]
        | true => simp [pending configured]
  | some answer =>
    obtain ⟨endpoint, -, -, opened | disarmed | failed⟩ := attempt_cases mem attempt
    · obtain ⟨-, h, after⟩ := opened
      simp [roleHas, after]
    · obtain ⟨-, serial, after⟩ := disarmed
      simp [roleHas, after, Endpoint.isConfigured_disarmed serial]
    · obtain ⟨fault, rfl, -, -⟩ := failed
      exact Or.inr (Or.inr ⟨fault, rfl⟩)

private theorem answer_bringUpRoles_optional (host : Host σ) (link : Link) (os : σ) :
    (bringUpRoles host link.topology.optionalRoles link os).answer = .ok () := by
  cases answer : (bringUpRoles host link.topology.optionalRoles link os).answer with
  | ok _ => rfl
  | error fault =>
    have nodup := link.topology.roles_nodup
    rw [Topology.roles] at nodup
    obtain ⟨before, role, later, split, required, -⟩ :=
      (answer_bringUpRoles_eq_error_iff (List.nodup_append.mp nodup).2.1).mp answer
    have optional : role ∈ link.topology.optionalRoles := by
      rw [split]
      exact List.mem_append_right _ List.mem_cons_self
    exact absurd required (Topology.notMem_required_of_optional optional)

/-- The call on the required roles alone. -/
def bringUpRequired (host : Host σ) (link : Link) (os : σ) : Outcome σ Link Bool :=
  let outcome := bringUpRoles host link.topology.requiredRoles link os
  outcome.withAnswer fun _ => outcome.state.isUp

private theorem bringUp_eq_bringUpRequired (host : Host σ) (link : Link) (os : σ) :
    (link.bringUp host os).answer = (link.bringUpRequired host os).answer ∧
      ∀ role ∈ link.topology.requiredRoles,
        (link.bringUp host os).state.endpoint? role =
          (link.bringUpRequired host os).state.endpoint? role := by
  change (bringUpRoles host link.topology.roles link os).answer.map _ = Except.map _ _ ∧
    ∀ role ∈ _, (bringUpRoles host link.topology.roles link os).state.endpoint? role = _
  cases answer : (bringUpRoles host link.topology.requiredRoles link os).answer with
  | error fault =>
    have same := bringUpRoles_append_of_error link.topology.optionalRoles answer
    rw [Topology.roles, same, answer]
    exact ⟨rfl, fun _ _ => rfl⟩
  | ok _ =>
    have goes_on := bringUpRoles_append_of_ok link.topology.optionalRoles answer
    have topology := topology_bringUpRoles host link.topology.requiredRoles link os
    have quiet := answer_bringUpRoles_optional host
      (bringUpRoles host link.topology.requiredRoles link os).state
      (bringUpRoles host link.topology.requiredRoles link os).host
    rw [topology] at quiet
    have same : ∀ role ∈ link.topology.requiredRoles,
        (bringUpRoles host link.topology.roles link os).state.endpoint? role =
          (bringUpRoles host link.topology.requiredRoles link os).state.endpoint? role := by
      intro role required
      rw [Topology.roles, goes_on]
      apply endpoint?_bringUpRoles_of_notMem
      intro optional
      exact Topology.notMem_required_of_optional optional required
    refine ⟨?_, same⟩
    have up_eq : (bringUpRoles host link.topology.roles link os).state.isUp =
        (bringUpRoles host link.topology.requiredRoles link os).state.isUp := by
      apply isUp_eq_of_endpoints
      · rw [topology_bringUpRoles, topology]
      · rw [topology]
        exact same
    rw [up_eq, Topology.roles, goes_on, quiet]

/-- What a call that brings a link up answers, and what it leaves behind. -/
structure BringUpLaw (host : Host σ) (link : Link) (os : σ) : Prop where
  /-- The call raises the fault of the first required role whose attempt faults. -/
  raises_iff : ∀ fault, (link.bringUp host os).answer = .error fault ↔
    ∃ before role later, link.topology.requiredRoles = before ++ role :: later ∧
      (∀ earlier ∈ before, ∀ other, link.attempt? host earlier os ≠ some (.error other)) ∧
      link.attempt? host role os = some (.error fault)
  /-- The fault is never that of a missing configuration. -/
  opening : ∀ fault, (link.bringUp host os).answer = .error fault → fault.IsOpening
  /-- Roles that were up or have been opened are up, whether the call raises a fault or not. -/
  stays_up : ∀ role ∈ link.topology.roles,
    (link.roleHas role Endpoint.isUp = true ∨ link.attempt? host role os = some (.ok true)) →
      (link.bringUp host os).state.roleHas role Endpoint.isUp = true
  /-- The roles after the one that raised a fault are left alone. -/
  after_fault : ∀ before role later fault,
    link.topology.requiredRoles = before ++ role :: later →
      link.attempt? host role os = some (.error fault) →
        ∀ other, other ∉ before → other ≠ role →
          (link.bringUp host os).state.endpoint? other = link.endpoint? other
  /-- Otherwise the call answers whether the link is up. -/
  answers : (∀ role ∈ link.topology.requiredRoles, ∀ fault,
      link.attempt? host role os ≠ some (.error fault)) →
    (link.bringUp host os).answer = .ok (link.bringUp host os).state.isUp ∧
      (∀ role ∈ link.topology.requiredRoles,
        (link.bringUp host os).state.roleHas role Endpoint.isUp = true ∨
          (link.bringUp host os).state.roleHas role Endpoint.isConfigured = false) ∧
      ∀ role ∈ link.topology.optionalRoles,
        (link.bringUp host os).state.roleHas role Endpoint.isUp = true ∨
          (link.bringUp host os).state.roleHas role Endpoint.isConfigured = false ∨
          ∃ fault, link.attempt? host role os = some (.error fault)
  /-- A link that is not up without a fault lacks a configuration. -/
  not_up : (link.bringUp host os).answer = .ok false →
    (link.bringUp host os).state.isConfigured = false
  /-- Optional roles have no say. -/
  optional : (link.bringUp host os).answer = (link.bringUpRequired host os).answer ∧
    ∀ role ∈ link.topology.requiredRoles,
      (link.bringUp host os).state.endpoint? role =
        (link.bringUpRequired host os).state.endpoint? role

private theorem bringUp_settles_required {host : Host σ} {link : Link} {os : σ}
    (quiet : ∀ role ∈ link.topology.requiredRoles, ∀ fault,
      link.attempt? host role os ≠ some (.error fault))
    {role : Role} (required : role ∈ link.topology.requiredRoles) :
    (link.bringUp host os).state.roleHas role Endpoint.isUp = true ∨
      (link.bringUp host os).state.roleHas role Endpoint.isConfigured = false := by
  rcases bringUp_settles (List.mem_append_left _ required)
      (fun earlier needed fault _ => quiet earlier needed fault) with up | lacking | ⟨fault, failed⟩
  · exact Or.inl up
  · exact Or.inr lacking
  · exact absurd failed (quiet role required fault)

/-- Bringing a link up obeys its law, in every state and whatever the host answers. -/
theorem bringUp_law (host : Host σ) (link : Link) (os : σ) : BringUpLaw host link os where
  raises_iff := by
    intro fault
    rw [answer_bringUp_eq_error_iff]
    constructor
    · rintro ⟨role, required, failed⟩
      obtain ⟨before, later, split⟩ := List.append_of_mem required
      refine ⟨before, role, later, split, ?_, failed⟩
      intro earlier mem other failed_earlier
      have stopped : link.attempt? host role os = none := by
        apply attempt?_eq_none_of_fault (List.mem_append_left _ required) _ _ failed_earlier
        · rw [Topology.rolesBefore_of_required split]
          exact mem
        · rw [split]
          exact List.mem_append_left _ mem
      rw [stopped] at failed
      cases failed
    · rintro ⟨before, role, later, split, -, failed⟩
      refine ⟨role, ?_, failed⟩
      rw [split]
      exact List.mem_append_right _ List.mem_cons_self
  opening := by
    intro fault raised
    obtain ⟨role, required, failed⟩ := answer_bringUp_eq_error_iff.mp raised
    obtain ⟨endpoint, -, -, opening, -⟩ := attempt_fault (List.mem_append_left _ required) failed
    exact opening
  stays_up := fun _ mem opened => roleHas_isUp_bringUp mem opened
  after_fault := by
    intro before role later fault split failed other notMem apart
    have required : role ∈ link.topology.requiredRoles := by
      rw [split]
      exact List.mem_append_right _ List.mem_cons_self
    by_cases mem : other ∈ link.topology.roles
    · apply endpoint?_bringUp_of_no_attempt
      refine attempt?_eq_none_of_fault mem ?_ required failed
      exact Topology.mem_rolesBefore_of_required split mem notMem apart
    · exact endpoint?_bringUpRoles_of_notMem host link os mem
  answers := by
    intro quiet
    refine ⟨?_, ?_, ?_⟩
    · apply answer_bringUp_of_no_fault
      intro fault raised
      obtain ⟨role, required, failed⟩ := answer_bringUp_eq_error_iff.mp raised
      exact quiet role required fault failed
    · intro role required
      exact bringUp_settles_required quiet required
    · intro role optional
      exact bringUp_settles (List.mem_append_right _ optional)
        (fun earlier needed fault _ => quiet earlier needed fault)
  not_up := by
    intro answer
    have quiet : ∀ fault, (link.bringUp host os).answer ≠ .error fault := by
      intro fault raised
      rw [answer] at raised
      cases raised
    have down := answer_bringUp_of_no_fault quiet
    rw [answer] at down
    have not_up : (link.bringUp host os).state.isUp = false := (Except.ok.inj down).symm
    rw [isUp, allRequired, List.all_eq_false, topology_bringUp] at not_up
    obtain ⟨role, required, role_down⟩ := not_up
    rw [isConfigured, allRequired, List.all_eq_false, topology_bringUp]
    refine ⟨role, required, ?_⟩
    have settled := bringUp_settles_required
      (fun role required fault failed =>
        quiet fault (answer_bringUp_eq_error_iff.mpr ⟨role, required, failed⟩)) required
    rcases settled with up | lacking
    · exact absurd up role_down
    · simp [lacking]
  optional := bringUp_eq_bringUpRequired host link os

end Link

end InstrumentLink
