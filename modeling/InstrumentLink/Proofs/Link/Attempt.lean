import InstrumentLink.Link
import InstrumentLink.Proofs.Endpoint.Transition

/-!
# Attempts of a call that brings a link up

A call goes through the roles of a link in order. It makes an attempt at a role when the role's
turn comes and its endpoint is configured and not up. The first fault of a required role ends the
call. The main statements say which endpoints an attempt changes, and that a call raises exactly
the fault of an attempt at a required role.
-/

namespace InstrumentLink

variable {σ : Type}

namespace Outcome

variable {ε α β : Type}

theorem andThen_of_ok {outcome : Outcome σ ε α} {a : α} (next : α → ε → σ → Outcome σ ε β)
    (ok : outcome.answer = .ok a) :
    outcome.andThen next = next a outcome.state outcome.host := by
  simp only [andThen, ok]

theorem andThen_of_error {outcome : Outcome σ ε α} {fault : Fault}
    (next : α → ε → σ → Outcome σ ε β) (error : outcome.answer = .error fault) :
    outcome.andThen next = ⟨.error fault, outcome.state, outcome.host⟩ := by
  simp only [andThen, error]

end Outcome

/-- Whether the endpoint is configured and not up, so that there is something to attempt. -/
def Endpoint.isPending (endpoint : Endpoint) : Bool := endpoint.isConfigured && !endpoint.isUp

/-- The roles of the topology whose turn comes before that of a role. -/
def Topology.rolesBefore (topology : Topology) (role : Role) : List Role :=
  topology.roles.takeWhile (· ≠ role)

theorem Topology.roles_nodup (topology : Topology) : topology.roles.Nodup := by
  cases topology <;> decide

theorem Topology.rolesBefore_eq {topology : Topology} {before later : List Role} {role : Role}
    (split : topology.roles = before ++ role :: later) : topology.rolesBefore role = before := by
  have nodup := topology.roles_nodup
  rw [split] at nodup
  have absent : ∀ other ∈ before, decide (other ≠ role) = true := by
    intro other mem
    have apart := (List.nodup_append.mp nodup).2.2 other mem role List.mem_cons_self
    simpa using apart
  rw [rolesBefore, split, List.takeWhile_append_of_pos absent, List.takeWhile_cons]
  simp

private theorem Topology.exists_roles_eq {topology : Topology} {role : Role}
    (mem : role ∈ topology.roles) :
    ∃ later, topology.roles = topology.rolesBefore role ++ role :: later := by
  obtain ⟨before, later, split⟩ := List.append_of_mem mem
  exact ⟨later, by rw [rolesBefore_eq split]; exact split⟩

private theorem Topology.notMem_rolesBefore_self (topology : Topology) (role : Role) :
    role ∉ topology.rolesBefore role := by
  intro mem
  have differs := List.all_eq_true.mp List.all_takeWhile role mem
  simp at differs

private theorem Topology.rolesBefore_of_before {topology : Topology} {role earlier : Role}
    {before between : List Role} (mem : role ∈ topology.roles)
    (split : topology.rolesBefore role = before ++ earlier :: between) :
    topology.rolesBefore earlier = before := by
  obtain ⟨later, whole⟩ := exists_roles_eq mem
  apply rolesBefore_eq
  rw [whole, split, List.append_assoc, List.cons_append]

theorem Topology.mem_rolesBefore_trans {topology : Topology} {role earlier first : Role}
    (mem : role ∈ topology.roles) (mem_before : earlier ∈ topology.rolesBefore role)
    (mem_first : first ∈ topology.rolesBefore earlier) : first ∈ topology.rolesBefore role := by
  obtain ⟨before, between, split⟩ := List.append_of_mem mem_before
  rw [rolesBefore_of_before mem split] at mem_first
  rw [split]
  exact List.mem_append_left _ mem_first

namespace Link

/-- What an attempt at a role answers after the turns of some others; `none` if no attempt is made,
because those have ended the call, or because there is nothing to attempt. -/
def attemptAfter (host : Host σ) (link : Link) (before : List Role) (role : Role) (os : σ) :
    Option (Except Fault Bool) :=
  let turn := bringUpRoles host before link os
  match turn.answer with
  | .error _ => none
  | .ok () =>
      ((link.endpoint? role).filter Endpoint.isPending).map fun endpoint =>
        (endpoint.bringUp host turn.host).answer

/-- What the attempt at a role answers in a call that brings the link up; `none` if the call makes
no attempt at the role. -/
def attempt? (host : Host σ) (link : Link) (role : Role) (os : σ) : Option (Except Fault Bool) :=
  link.attemptAfter host (link.topology.rolesBefore role) role os

theorem bringUpRole_of_idle {host : Host σ} {link : Link} {role : Role} {os : σ}
    (idle : (link.endpoint? role).filter Endpoint.isPending = none) :
    link.bringUpRole host role os = ⟨.ok (), link, os⟩ := by
  unfold bringUpRole
  split
  · rfl
  · next endpoint found =>
    rw [found] at idle
    split
    · rfl
    · next pending =>
      simp only [not_or, Bool.not_eq_false] at pending
      simp [Endpoint.isPending, pending.1, pending.2] at idle

/-- What a call makes of the answer of an attempt: only a required role raises its fault. -/
def verdict (link : Link) (role : Role) : Except Fault Bool → Except Fault Unit
  | .ok _ => .ok ()
  | .error fault => if role ∈ link.topology.requiredRoles then .error fault else .ok ()

private theorem verdict_eq_error_iff {link : Link} {role : Role} {answer : Except Fault Bool}
    {fault : Fault} :
    link.verdict role answer = .error fault ↔
      role ∈ link.topology.requiredRoles ∧ answer = .error fault := by
  cases answer with
  | ok up => simp [verdict]
  | error raised =>
    by_cases required : role ∈ link.topology.requiredRoles <;> simp [verdict, required]

theorem bringUpRole_of_pending {host : Host σ} {link : Link} {role : Role} {endpoint : Endpoint}
    {os : σ} (found : (link.endpoint? role).filter Endpoint.isPending = some endpoint) :
    link.bringUpRole host role os =
      ⟨link.verdict role (endpoint.bringUp host os).answer,
        link.withEndpoint role (endpoint.bringUp host os).state,
        (endpoint.bringUp host os).host⟩ := by
  obtain ⟨found, pending⟩ := Option.filter_eq_some_iff.mp found
  simp only [Endpoint.isPending, Bool.and_eq_true, Bool.not_eq_true'] at pending
  unfold bringUpRole
  simp only [found, pending.1, pending.2, Bool.false_eq_true, Bool.true_eq_false, or_self,
    ↓reduceIte, Outcome.answer_inState]
  split
  · next fault raised =>
    rw [raised]
    by_cases required : role ∈ link.topology.requiredRoles
    · simp only [required, ↓reduceIte, verdict]
      rfl
    · simp only [required, ↓reduceIte, verdict]
      rfl
  · next up answered =>
    rw [answered]
    rfl

@[simp] theorem topology_bringUpRole (host : Host σ) (link : Link) (role : Role) (os : σ) :
    (link.bringUpRole host role os).state.topology = link.topology := by
  cases found : (link.endpoint? role).filter Endpoint.isPending with
  | none => rw [bringUpRole_of_idle found]
  | some endpoint => rw [bringUpRole_of_pending found]; rfl

theorem endpoint?_bringUpRole_of_ne (host : Host σ) (link : Link) {role other : Role} (os : σ)
    (h : other ≠ role) :
    (link.bringUpRole host role os).state.endpoint? other = link.endpoint? other := by
  cases found : (link.endpoint? role).filter Endpoint.isPending with
  | none => rw [bringUpRole_of_idle found]
  | some endpoint =>
    rw [bringUpRole_of_pending found]
    exact link.endpoint?_withEndpoint_of_ne _ h

theorem bringUpRoles_cons_of_ok {host : Host σ} {link : Link} {role : Role} (rest : List Role)
    {os : σ} (ok : (link.bringUpRole host role os).answer = .ok ()) :
    bringUpRoles host (role :: rest) link os =
      bringUpRoles host rest (link.bringUpRole host role os).state
        (link.bringUpRole host role os).host :=
  Outcome.andThen_of_ok _ ok

theorem bringUpRoles_cons_of_error {host : Host σ} {link : Link} {role : Role} (rest : List Role)
    {os : σ} {fault : Fault} (error : (link.bringUpRole host role os).answer = .error fault) :
    bringUpRoles host (role :: rest) link os = link.bringUpRole host role os := by
  rw [bringUpRoles, Outcome.andThen_of_error _ error, ← error]

@[simp] theorem topology_bringUpRoles (host : Host σ) (roles : List Role) (link : Link) (os : σ) :
    (bringUpRoles host roles link os).state.topology = link.topology := by
  induction roles generalizing link os with
  | nil => rfl
  | cons role rest ih =>
    cases answer : (link.bringUpRole host role os).answer with
    | ok _ => rw [bringUpRoles_cons_of_ok rest answer, ih, topology_bringUpRole]
    | error fault => rw [bringUpRoles_cons_of_error rest answer, topology_bringUpRole]

theorem endpoint?_bringUpRoles_of_notMem (host : Host σ) {roles : List Role} (link : Link)
    {other : Role} (os : σ) (absent : other ∉ roles) :
    (bringUpRoles host roles link os).state.endpoint? other = link.endpoint? other := by
  induction roles generalizing link os with
  | nil => rfl
  | cons role rest ih =>
    have apart : other ≠ role := fun h => absent (h ▸ List.mem_cons_self)
    have absent_rest : other ∉ rest := fun h => absent (List.mem_cons_of_mem _ h)
    cases answer : (link.bringUpRole host role os).answer with
    | ok _ =>
      rw [bringUpRoles_cons_of_ok rest answer, ih _ _ absent_rest]
      exact link.endpoint?_bringUpRole_of_ne host os apart
    | error fault =>
      rw [bringUpRoles_cons_of_error rest answer]
      exact link.endpoint?_bringUpRole_of_ne host os apart

@[simp] theorem attemptAfter_nil (host : Host σ) (link : Link) (role : Role) (os : σ) :
    link.attemptAfter host [] role os =
      ((link.endpoint? role).filter Endpoint.isPending).map fun endpoint =>
        (endpoint.bringUp host os).answer := rfl

private theorem attemptAfter_cons_of_ok {host : Host σ} {link : Link} {first role : Role}
    (before : List Role) {os : σ} (apart : role ≠ first)
    (ok : (link.bringUpRole host first os).answer = .ok ()) :
    link.attemptAfter host (first :: before) role os =
      (link.bringUpRole host first os).state.attemptAfter host before role
        (link.bringUpRole host first os).host := by
  unfold attemptAfter
  rw [bringUpRoles_cons_of_ok before ok, link.endpoint?_bringUpRole_of_ne host os apart]

private theorem attemptAfter_cons_of_error {host : Host σ} {link : Link} {first : Role}
    (before : List Role) (role : Role) {os : σ} {fault : Fault}
    (error : (link.bringUpRole host first os).answer = .error fault) :
    link.attemptAfter host (first :: before) role os = none := by
  simp only [attemptAfter, bringUpRoles_cons_of_error before error, error]

private theorem answer_bringUpRole_eq_error_iff {host : Host σ} {link : Link} {role : Role} {os : σ}
    {fault : Fault} :
    (link.bringUpRole host role os).answer = .error fault ↔
      role ∈ link.topology.requiredRoles ∧
        link.attemptAfter host [] role os = some (.error fault) := by
  rw [attemptAfter_nil]
  cases found : (link.endpoint? role).filter Endpoint.isPending with
  | none => simp [bringUpRole_of_idle found]
  | some endpoint => simp [bringUpRole_of_pending found, verdict_eq_error_iff]

/-- Going through some roles raises exactly the fault of an attempt at a required one of them. -/
theorem answer_bringUpRoles_eq_error_iff {host : Host σ} {roles : List Role} (nodup : roles.Nodup)
    {link : Link} {os : σ} {fault : Fault} :
    (bringUpRoles host roles link os).answer = .error fault ↔
      ∃ before role later, roles = before ++ role :: later ∧
        role ∈ link.topology.requiredRoles ∧
        link.attemptAfter host before role os = some (.error fault) := by
  induction roles generalizing link os with
  | nil =>
    constructor
    · intro h
      cases h
    · rintro ⟨before, role, later, split, required, attempt⟩
      simp at split
  | cons first rest ih =>
    obtain ⟨absent, nodup_rest⟩ := List.nodup_cons.mp nodup
    simp only [List.cons_eq_append_iff]
    cases answer : (link.bringUpRole host first os).answer with
    | error raised =>
      rw [bringUpRoles_cons_of_error rest answer]
      constructor
      · intro h
        obtain ⟨required, attempt⟩ := answer_bringUpRole_eq_error_iff.mp h
        exact ⟨[], first, rest, Or.inl ⟨rfl, rfl⟩, required, attempt⟩
      · rintro ⟨before, role, later, ⟨rfl, split⟩ | ⟨tail, rfl, -⟩, required, attempt⟩
        · obtain ⟨rfl, -⟩ := List.cons.inj split
          exact answer_bringUpRole_eq_error_iff.mpr ⟨required, attempt⟩
        · rw [attemptAfter_cons_of_error tail role answer] at attempt
          cases attempt
    | ok _ =>
      rw [bringUpRoles_cons_of_ok rest answer, ih nodup_rest, topology_bringUpRole]
      constructor
      · rintro ⟨before, role, later, split, required, attempt⟩
        have apart : role ≠ first := by
          rintro rfl
          exact absent (split ▸ List.mem_append_right _ List.mem_cons_self)
        refine ⟨first :: before, role, later, Or.inr ⟨before, rfl, split⟩, required, ?_⟩
        rw [attemptAfter_cons_of_ok before apart answer, attempt]
      · rintro ⟨before, role, later, ⟨rfl, split⟩ | ⟨tail, rfl, split⟩, required, attempt⟩
        · obtain ⟨rfl, -⟩ := List.cons.inj split
          have raised := answer_bringUpRole_eq_error_iff.mpr ⟨required, attempt⟩
          rw [answer] at raised
          cases raised
        · have apart : role ≠ first := by
            rintro rfl
            exact absent (split ▸ List.mem_append_right _ List.mem_cons_self)
          rw [attemptAfter_cons_of_ok tail apart answer] at attempt
          exact ⟨tail, role, later, split, required, attempt⟩

theorem bringUpRoles_append_of_ok {host : Host σ} {roles : List Role} (more : List Role)
    {link : Link} {os : σ} (ok : (bringUpRoles host roles link os).answer = .ok ()) :
    bringUpRoles host (roles ++ more) link os =
      bringUpRoles host more (bringUpRoles host roles link os).state
        (bringUpRoles host roles link os).host := by
  induction roles generalizing link os with
  | nil => rfl
  | cons role rest ih =>
    cases answer : (link.bringUpRole host role os).answer with
    | ok _ =>
      rw [bringUpRoles_cons_of_ok rest answer] at ok ⊢
      rw [List.cons_append, bringUpRoles_cons_of_ok (rest ++ more) answer]
      exact ih ok
    | error fault =>
      rw [bringUpRoles_cons_of_error rest answer, answer] at ok
      cases ok

theorem bringUpRoles_append_of_error {host : Host σ} {roles : List Role} (more : List Role)
    {link : Link} {os : σ} {fault : Fault}
    (error : (bringUpRoles host roles link os).answer = .error fault) :
    bringUpRoles host (roles ++ more) link os = bringUpRoles host roles link os := by
  induction roles generalizing link os with
  | nil => cases error
  | cons role rest ih =>
    rw [List.cons_append]
    cases answer : (link.bringUpRole host role os).answer with
    | ok _ =>
      rw [bringUpRoles_cons_of_ok rest answer] at error ⊢
      rw [bringUpRoles_cons_of_ok (rest ++ more) answer]
      exact ih error
    | error raised =>
      rw [bringUpRoles_cons_of_error rest answer, bringUpRoles_cons_of_error (rest ++ more) answer]

private theorem endpoint?_bringUpRoles_of_turn {host : Host σ} {before later : List Role}
    {role : Role} (nodup : (before ++ role :: later).Nodup) {link : Link} {os : σ}
    (ok : (bringUpRoles host before link os).answer = .ok ()) :
    (bringUpRoles host (before ++ role :: later) link os).state.endpoint? role =
      ((bringUpRoles host before link os).state.bringUpRole host role
        (bringUpRoles host before link os).host).state.endpoint? role := by
  have absent : role ∉ later :=
    (List.nodup_cons.mp (List.nodup_append.mp nodup).2.1).1
  rw [bringUpRoles_append_of_ok (role :: later) ok]
  generalize bringUpRoles host before link os = turn
  cases answer : (turn.state.bringUpRole host role turn.host).answer with
  | ok _ =>
    rw [bringUpRoles_cons_of_ok later answer]
    exact endpoint?_bringUpRoles_of_notMem host _ _ absent
  | error fault => rw [bringUpRoles_cons_of_error later answer]

theorem attemptAfter_eq_some_iff {host : Host σ} {link : Link} {before : List Role} {role : Role}
    {os : σ} {answer : Except Fault Bool} :
    link.attemptAfter host before role os = some answer ↔
      (bringUpRoles host before link os).answer = .ok () ∧
        ∃ endpoint, (link.endpoint? role).filter Endpoint.isPending = some endpoint ∧
          (endpoint.bringUp host (bringUpRoles host before link os).host).answer = answer := by
  unfold attemptAfter
  generalize bringUpRoles host before link os = turn
  cases reached : turn.answer with
  | error fault => simp [reached]
  | ok _ => simp [reached, Option.map_eq_some_iff]

theorem attempt_cases {host : Host σ} {link : Link} {role : Role} {os : σ}
    {answer : Except Fault Bool} (mem : role ∈ link.topology.roles)
    (attempt : link.attempt? host role os = some answer) :
    ∃ endpoint, link.endpoint? role = some endpoint ∧ endpoint.isPending = true ∧
      ((answer = .ok true ∧
          ∃ h, (link.bringUp host os).state.endpoint? role = some (endpoint.opened h)) ∨
        (answer = .ok false ∧ endpoint.kind = .serialLine ∧
          (link.bringUp host os).state.endpoint? role = some endpoint.disarmed) ∨
        ∃ fault, answer = .error fault ∧ fault.IsOpening ∧
          (link.bringUp host os).state.endpoint? role = some endpoint.down) := by
  obtain ⟨later, split⟩ := Topology.exists_roles_eq mem
  obtain ⟨reached, endpoint, found, answered⟩ := attemptAfter_eq_some_iff.mp attempt
  obtain ⟨endpoint_eq, pending⟩ := Option.filter_eq_some_iff.mp found
  have nodup := link.topology.roles_nodup
  rw [split] at nodup
  have after_eq : (link.bringUp host os).state.endpoint? role = some (endpoint.bringUp host
      (bringUpRoles host (link.topology.rolesBefore role) link os).host).state := by
    change (bringUpRoles host link.topology.roles link os).state.endpoint? role = _
    have absent := link.topology.notMem_rolesBefore_self role
    rw [split, endpoint?_bringUpRoles_of_turn nodup reached,
      bringUpRole_of_pending (by
        rw [endpoint?_bringUpRoles_of_notMem host link os absent]
        exact found),
      endpoint?_withEndpoint_self]
  refine ⟨endpoint, endpoint_eq, pending, ?_⟩
  rw [after_eq, ← answered]
  have configured : endpoint.isConfigured = true := by
    simp only [Endpoint.isPending, Bool.and_eq_true] at pending
    exact pending.1
  have led := endpoint.broughtUp host
    (bringUpRoles host (link.topology.rolesBefore role) link os).host
  generalize endpoint.bringUp host _ = outcome at led
  cases led with
  | refused detail lacking =>
    rw [Endpoint.isComplete_of_isConfigured configured] at lacking
    cases lacking
  | opened h before after complete opens => exact Or.inl ⟨rfl, h, rfl⟩
  | failed fault after complete opening => exact Or.inr (Or.inr ⟨fault, rfl, opening, rfl⟩)
  | disarmed after complete serial => exact Or.inr (Or.inl ⟨rfl, serial, rfl⟩)

theorem attempt_fault {host : Host σ} {link : Link} {role : Role} {os : σ} {fault : Fault}
    (mem : role ∈ link.topology.roles) (failed : link.attempt? host role os = some (.error fault)) :
    ∃ endpoint, link.endpoint? role = some endpoint ∧ endpoint.isPending = true ∧
      fault.IsOpening ∧ (link.bringUp host os).state.endpoint? role = some endpoint.down := by
  obtain ⟨endpoint, found, pending, opened | disarmed | refused⟩ := attempt_cases mem failed
  · cases opened.1
  · cases disarmed.1
  · obtain ⟨same, fault_eq, opening, after⟩ := refused
    cases fault_eq
    exact ⟨endpoint, found, pending, opening, after⟩

theorem endpoint?_bringUp_of_no_attempt {host : Host σ} {link : Link} {role : Role} {os : σ}
    (none_made : link.attempt? host role os = none) :
    (link.bringUp host os).state.endpoint? role = link.endpoint? role := by
  change (bringUpRoles host link.topology.roles link os).state.endpoint? role = _
  by_cases mem : role ∈ link.topology.roles
  · obtain ⟨later, split⟩ := Topology.exists_roles_eq mem
    have nodup := link.topology.roles_nodup
    rw [split] at nodup ⊢
    have absent := link.topology.notMem_rolesBefore_self role
    cases reached : (bringUpRoles host (link.topology.rolesBefore role) link os).answer with
    | ok _ =>
      have idle : (link.endpoint? role).filter Endpoint.isPending = none := by
        simpa [attempt?, attemptAfter, reached] using none_made
      rw [endpoint?_bringUpRoles_of_turn nodup reached, bringUpRole_of_idle]
      · exact endpoint?_bringUpRoles_of_notMem host link os absent
      · rw [endpoint?_bringUpRoles_of_notMem host link os absent]
        exact idle
    | error fault =>
      rw [bringUpRoles_append_of_error _ reached]
      exact endpoint?_bringUpRoles_of_notMem host link os absent
  · exact endpoint?_bringUpRoles_of_notMem host link os mem

theorem answer_bringUp_eq_error_iff {host : Host σ} {link : Link} {os : σ} {fault : Fault} :
    (link.bringUp host os).answer = .error fault ↔
      ∃ role ∈ link.topology.requiredRoles,
        link.attempt? host role os = some (.error fault) := by
  have answer_iff : (link.bringUp host os).answer = .error fault ↔
      (bringUpRoles host link.topology.roles link os).answer = .error fault := by
    rw [bringUp, Outcome.answer_withAnswer]
    cases (bringUpRoles host link.topology.roles link os).answer with
    | ok _ => simp [Except.map]
    | error raised => simp [Except.map]
  rw [answer_iff, answer_bringUpRoles_eq_error_iff link.topology.roles_nodup]
  constructor
  · rintro ⟨before, role, later, split, required, attempt⟩
    refine ⟨role, required, ?_⟩
    rw [attempt?, Topology.rolesBefore_eq split]
    exact attempt
  · rintro ⟨role, required, attempt⟩
    obtain ⟨later, split⟩ := Topology.exists_roles_eq (List.mem_append_left _ required)
    exact ⟨link.topology.rolesBefore role, role, later, split, required, attempt⟩

private theorem answer_rolesBefore_eq_error_iff {host : Host σ} {link : Link} {role : Role} {os : σ}
    {fault : Fault} (mem : role ∈ link.topology.roles) :
    (bringUpRoles host (link.topology.rolesBefore role) link os).answer = .error fault ↔
      ∃ earlier ∈ link.topology.rolesBefore role, earlier ∈ link.topology.requiredRoles ∧
        link.attempt? host earlier os = some (.error fault) := by
  obtain ⟨later, split⟩ := Topology.exists_roles_eq mem
  have nodup := link.topology.roles_nodup
  rw [split] at nodup
  rw [answer_bringUpRoles_eq_error_iff (List.nodup_append.mp nodup).1]
  constructor
  · rintro ⟨before, earlier, between, before_eq, required, attempt⟩
    refine ⟨earlier, ?_, required, ?_⟩
    · rw [before_eq]
      exact List.mem_append_right _ List.mem_cons_self
    · rw [attempt?, Topology.rolesBefore_of_before mem before_eq]
      exact attempt
  · rintro ⟨earlier, mem_before, required, attempt⟩
    obtain ⟨before, between, before_eq⟩ := List.append_of_mem mem_before
    rw [attempt?, Topology.rolesBefore_of_before mem before_eq] at attempt
    exact ⟨before, earlier, between, before_eq, required, attempt⟩

/-- A required role's fault keeps the roles after it from being attempted. -/
theorem attempt?_eq_none_of_fault {host : Host σ} {link : Link} {role earlier : Role} {os : σ}
    {fault : Fault} (mem : role ∈ link.topology.roles)
    (mem_before : earlier ∈ link.topology.rolesBefore role)
    (required : earlier ∈ link.topology.requiredRoles)
    (attempt : link.attempt? host earlier os = some (.error fault)) :
    link.attempt? host role os = none := by
  have stopped := (answer_rolesBefore_eq_error_iff mem).mpr ⟨earlier, mem_before, required, attempt⟩
  simp only [attempt?, attemptAfter, stopped]

/-- Only a required role's fault keeps a later role from its attempt. -/
theorem exists_fault_of_no_attempt {host : Host σ} {link : Link} {role : Role} {os : σ}
    {endpoint : Endpoint} (mem : role ∈ link.topology.roles)
    (found : link.endpoint? role = some endpoint) (pending : endpoint.isPending = true)
    (none_made : link.attempt? host role os = none) :
    ∃ earlier ∈ link.topology.rolesBefore role, earlier ∈ link.topology.requiredRoles ∧
      ∃ fault, link.attempt? host earlier os = some (.error fault) := by
  cases reached : (bringUpRoles host (link.topology.rolesBefore role) link os).answer with
  | ok _ =>
    have made : link.attempt? host role os ≠ none := by
      simp [attempt?, attemptAfter, reached, found, pending]
    exact absurd none_made made
  | error fault =>
    obtain ⟨earlier, mem_before, required, attempt⟩ :=
      (answer_rolesBefore_eq_error_iff mem).mp reached
    exact ⟨earlier, mem_before, required, fault, attempt⟩

end Link

end InstrumentLink
