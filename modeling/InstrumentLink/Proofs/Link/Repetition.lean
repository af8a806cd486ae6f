import InstrumentLink.Loopback.Host
import InstrumentLink.Proofs.Link.BringUp

/-!
# Bringing a link up again

A call never touches a role that is up. If every attempt at a role answers what the first one did,
then one call leads to a fixed point: each role that is attempted again failed before, and fails
again.
-/

namespace InstrumentLink

variable {σ : Type}

@[simp] theorem Endpoint.isPending_down {endpoint : Endpoint}
    (pending : endpoint.isPending = true) :
    endpoint.down.isPending = true := by
  simp only [isPending, Bool.and_eq_true] at pending
  simp [isPending, pending.1]

private theorem Endpoint.isPending_opened (endpoint : Endpoint) (h : Handle) :
    (endpoint.opened h).isPending = false := by
  simp [isPending]

private theorem Endpoint.isPending_disarmed {endpoint : Endpoint}
    (serial : endpoint.kind = .serialLine) :
    endpoint.disarmed.isPending = false := by
  simp [isPending, isConfigured_disarmed serial]

namespace Link

private theorem bringUpRoles_of_isUp {host : Host σ} {link : Link} {role : Role}
    {endpoint : Endpoint} (roles : List Role) {os : σ} (found : link.endpoint? role = some endpoint)
    (up : endpoint.isUp = true) :
    bringUpRoles host roles link os = bringUpRoles host (roles.filter (· ≠ role)) link os := by
  induction roles generalizing link os with
  | nil => rfl
  | cons first rest ih =>
    by_cases same : first = role
    · subst same
      have idle : (link.endpoint? first).filter Endpoint.isPending = none := by
        simp [found, Endpoint.isPending, up]
      have passed : link.bringUpRole host first os = ⟨.ok (), link, os⟩ := bringUpRole_of_idle idle
      rw [bringUpRoles_cons_of_ok rest (by rw [passed]), passed, ih found]
      simp
    · have kept : (first :: rest).filter (· ≠ role) = first :: rest.filter (· ≠ role) := by
        simp [same]
      rw [kept]
      cases answer : (link.bringUpRole host first os).answer with
      | ok _ =>
        rw [bringUpRoles_cons_of_ok rest answer, bringUpRoles_cons_of_ok _ answer]
        apply ih
        rw [endpoint?_bringUpRole_of_ne host link os (Ne.symm same), found]
      | error fault =>
        rw [bringUpRoles_cons_of_error rest answer, bringUpRoles_cons_of_error _ answer]

private theorem attempt?_of_isUp {host : Host σ} {link : Link} {role : Role} {endpoint : Endpoint}
    {os : σ} (found : link.endpoint? role = some endpoint) (up : endpoint.isUp = true) :
    link.attempt? host role os = none := by
  cases attempt : link.attempt? host role os with
  | none => rfl
  | some answer =>
    obtain ⟨-, endpoint', found', -⟩ := attemptAfter_eq_some_iff.mp attempt
    obtain ⟨same, pending⟩ := Option.filter_eq_some_iff.mp found'
    rw [found, Option.some.injEq] at same
    rw [← same] at pending
    simp [Endpoint.isPending, up] at pending

/-- So many calls after a first one, each on what the one before it left. -/
def bringUpAgain (host : Host σ) (link : Link) (os : σ) : Nat → Outcome σ Link Bool
  | 0 => link.bringUp host os
  | n + 1 =>
      (bringUpAgain host link os n).state.bringUp host (bringUpAgain host link os n).host

/-- The attempts at a role during some calls after a first one all answer what the first call's
attempt did. -/
def Steady (host : Host σ) (link : Link) (os : σ) (n : Nat) : Prop :=
  ∀ k < n, ∀ role ∈ link.topology.roles, ∀ first later,
    link.attempt? host role os = some first →
      (bringUpAgain host link os k).state.attempt? host role (bringUpAgain host link os k).host =
          some later →
        later = first

section Again

variable {host : Host σ} {link : Link} {os os' : σ}
  (steady : ∀ role ∈ link.topology.roles, ∀ first later,
    link.attempt? host role os = some first →
      (link.bringUp host os).state.attempt? host role os' = some later → later = first)

include steady

private theorem attempt?_again {role : Role} (mem : role ∈ link.topology.roles)
    {answer : Except Fault Bool}
    (again : (link.bringUp host os).state.attempt? host role os' = some answer) :
    ∃ fault, answer = .error fault ∧ link.attempt? host role os = some (.error fault) := by
  have mem' : role ∈ (link.bringUp host os).state.topology.roles := by
    rwa [topology_bringUp]
  obtain ⟨endpoint', found', pending', -⟩ := attempt_cases mem' again
  cases attempt : link.attempt? host role os with
  | some first =>
    obtain rfl := steady role mem first answer attempt again
    obtain ⟨endpoint, -, -, opened | disarmed | failed⟩ := attempt_cases mem attempt
    · obtain ⟨-, h, after⟩ := opened
      rw [after, Option.some.injEq] at found'
      rw [← found', Endpoint.isPending_opened] at pending'
      cases pending'
    · obtain ⟨-, serial, after⟩ := disarmed
      rw [after, Option.some.injEq] at found'
      rw [← found', Endpoint.isPending_disarmed serial] at pending'
      cases pending'
    · obtain ⟨fault, answer_eq, -, -⟩ := failed
      exact ⟨fault, answer_eq, by rw [answer_eq]⟩
  | none =>
    -- The first call ended at an earlier role. That role is attempted again and ends this one too.
    rw [endpoint?_bringUp_of_no_attempt attempt] at found'
    obtain ⟨earlier, mem_before, required, fault, failed⟩ :=
      exists_fault_of_no_attempt mem found' pending' attempt
    have mem_earlier : earlier ∈ link.topology.roles := List.mem_append_left _ required
    obtain ⟨endpoint, -, pending, -, after⟩ := attempt_fault mem_earlier failed
    have stopped : (link.bringUp host os).state.attempt? host role os' = none := by
      cases repeated : (link.bringUp host os).state.attempt? host earlier os' with
      | some second =>
        obtain rfl := steady earlier mem_earlier _ second failed repeated
        refine attempt?_eq_none_of_fault mem' ?_ ?_ repeated
        · rwa [topology_bringUp]
        · rwa [topology_bringUp]
      | none =>
        have mem_earlier' : earlier ∈ (link.bringUp host os).state.topology.roles := by
          rwa [topology_bringUp]
        obtain ⟨first, mem_first, required_first, fault_first, failed_first⟩ :=
          exists_fault_of_no_attempt mem_earlier' after (Endpoint.isPending_down pending) repeated
        refine attempt?_eq_none_of_fault mem' ?_ required_first failed_first
        refine Topology.mem_rolesBefore_trans mem' ?_ mem_first
        rwa [topology_bringUp]
    rw [stopped] at again
    cases again

private theorem state_bringUp_again :
    ((link.bringUp host os).state.bringUp host os').state = (link.bringUp host os).state := by
  apply ext_endpoint?
  · rw [topology_bringUp]
  · intro role
    cases again : (link.bringUp host os).state.attempt? host role os' with
    | none => exact endpoint?_bringUp_of_no_attempt again
    | some answer =>
      by_cases mem : role ∈ link.topology.roles
      · obtain ⟨fault, rfl, failed⟩ := attempt?_again steady mem again
        obtain ⟨endpoint, -, -, -, first⟩ := attempt_fault mem failed
        have mem' : role ∈ (link.bringUp host os).state.topology.roles := by
          rwa [topology_bringUp]
        obtain ⟨endpoint', found, -, -, second⟩ := attempt_fault mem' again
        rw [first, Option.some.injEq] at found
        rw [second, first, ← found, Endpoint.down_down]
      · refine endpoint?_bringUpRoles_of_notMem host _ os' ?_
        rwa [topology_bringUp]

private theorem answer_bringUp_again_eq_error_iff {fault : Fault} :
    ((link.bringUp host os).state.bringUp host os').answer = .error fault ↔
      (link.bringUp host os).answer = .error fault := by
  rw [answer_bringUp_eq_error_iff, answer_bringUp_eq_error_iff, topology_bringUp]
  constructor
  · rintro ⟨role, required, again⟩
    obtain ⟨fault', answer_eq, failed⟩ :=
      attempt?_again steady (List.mem_append_left _ required) again
    cases answer_eq
    exact ⟨role, required, failed⟩
  · rintro ⟨role, required, failed⟩
    have mem : role ∈ link.topology.roles := List.mem_append_left _ required
    refine ⟨role, required, ?_⟩
    cases again : (link.bringUp host os).state.attempt? host role os' with
    | some second => rw [steady role mem _ second failed again]
    | none =>
      obtain ⟨endpoint, -, pending, -, after⟩ := attempt_fault mem failed
      have mem' : role ∈ (link.bringUp host os).state.topology.roles := by
        rwa [topology_bringUp]
      obtain ⟨earlier, mem_before, required_earlier, fault', again_earlier⟩ :=
        exists_fault_of_no_attempt mem' after (Endpoint.isPending_down pending) again
      rw [topology_bringUp] at mem_before required_earlier
      obtain ⟨raised, -, failed_earlier⟩ :=
        attempt?_again steady (List.mem_append_left _ required_earlier) again_earlier
      rw [attempt?_eq_none_of_fault mem mem_before required_earlier failed_earlier] at failed
      cases failed

private theorem answer_bringUp_again :
    ((link.bringUp host os).state.bringUp host os').answer = (link.bringUp host os).answer := by
  cases answer : (link.bringUp host os).answer with
  | error fault => exact (answer_bringUp_again_eq_error_iff steady).mpr answer
  | ok up =>
    have quiet : ∀ fault, (link.bringUp host os).answer ≠ .error fault := by
      intro fault raised
      rw [answer] at raised
      cases raised
    have quiet_again : ∀ fault,
        ((link.bringUp host os).state.bringUp host os').answer ≠ .error fault := by
      intro fault raised
      exact quiet fault ((answer_bringUp_again_eq_error_iff steady).mp raised)
    rw [answer_bringUp_of_no_fault quiet_again, state_bringUp_again steady,
      ← answer_bringUp_of_no_fault quiet, answer]

end Again

theorem Steady.mono {host : Host σ} {link : Link} {os : σ} {n m : Nat}
    (steady : Steady host link os n) (le : m ≤ n) : Steady host link os m := by
  intro k lt
  exact steady k (Nat.lt_of_lt_of_le lt le)

/-- As long as attempts answer the same, further calls change nothing. -/
theorem bringUpAgain_of_steady {host : Host σ} {link : Link} {os : σ} {n : Nat}
    (steady : Steady host link os n) :
    (bringUpAgain host link os n).answer = (link.bringUp host os).answer ∧
      (bringUpAgain host link os n).state = (link.bringUp host os).state := by
  induction n with
  | zero => exact ⟨rfl, rfl⟩
  | succ n ih =>
    obtain ⟨-, state_eq⟩ := ih (steady.mono (Nat.le_succ n))
    have last := steady n (Nat.lt_succ_self n)
    rw [state_eq] at last
    rw [bringUpAgain, state_eq]
    exact ⟨answer_bringUp_again last, state_bringUp_again last⟩

/-- Bringing a link up is idempotent. It never touches a role that is up, and while attempts answer
the same, any number of further calls answers and leaves what the first one did and opens nothing
more. -/
theorem bringUp_idempotent (host : Host σ) (link : Link) (os : σ) :
    (∀ role endpoint, link.endpoint? role = some endpoint → endpoint.isUp = true →
      (link.bringUp host os).state.endpoint? role = some endpoint ∧
        bringUpRoles host link.topology.roles link os =
          bringUpRoles host (link.topology.roles.filter (· ≠ role)) link os) ∧
      ∀ n, Steady host link os n →
        (bringUpAgain host link os n).answer = (link.bringUp host os).answer ∧
          (bringUpAgain host link os n).state = (link.bringUp host os).state ∧
          ∀ k < n, ∀ role ∈ link.topology.roles,
            (bringUpAgain host link os k).state.attempt? host role
                (bringUpAgain host link os k).host ≠ some (.ok true) := by
  refine ⟨?_, ?_⟩
  · intro role endpoint found up
    refine ⟨?_, bringUpRoles_of_isUp _ found up⟩
    rw [endpoint?_bringUp_of_no_attempt (attempt?_of_isUp found up), found]
  · intro n steady
    obtain ⟨answer_eq, state_eq⟩ := bringUpAgain_of_steady steady
    refine ⟨answer_eq, state_eq, ?_⟩
    intro k lt role mem opened
    have settled := bringUpAgain_of_steady (steady.mono (Nat.le_of_lt lt))
    have last := steady k lt
    rw [settled.2] at last opened
    obtain ⟨fault, answer, -⟩ := attempt?_again last mem opened
    cases answer

/-- A port where nobody listens refuses every call in the same way. -/
theorem bringUp_refused_again :
    let link := (new .instrumentTcp).withEndpoint .data
      (.tcpClient { settings := ⟨"127.0.0.1", 9⟩ })
    (bringUpAgain Loopback.World.host link {} 2).answer =
      .error (.connectFailure "Connection refused (os error 111)") := by
  intro link
  have refused : ∀ role first, link.attempt? Loopback.World.host role {} = some first →
      first = .error (.connectFailure "Connection refused (os error 111)") := by
    intro role first attempt
    cases role with
    | data => exact (Option.some.inj attempt).symm
    | _ => cases attempt
  have steady : Steady Loopback.World.host link {} 2 := by
    intro k lt role mem first later attempt again
    have same : (bringUpAgain Loopback.World.host link {} k).state = link ∧
        (bringUpAgain Loopback.World.host link {} k).host = {} := by
      match k, lt with
      | 0, _ => exact ⟨rfl, rfl⟩
      | 1, _ => exact ⟨rfl, rfl⟩
    rw [same.1, same.2] at again
    rw [refused role first attempt, refused role later again]
  exact ((bringUp_idempotent Loopback.World.host link {}).2 2 steady).1

end Link

end InstrumentLink
