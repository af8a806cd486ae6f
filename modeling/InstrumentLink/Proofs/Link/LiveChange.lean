import Mathlib.Control.Monad.Basic
import InstrumentLink.Loopback.Host
import InstrumentLink.Proofs.Endpoint.Settling
import InstrumentLink.Proofs.Link.BringUp
import InstrumentLink.Proofs.Link.Tuning

/-!
# Changes of a live link

The configuration of a link can be changed while it is up, between calls that bring it up and calls
that disconnect it. As long as everything can be opened that it tries to open, it has the
configuration of a link that got the same changes before anything was opened. A last call that
brings it up makes the two agree in all that can be asked about their endpoints.
-/

namespace InstrumentLink

variable {σ τ : Type}

namespace Link

/-- A link whose endpoints never failed to open. -/
private def Settled (link : Link) : Prop :=
  ∀ role endpoint, link.endpoint? role = some endpoint → endpoint.Settled

/-- A copy with the configuration only. -/
def template (link : Link) : Link :=
  link.mapEndpoints fun _ endpoint => endpoint.template

@[simp] theorem topology_template (link : Link) : link.template.topology = link.topology := rfl

private theorem endpoint?_template (link : Link) (role : Role) :
    link.template.endpoint? role = (link.endpoint? role).map Endpoint.template :=
  endpoint?_mapEndpoints _ _ role

private theorem hasKinds_template_iff (link : Link) : link.template.HasKinds ↔ link.HasKinds :=
  hasKinds_mapEndpoints_iff fun _ endpoint => endpoint.kind_template

private theorem HasKinds.of_template {link other : Link} (same : link.template = other)
    (kinds : other.HasKinds) : link.HasKinds := by
  rw [← hasKinds_template_iff, same]
  exact kinds

private theorem settled_new (topology : Topology) : (new topology).Settled := by
  intro role endpoint found
  have bare := Endpoint.isUp_eq_false_of_handles_eq_nil (isBare_new topology role endpoint found)
  rw [endpoint?_new] at found
  obtain ⟨kind, -, rfl⟩ := Option.map_eq_some_iff.mp found
  refine ⟨?_, fun up => absurd (bare.symm.trans up) Bool.false_ne_true⟩
  cases kind with
  | listener => by_cases data : role = .data <;> simp [data, Endpoint.isArmed]
  | _ => rfl

private theorem template_new (topology : Topology) : (new topology).template = new topology := by
  apply mapEndpoints_id
  intro role endpoint found
  rw [endpoint?_new] at found
  obtain ⟨kind, -, rfl⟩ := Option.map_eq_some_iff.mp found
  cases kind with
  | listener => by_cases data : role = .data <;> simp [data] <;> rfl
  | _ => rfl

private theorem Settled.withEndpoint {link : Link} (settled : link.Settled) {role : Role}
    {endpoint : Endpoint} (own : endpoint.Settled) : (link.withEndpoint role endpoint).Settled := by
  intro other endpoint' found
  by_cases same : other = role
  · rw [same, endpoint?_withEndpoint_self, Option.some.injEq] at found
    rw [← found]
    exact own
  · rw [link.endpoint?_withEndpoint_of_ne endpoint same] at found
    exact settled other endpoint' found

private theorem template_withEndpoint (link : Link) (role : Role) (endpoint : Endpoint) :
    (link.withEndpoint role endpoint).template =
      link.template.withEndpoint role endpoint.template := by
  apply ext_endpoint?
  · rfl
  · intro other
    by_cases same : other = role
    · simp [same, endpoint?_template]
    · rw [endpoint?_template, link.endpoint?_withEndpoint_of_ne _ same,
        link.template.endpoint?_withEndpoint_of_ne _ same, endpoint?_template]

/-! ### Attempts -/

/-- What the attempt answers that settles a change of a role's endpoint. -/
def reopening? (host : Host σ) (link : Link) (role : Role) (change : Endpoint → Endpoint) (os : σ) :
    Option (Except Fault Bool) :=
  (link.endpoint? role).bind fun endpoint => endpoint.reopening? host (change endpoint) os

/-- What the attempts of a change of the host of some roles answer. -/
def hostAttempts (host : Host σ) (hostname : String) :
    List Role → Link → σ → List (Except Fault Bool)
  | [], _, _ => []
  | role :: rest, link, os =>
      let outcome := link.reconfigure host role (·.setHostname hostname) os
      (link.reopening? host role (·.setHostname hostname) os).toList ++
        match outcome.answer with
        | .ok _ => hostAttempts host hostname rest outcome.state outcome.host
        | .error _ => []

/-- What the attempts of a call that brings the link up answer. -/
def attempts (host : Host σ) (link : Link) (os : σ) : List (Except Fault Bool) :=
  link.topology.roles.filterMap fun role => link.attempt? host role os

private theorem reconfigure_of_granted {host : Host σ} {link : Link} {role : Role}
    {change : Endpoint → Endpoint} {os : σ} (plain : Endpoint.PlainChange change)
    (settled : link.Settled) {endpoint : Endpoint} (found : link.endpoint? role = some endpoint)
    (granted : ∀ answer ∈ (link.reopening? host role change os).toList, answer = .ok true) :
    (∃ reopened, (link.reconfigure host role change os).answer = .ok reopened) ∧
      (link.reconfigure host role change os).state.Settled ∧
      (link.reconfigure host role change os).state.template =
        link.template.mapEndpoints fun other e => if other = role then change e else e := by
  simp only [reopening?, found, Option.bind_some, Option.mem_toList] at granted
  obtain ⟨own, template⟩ :=
    Endpoint.reopenIfChanged_of_granted plain (settled role endpoint found) granted
  rw [reconfigure_of_found found]
  refine ⟨?_, settled.withEndpoint own, ?_⟩
  · rw [Outcome.answer_inState, Endpoint.answer_reopenIfChanged]
    cases attempt : endpoint.reopening? host (change endpoint) os with
    | none => exact ⟨false, rfl⟩
    | some answer => exact ⟨true, granted answer attempt⟩
  · have found_template : link.template.endpoint? role = some endpoint.template := by
      rw [endpoint?_template, found, Option.map_some]
    rw [Outcome.state_inState, template_withEndpoint, template,
      withEndpoint_eq_mapEndpoints found_template]

private theorem isSome_endpoint?_template (link : Link) (role : Role) :
    (link.template.endpoint? role).isSome = (link.endpoint? role).isSome := by
  rw [endpoint?_template, Option.isSome_map]

private theorem setHostOf_of_granted {host : Host σ} {hostname : String} {roles : List Role}
    (nodup : roles.Nodup) {link : Link} {os : σ} (settled : link.Settled)
    (present : ∀ role ∈ roles, (link.endpoint? role).isSome = true)
    (granted : ∀ answer ∈ hostAttempts host hostname roles link os, answer = .ok true) :
    (setHostOf host hostname roles link os).answer = .ok () ∧
      (setHostOf host hostname roles link os).state.Settled ∧
      (setHostOf host hostname roles link os).state.template =
        link.template.mapEndpoints
          fun role e => if role ∈ roles then e.setHostname hostname else e := by
  induction roles generalizing link os with
  | nil =>
    refine ⟨rfl, settled, ?_⟩
    rw [mapEndpoints_id fun role endpoint _ => if_neg List.not_mem_nil]
    rfl
  | cons first rest ih =>
    obtain ⟨absent, nodup_rest⟩ := List.nodup_cons.mp nodup
    obtain ⟨endpoint, found⟩ := Option.isSome_iff_exists.mp (present first List.mem_cons_self)
    have first_granted := fun answer mem => granted answer (List.mem_append_left _ mem)
    obtain ⟨⟨reopened, answer⟩, settled_first, template_first⟩ :=
      reconfigure_of_granted (Endpoint.plainChange_setHostname hostname) settled
        found first_granted
    rw [setHostOf, Outcome.andThen_of_ok _ answer,
      ← mapEndpoints_cons absent link.template fun _ e => e.setHostname hostname, ← template_first]
    apply ih nodup_rest settled_first
    · intro role mem
      rw [← isSome_endpoint?_template, template_first, endpoint?_mapEndpoints, Option.isSome_map,
        isSome_endpoint?_template]
      exact present role (List.mem_cons_of_mem first mem)
    · intro attempt mem
      apply granted
      apply List.mem_append_right
      rw [answer]
      exact mem

private theorem mem_attempts {host : Host σ} {link : Link} {os : σ} {answer : Except Fault Bool} :
    answer ∈ link.attempts host os ↔
      ∃ role ∈ link.topology.roles, link.attempt? host role os = some answer :=
  List.mem_filterMap

private theorem endpoint?_bringUp_of_granted {host : Host σ} {link : Link} {os : σ} {role : Role}
    {endpoint : Endpoint} (mem : role ∈ link.topology.roles)
    (found : link.endpoint? role = some endpoint) (settled : endpoint.Settled)
    (granted : ∀ answer ∈ link.attempts host os, answer = .ok true) :
    ∃ after, (link.bringUp host os).state.endpoint? role = some after ∧ after.Settled ∧
      after.template = endpoint.template ∧ after.isUp = after.isConfigured := by
  cases attempt : link.attempt? host role os with
  | none =>
    refine ⟨endpoint, ?_, settled, rfl, ?_⟩
    · rw [endpoint?_bringUp_of_no_attempt attempt, found]
    · by_cases pending : endpoint.isPending = true
      · obtain ⟨earlier, mem_before, required, fault, faulted⟩ :=
          exists_fault_of_no_attempt mem found pending attempt
        have mem_earlier := List.mem_append_left link.topology.optionalRoles required
        cases granted _ (mem_attempts.mpr ⟨earlier, mem_earlier, faulted⟩)
      · simp only [Endpoint.isPending, Bool.and_eq_true, Bool.not_eq_true', not_and,
          Bool.not_eq_false] at pending
        exact Bool.eq_iff_iff.mpr ⟨settled.configured, pending⟩
  | some answer =>
    have answer_eq := granted answer (mem_attempts.mpr ⟨role, mem, attempt⟩)
    obtain ⟨endpoint', found', pending, opened | disarmed | failed⟩ := attempt_cases mem attempt
    · obtain ⟨-, h, after⟩ := opened
      obtain rfl : endpoint' = endpoint := Option.some.inj (found'.symm.trans found)
      simp only [Endpoint.isPending, Bool.and_eq_true] at pending
      have complete := Endpoint.isComplete_of_isConfigured pending.1
      refine ⟨_, after, Endpoint.settled_opened h settled.armed complete,
        endpoint'.template_opened h, ?_⟩
      rw [Endpoint.isUp_opened, Endpoint.isConfigured_opened h complete]
    · rw [answer_eq] at disarmed
      cases disarmed.1
    · obtain ⟨fault, fault_eq, -, -⟩ := failed
      rw [answer_eq] at fault_eq
      cases fault_eq

private theorem endpoint?_bringUp_of_missing {host : Host σ} {link : Link} {os : σ} {role : Role}
    (missing : link.endpoint? role = none) :
    (link.bringUp host os).state.endpoint? role = none := by
  have none_made : link.attempt? host role os = none := by
    cases attempt : link.attempt? host role os with
    | none => rfl
    | some answer =>
      obtain ⟨-, endpoint, found, -⟩ := attemptAfter_eq_some_iff.mp attempt
      rw [missing] at found
      cases found
  rw [endpoint?_bringUp_of_no_attempt none_made, missing]

private theorem bringUp_of_granted {host : Host σ} {link : Link} {os : σ} (kinds : link.HasKinds)
    (settled : link.Settled) (granted : ∀ answer ∈ link.attempts host os, answer = .ok true) :
    (link.bringUp host os).answer = .ok (link.bringUp host os).state.isUp ∧
      (link.bringUp host os).state.Settled ∧
      (link.bringUp host os).state.template = link.template ∧
      ∀ role endpoint, (link.bringUp host os).state.endpoint? role = some endpoint →
        endpoint.isUp = endpoint.isConfigured := by
  have quiet : ∀ role ∈ link.topology.requiredRoles, ∀ fault,
      link.attempt? host role os ≠ some (.error fault) := by
    intro role required fault attempt
    have mem := List.mem_append_left link.topology.optionalRoles required
    cases granted _ (mem_attempts.mpr ⟨role, mem, attempt⟩)
  have own : ∀ role after, (link.bringUp host os).state.endpoint? role = some after →
      ∃ endpoint, link.endpoint? role = some endpoint ∧ after.Settled ∧
        after.template = endpoint.template ∧ after.isUp = after.isConfigured := by
    intro role after found
    cases before : link.endpoint? role with
    | none =>
      rw [endpoint?_bringUp_of_missing before] at found
      cases found
    | some endpoint =>
      obtain ⟨after', found', facts⟩ := endpoint?_bringUp_of_granted (kinds.mem_roles before) before
        (settled role endpoint before) granted
      obtain rfl : after' = after := Option.some.inj (found'.symm.trans found)
      exact ⟨endpoint, rfl, facts⟩
  refine ⟨((bringUp_law host link os).answers quiet).1, ?_, ?_, ?_⟩
  · intro role after found
    obtain ⟨endpoint, -, settled_after, -, -⟩ := own role after found
    exact settled_after
  · apply ext_endpoint?
    · exact topology_bringUp host link os
    · intro role
      rw [endpoint?_template, endpoint?_template]
      cases before : link.endpoint? role with
      | none => rw [endpoint?_bringUp_of_missing before]
      | some endpoint =>
        obtain ⟨after, found, -, template, -⟩ := endpoint?_bringUp_of_granted
          (kinds.mem_roles before) before (settled role endpoint before) granted
        rw [found, Option.map_some, Option.map_some, template]
  · intro role after found
    obtain ⟨endpoint, -, -, -, up⟩ := own role after found
    exact up

private theorem template_disconnect (host : Host σ) (link : Link) (os : σ) :
    (link.disconnect host os).1.template = link.template := by
  apply ext_endpoint?
  · exact (acts_forEach (fun _ _ => Endpoint.Steps.disconnected) Role.all link os).topology_eq
  · intro role
    rw [endpoint?_template, endpoint?_disconnect, endpoint?_template, Option.map_map]
    congr 1
    funext endpoint
    exact endpoint.template_down

private theorem Settled.disconnect {link : Link} (settled : link.Settled) (host : Host σ) (os : σ) :
    (link.disconnect host os).1.Settled := by
  intro role endpoint found
  rw [endpoint?_disconnect] at found
  obtain ⟨before, found', rfl⟩ := Option.map_eq_some_iff.mp found
  exact Endpoint.settled_down (settled role before found').armed

private theorem template_setBlocking (host : Host σ) (link : Link) (blocking : Bool) (os : σ) :
    (link.setBlocking host blocking os).1.template =
      link.template.mapEndpoints fun _ e => e.withBlocking blocking := by
  apply ext_endpoint?
  · exact (acts_forEach (fun _ _ => Endpoint.Tunes.blocking blocking) Role.all link os).topology_eq
  · intro role
    rw [endpoint?_template, endpoint?_setBlocking, endpoint?_mapEndpoints, endpoint?_template,
      Option.map_map, Option.map_map]
    congr 1
    funext endpoint
    exact endpoint.template_withBlocking blocking

private theorem Settled.setBlocking {link : Link} (settled : link.Settled) (host : Host σ)
    (blocking : Bool) (os : σ) : (link.setBlocking host blocking os).1.Settled := by
  intro role endpoint found
  rw [endpoint?_setBlocking] at found
  obtain ⟨before, found', rfl⟩ := Option.map_eq_some_iff.mp found
  exact (settled role before found').withBlocking blocking

end Link

namespace Tuning

/-- What the attempts answer that settle a change of a link. -/
def attempts (host : Host σ) (tuning : Tuning) (link : Link) (os : σ) : List (Except Fault Bool) :=
  match tuning with
  | .host hostname => Link.hostAttempts host hostname link.topology.roles link os
  | .port role number => (link.reopening? host role (·.setPort role number) os).toList
  | .devicePath path =>
      match link.endpoint? .data with
      | some (.serialLine _) => (link.reopening? host .data (·.setDevicePath path) os).toList
      | _ => []
  | .blocking _ => []

/-- A change for which everything could be opened answers what the topology says, and leaves a link
of the changed configuration. -/
theorem run_of_granted {host : Host σ} {tuning : Tuning} {link : Link} {os : σ}
    (kinds : link.HasKinds) (settled : link.Settled)
    (granted : ∀ answer ∈ tuning.attempts host link os, answer = .ok true) :
    (tuning.run host link os).answer = tuning.answer link.topology ∧
      (tuning.run host link os).state.Settled ∧
      (tuning.run host link os).state.template = link.template.mapEndpoints tuning.onEndpoint := by
  have kinds_template := (Link.hasKinds_template_iff link).mpr kinds
  cases answer_eq : tuning.answer link.topology with
  | error fault =>
    rw [run_of_refused host kinds answer_eq]
    exact ⟨rfl, settled, (mapEndpoints_of_refused kinds_template answer_eq).symm⟩
  | ok _ =>
    cases tuning with
    | host hostname =>
      obtain ⟨answer, settled', template⟩ := Link.setHostOf_of_granted link.topology.roles_nodup
        settled kinds.present_of_roles granted
      refine ⟨answer, settled', template.trans ?_⟩
      exact kinds_template.mapEndpoints_roles (·.setHostname hostname)
    | port role number =>
      obtain ⟨endpoint, found⟩ := kinds.exists_endpoint_of_port answer_eq
      obtain ⟨⟨reopened, answer⟩, settled', template⟩ := Link.reconfigure_of_granted
        (Endpoint.plainChange_setPort role number) settled found granted
      refine ⟨?_, settled', template⟩
      rw [run, Link.setPort, Outcome.answer_withAnswer, answer]
      rfl
    | devicePath path =>
      obtain ⟨line, found⟩ := kinds.exists_line answer_eq
      simp only [attempts, found] at granted
      obtain ⟨⟨reopened, answer⟩, settled', template⟩ := Link.reconfigure_of_granted
        (Endpoint.plainChange_setDevicePath path) settled found granted
      rw [run, Link.setDevicePath_of_line found]
      refine ⟨?_, settled', template⟩
      rw [Outcome.answer_withAnswer, answer]
      rfl
    | blocking mode =>
      exact ⟨rfl, settled.setBlocking host mode os, link.template_setBlocking host mode os⟩

end Tuning

namespace Link

/-- A call made to a link on its way to being used. -/
inductive Call
  | tune (tuning : Tuning)
  | bringUp
  | disconnect
deriving DecidableEq

def Call.tuning? : Call → Option Tuning
  | tune tuning => some tuning
  | bringUp | disconnect => none

/-- What became of a link: the answers of the changes, those of all attempts to open something, and
what was left. -/
structure Service (σ : Type) where
  answers : List (Except Fault Unit)
  attempts : List (Except Fault Bool)
  link : Link
  host : σ

/-- Makes calls in order. A fault does not keep the later ones from being made. -/
def serve (host : Host σ) : List Call → Link → σ → Service σ
  | [], link, os => ⟨[], [], link, os⟩
  | .tune tuning :: rest, link, os =>
      let outcome := tuning.run host link os
      let later := serve host rest outcome.state outcome.host
      { later with
        answers := outcome.answer :: later.answers
        attempts := tuning.attempts host link os ++ later.attempts }
  | .bringUp :: rest, link, os =>
      let outcome := link.bringUp host os
      let later := serve host rest outcome.state outcome.host
      { later with attempts := link.attempts host os ++ later.attempts }
  | .disconnect :: rest, link, os =>
      serve host rest (link.disconnect host os).1 (link.disconnect host os).2

/-- What the calls configure stays what the changes among them make of the link, with and without
the others. -/
theorem serve_of_granted {host : Host σ} {calls : List Call} {link : Link} {os : σ}
    (kinds : link.HasKinds) (settled : link.Settled)
    (granted : ∀ answer ∈ (serve host calls link os).attempts, answer = .ok true) :
    (serve host calls link os).answers =
        (calls.filterMap Call.tuning?).map (·.answer link.topology) ∧
      (serve host calls link os).link.Settled ∧
      (serve host calls link os).link.template =
        link.template.mapEndpoints (Tuning.onEndpointAll (calls.filterMap Call.tuning?)) := by
  -- Every call leaves the link settled, and only a change makes its template another one. The kinds
  -- of its endpoints are those of the template.
  induction calls generalizing link os with
  | nil => exact ⟨rfl, settled, (mapEndpoints_id fun _ _ _ => rfl).symm⟩
  | cons call rest ih =>
    cases call with
    | tune tuning =>
      have own := fun answer mem => granted answer (List.mem_append_left _ mem)
      obtain ⟨answer, settled', template⟩ := Tuning.run_of_granted kinds settled own
      have topology : (tuning.run host link os).state.topology = link.topology := by
        rw [← topology_template, template, topology_mapEndpoints, topology_template]
      have kinds' : (tuning.run host link os).state.HasKinds := by
        apply HasKinds.of_template template
        exact ((hasKinds_template_iff link).mpr kinds).mapEndpoints fun role e =>
          e.retuned_onEndpoint tuning role
      obtain ⟨answers, settled_end, template_end⟩ :=
        ih kinds' settled' fun answer mem => granted answer (List.mem_append_right _ mem)
      refine ⟨?_, settled_end, ?_⟩
      · dsimp only [serve]
        rw [answers, answer, topology]
        rfl
      · dsimp only [serve]
        rw [template_end, template, mapEndpoints_mapEndpoints]
        rfl
    | bringUp =>
      have own := fun answer mem => granted answer (List.mem_append_left _ mem)
      obtain ⟨-, settled', template, -⟩ := bringUp_of_granted kinds settled own
      have topology := topology_bringUp host link os
      have kinds' := HasKinds.of_template template ((hasKinds_template_iff link).mpr kinds)
      have later :=
        ih kinds' settled' fun answer mem => granted answer (List.mem_append_right _ mem)
      rw [topology, template] at later
      exact later
    | disconnect =>
      have template := link.template_disconnect host os
      have topology : (link.disconnect host os).1.topology = link.topology := by
        rw [← topology_template, template, topology_template]
      have kinds' := HasKinds.of_template template ((hasKinds_template_iff link).mpr kinds)
      have later := ih kinds' (settled.disconnect host os) granted
      rw [topology, template] at later
      exact later

/-- Makes calls to a new link and brings it up in the end. -/
def commission (host : Host σ) (topology : Topology) (calls : List Call) (os : σ) :
    Except Fault Bool × Service σ :=
  let served := serve host calls (new topology) os
  let outcome := served.link.bringUp host served.host
  (outcome.answer,
    { served with
      attempts := served.attempts ++ served.link.attempts host served.host
      link := outcome.state
      host := outcome.host })

/-- A link that was commissioned without a failure answers what its topology says to every change,
and the changes alone decide its configuration. -/
theorem commission_of_granted {host : Host σ} {topology : Topology} {calls : List Call} {os : σ}
    (granted : ∀ answer ∈ (commission host topology calls os).2.attempts, answer = .ok true) :
    (commission host topology calls os).1 =
        .ok (commission host topology calls os).2.link.isUp ∧
      (commission host topology calls os).2.answers =
        (calls.filterMap Call.tuning?).map (·.answer topology) ∧
      (commission host topology calls os).2.link.Settled ∧
      (commission host topology calls os).2.link.template =
        (new topology).mapEndpoints (Tuning.onEndpointAll (calls.filterMap Call.tuning?)) ∧
      ∀ role endpoint, (commission host topology calls os).2.link.endpoint? role = some endpoint →
        endpoint.isUp = endpoint.isConfigured := by
  obtain ⟨answers, settled, template⟩ := serve_of_granted (hasKinds_new topology)
    (settled_new topology) fun answer mem => granted answer (List.mem_append_left _ mem)
  rw [template_new] at template
  have kinds : (serve host calls (new topology) os).link.HasKinds := by
    apply HasKinds.of_template template
    exact (hasKinds_new topology).mapEndpoints fun role e => e.retuned_onEndpointAll _ role
  obtain ⟨answer, settled', template', up⟩ := bringUp_of_granted kinds settled
    fun answer mem => granted answer (List.mem_append_right _ mem)
  exact ⟨answer, answers, settled', template'.trans template, up⟩

/-- The changes among some calls, made to a link that is not brought up in between. -/
def Call.changesOnly (calls : List Call) : List Call :=
  (calls.filterMap tuning?).map tune

private theorem Call.tunings_changesOnly (calls : List Call) :
    (changesOnly calls).filterMap tuning? = calls.filterMap tuning? := by
  rw [changesOnly, List.filterMap_map]
  exact List.filterMap_some

private theorem isUp_eq_of_standing {link other : Link} (topology : link.topology = other.topology)
    (same : ∀ role, (link.endpoint? role).map Endpoint.standing =
      (other.endpoint? role).map Endpoint.standing) : link.isUp = other.isUp := by
  have role_up : ∀ role, link.roleHas role Endpoint.isUp = other.roleHas role Endpoint.isUp := by
    intro role
    have seen : ∀ endpoint? : Option Endpoint, endpoint?.any Endpoint.isUp =
        (endpoint?.map Endpoint.standing).any fun standing => standing.2.2.1 := by
      intro endpoint?
      rw [Option.any_map]
      rfl
    rw [roleHas, roleHas, seen, seen, same role]
  simp only [isUp, allRequired, topology, role_up]

private theorem standing_eq_of_template {link other : Link} (same : link.template = other.template)
    (settled : link.Settled) (settled' : other.Settled)
    (up : ∀ role endpoint, link.endpoint? role = some endpoint →
      endpoint.isUp = endpoint.isConfigured)
    (up' : ∀ role endpoint, other.endpoint? role = some endpoint →
      endpoint.isUp = endpoint.isConfigured) (role : Role) :
    (link.endpoint? role).map Endpoint.standing = (other.endpoint? role).map Endpoint.standing := by
  have templates : (link.endpoint? role).map Endpoint.template =
      (other.endpoint? role).map Endpoint.template := by
    rw [← endpoint?_template, same, endpoint?_template]
  cases found : link.endpoint? role with
  | none =>
    rw [found] at templates
    rw [Option.map_eq_none_iff.mp templates.symm]
  | some endpoint =>
    rw [found] at templates
    obtain ⟨endpoint', found', template⟩ := Option.map_eq_some_iff.mp templates.symm
    rw [found', Option.map_some, Option.map_some,
      Endpoint.standing_of_template template.symm (settled role endpoint found)
        (settled' role endpoint' found') (up role endpoint found) (up' role endpoint' found')]

/-- Bringing a link up and disconnecting it between changes of its configuration makes no difference
to the answers of the changes, nor to what the link is once it is brought up in the end, as long as
everything opens that either link tries to open. -/
theorem live_changes_agree (live : Host σ) (cold : Host τ) (topology : Topology)
    (calls : List Call) (os : σ) (os' : τ)
    (live_opens : ∀ answer ∈ (commission live topology calls os).2.attempts, answer = .ok true)
    (cold_opens : ∀ answer ∈ (commission cold topology (Call.changesOnly calls) os').2.attempts,
      answer = .ok true) :
    (commission live topology calls os).2.answers =
        (commission cold topology (Call.changesOnly calls) os').2.answers ∧
      (commission live topology calls os).1 =
        (commission cold topology (Call.changesOnly calls) os').1 ∧
      ∀ role,
        ((commission live topology calls os).2.link.endpoint? role).map Endpoint.standing =
          ((commission cold topology (Call.changesOnly calls) os').2.link.endpoint? role).map
            Endpoint.standing := by
  obtain ⟨up, answers, settled, template, role_up⟩ := commission_of_granted live_opens
  obtain ⟨up', answers', settled', template', role_up'⟩ := commission_of_granted cold_opens
  rw [Call.tunings_changesOnly] at answers' template'
  have same := template.trans template'.symm
  have topology_eq := (topology_template _).symm.trans
    ((congrArg (fun link : Link => link.topology) same).trans (topology_template _))
  have standing := standing_eq_of_template same settled settled' role_up role_up'
  refine ⟨answers.trans answers'.symm, ?_, standing⟩
  rw [up, up', isUp_eq_of_standing topology_eq standing]

/-- A listener whose data port is changed while it listens, and which is disconnected once. -/
theorem live_changes_agree_while_listening :
    let calls : List Call :=
      [.tune (.port .command 5000), .bringUp, .tune (.port .data 6000), .disconnect,
        .tune (.blocking true)]
    let live := commission Loopback.World.host .observatoryStandard calls {}
    let cold := commission Loopback.World.host .observatoryStandard (Call.changesOnly calls) {}
    live.2.attempts.length = 5 ∧ cold.2.attempts.length = 2 ∧ live.1 = .ok true ∧
      live.1 = cold.1 ∧
      ∀ role, (live.2.link.endpoint? role).map Endpoint.standing =
        (cold.2.link.endpoint? role).map Endpoint.standing := by
  intro calls live cold
  have live_opens : ∀ answer ∈ live.2.attempts, answer = .ok true := by decide +kernel
  have cold_opens : ∀ answer ∈ cold.2.attempts, answer = .ok true := by decide +kernel
  obtain ⟨-, answer, standing⟩ := live_changes_agree Loopback.World.host Loopback.World.host
    .observatoryStandard calls {} {} live_opens cold_opens
  exact ⟨by decide +kernel, by decide +kernel, by decide +kernel, answer, standing⟩

end Link

end InstrumentLink
