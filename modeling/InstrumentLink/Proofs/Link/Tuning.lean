import InstrumentLink.Proofs.Link.Coherence

namespace InstrumentLink

variable {σ : Type}

/-- A change of the configuration of a link. -/
inductive Tuning
  | host (hostname : String)
  | port (role : Role) (port : UInt16)
  | devicePath (devicePath : String)
  | blocking (blocking : Bool)
deriving DecidableEq

namespace Tuning

def run (host : Host σ) (tuning : Tuning) (link : Link) (os : σ) : Outcome σ Link Unit :=
  match tuning with
  | .host hostname => link.setHost host hostname os
  | .port role number => link.setPort host role number os
  | .devicePath path => link.setDevicePath host path os
  | .blocking mode => ⟨.ok (), (link.setBlocking host mode os).1, (link.setBlocking host mode os).2⟩

/-- What a change makes of the configuration of a role's endpoint. -/
def onEndpoint (tuning : Tuning) (role : Role) (endpoint : Endpoint) : Endpoint :=
  match tuning with
  | .host hostname => endpoint.setHostname hostname
  | .port changed number => if role = changed then endpoint.setPort changed number else endpoint
  | .devicePath path => if role = .data then endpoint.setDevicePath path else endpoint
  | .blocking mode => endpoint.withBlocking mode

/-- What a change answers when everything that it tries to open can be opened. -/
def answer (tuning : Tuning) (topology : Topology) : Except Fault Unit :=
  match tuning with
  | .host _ | .blocking _ => .ok ()
  | .port role _ =>
      if topology.hasRole role then .ok () else .error (.missingRole topology role)
  | .devicePath _ =>
      if topology.endpointKind? .data = some .serialLine then .ok ()
      else .error (.missingLine topology)

/-- What changes make of the configuration of a role's endpoint. -/
def onEndpointAll (tunings : List Tuning) (role : Role) (endpoint : Endpoint) : Endpoint :=
  tunings.foldl (fun endpoint tuning => tuning.onEndpoint role endpoint) endpoint

end Tuning

namespace Endpoint

theorem retuned_onEndpoint (tuning : Tuning) (role : Role) (endpoint : Endpoint) :
    endpoint.Retuned (tuning.onEndpoint role endpoint) := by
  cases tuning with
  | host hostname => exact endpoint.retuned_setHostname hostname
  | port changed number =>
    rw [Tuning.onEndpoint]
    split
    · exact endpoint.retuned_setPort changed number
    · exact Retuned.refl endpoint
  | devicePath path =>
    rw [Tuning.onEndpoint]
    split
    · exact endpoint.retuned_setDevicePath path
    · exact Retuned.refl endpoint
  | blocking mode => exact endpoint.retuned_withBlocking mode

theorem retuned_onEndpointAll (tunings : List Tuning) (role : Role) (endpoint : Endpoint) :
    endpoint.Retuned (Tuning.onEndpointAll tunings role endpoint) := by
  induction tunings generalizing endpoint with
  | nil => exact Retuned.refl endpoint
  | cons tuning rest ih => exact (endpoint.retuned_onEndpoint tuning role).trans (ih _)

end Endpoint

namespace Role

theorem nodup_all : all.Nodup := by decide

theorem mem_all (role : Role) : role ∈ all := by cases role <;> decide

end Role

namespace Link

/-- The link with each endpoint changed in a way that depends on its role. -/
def mapEndpoints (link : Link) (f : Role → Endpoint → Endpoint) : Link :=
  ⟨link.topology, .ofFn fun role => (link.endpoint? role).map (f role)⟩

@[simp] theorem endpoint?_mapEndpoints (link : Link) (f : Role → Endpoint → Endpoint)
    (role : Role) :
    (link.mapEndpoints f).endpoint? role = (link.endpoint? role).map (f role) :=
  PerRole.get_ofFn _ role

@[simp] theorem topology_mapEndpoints (link : Link) (f : Role → Endpoint → Endpoint) :
    (link.mapEndpoints f).topology = link.topology := rfl

@[simp] theorem mapEndpoints_mapEndpoints (link : Link) (f g : Role → Endpoint → Endpoint) :
    (link.mapEndpoints f).mapEndpoints g = link.mapEndpoints fun role e => g role (f role e) := by
  apply ext_endpoint?
  · rfl
  · intro role
    simp [Function.comp_def]

theorem mapEndpoints_cons {first : Role} {rest : List Role} (absent : first ∉ rest) (link : Link)
    (change : Role → Endpoint → Endpoint) :
    (link.mapEndpoints fun role e => if role = first then change role e else e).mapEndpoints
        (fun role e => if role ∈ rest then change role e else e) =
      link.mapEndpoints fun role e => if role ∈ first :: rest then change role e else e := by
  rw [mapEndpoints_mapEndpoints]
  congr 1
  funext role e
  by_cases same : role = first
  · subst same
    simp [absent]
  · simp [same]

private theorem mapEndpoints_congr {link : Link} {f g : Role → Endpoint → Endpoint}
    (agree : ∀ role endpoint, link.endpoint? role = some endpoint →
      f role endpoint = g role endpoint) :
    link.mapEndpoints f = link.mapEndpoints g := by
  apply ext_endpoint?
  · rfl
  · intro role
    rw [endpoint?_mapEndpoints, endpoint?_mapEndpoints]
    cases found : link.endpoint? role with
    | none => rfl
    | some endpoint => rw [Option.map_some, Option.map_some, agree role endpoint found]

theorem mapEndpoints_id {link : Link} {f : Role → Endpoint → Endpoint}
    (same : ∀ role endpoint, link.endpoint? role = some endpoint → f role endpoint = endpoint) :
    link.mapEndpoints f = link := by
  apply ext_endpoint? (link.topology_mapEndpoints f)
  intro role
  rw [endpoint?_mapEndpoints]
  cases found : link.endpoint? role with
  | none => rfl
  | some endpoint => rw [Option.map_some, same role endpoint found]

theorem mapEndpoints_id_of_role {link : Link} {role : Role} {change : Role → Endpoint → Endpoint}
    (idle : ∀ endpoint, link.endpoint? role = some endpoint → change role endpoint = endpoint) :
    (link.mapEndpoints fun other e => if other = role then change other e else e) = link := by
  apply mapEndpoints_id
  intro other endpoint found
  split
  · next same =>
    rw [same] at found ⊢
    exact idle endpoint found
  · rfl

theorem withEndpoint_eq_mapEndpoints {link : Link} {role : Role} {endpoint : Endpoint}
    (found : link.endpoint? role = some endpoint) (change : Endpoint → Endpoint) :
    link.withEndpoint role (change endpoint) =
      link.mapEndpoints fun other e => if other = role then change e else e := by
  apply ext_endpoint?
  · rfl
  · intro other
    by_cases same : other = role
    · subst same
      simp [found]
    · rw [link.endpoint?_withEndpoint_of_ne _ same]
      simp [same]

theorem IsBare.mapEndpoints {link : Link} {f : Role → Endpoint → Endpoint} (bare : link.IsBare)
    (retuned : ∀ (role : Role) (endpoint : Endpoint), endpoint.Retuned (f role endpoint)) :
    (link.mapEndpoints f).IsBare := by
  intro role endpoint found
  rw [endpoint?_mapEndpoints] at found
  obtain ⟨before, found', rfl⟩ := Option.map_eq_some_iff.mp found
  rw [(retuned role before).handles_eq]
  exact bare role before found'

theorem hasKinds_mapEndpoints_iff {link : Link} {f : Role → Endpoint → Endpoint}
    (same : ∀ role endpoint, (f role endpoint).kind = endpoint.kind) :
    (link.mapEndpoints f).HasKinds ↔ link.HasKinds := by
  apply forall_congr'
  intro role
  have kind_eq : Endpoint.kind ∘ f role = Endpoint.kind := funext (same role)
  rw [endpoint?_mapEndpoints, Option.map_map, kind_eq]
  rfl

theorem HasKinds.mapEndpoints {link : Link} {f : Role → Endpoint → Endpoint} (kinds : link.HasKinds)
    (retuned : ∀ (role : Role) (endpoint : Endpoint), endpoint.Retuned (f role endpoint)) :
    (link.mapEndpoints f).HasKinds :=
  (hasKinds_mapEndpoints_iff fun role endpoint => (retuned role endpoint).kind_eq).mpr kinds

theorem HasKinds.isSome_endpoint? {link : Link} (kinds : link.HasKinds) (role : Role) :
    (link.endpoint? role).isSome = link.topology.hasRole role := by
  rw [← Option.isSome_map, kinds role, Topology.endpointKind?]
  by_cases has : link.topology.hasRole role = true <;> simp [has]

theorem HasKinds.mem_roles {link : Link} (kinds : link.HasKinds) {role : Role}
    {endpoint : Endpoint} (found : link.endpoint? role = some endpoint) :
    role ∈ link.topology.roles := by
  have has := kinds.isSome_endpoint? role
  rw [found] at has
  exact List.contains_iff_mem.mp has.symm

theorem HasKinds.mapEndpoints_roles {link : Link} (kinds : link.HasKinds)
    (change : Endpoint → Endpoint) :
    (link.mapEndpoints fun role e => if role ∈ link.topology.roles then change e else e) =
      link.mapEndpoints fun _ => change := by
  apply mapEndpoints_congr
  intro role endpoint found
  exact if_pos (kinds.mem_roles found)

theorem HasKinds.present_of_roles {link : Link} (kinds : link.HasKinds) :
    ∀ role ∈ link.topology.roles, (link.endpoint? role).isSome = true := by
  intro role mem
  rw [kinds.isSome_endpoint?]
  exact List.contains_iff_mem.mpr mem

theorem HasKinds.endpoint?_eq_none {link : Link} (kinds : link.HasKinds) {role : Role}
    (lacks : ¬ link.topology.hasRole role = true) : link.endpoint? role = none := by
  rw [← kinds.isSome_endpoint?, Bool.not_eq_true, Option.isSome_eq_false_iff] at lacks
  exact Option.isNone_iff_eq_none.mp lacks

theorem HasKinds.exists_endpoint_of_port {link : Link} (kinds : link.HasKinds) {role : Role}
    {number : UInt16} (accepted : (Tuning.port role number).answer link.topology = .ok ()) :
    ∃ endpoint, link.endpoint? role = some endpoint := by
  dsimp only [Tuning.answer] at accepted
  split at accepted
  · next has =>
    rw [← kinds.isSome_endpoint?] at has
    exact Option.isSome_iff_exists.mp has
  · cases accepted

theorem HasKinds.exists_line {link : Link} (kinds : link.HasKinds) {path : String}
    (accepted : (Tuning.devicePath path).answer link.topology = .ok ()) :
    ∃ line, link.endpoint? .data = some (.serialLine line) := by
  dsimp only [Tuning.answer] at accepted
  split at accepted
  · next serial =>
    rw [← kinds .data] at serial
    obtain ⟨endpoint, found, kind⟩ := Option.map_eq_some_iff.mp serial
    cases endpoint with
    | serialLine line => exact ⟨line, found⟩
    | _ => cases kind
  · cases accepted

theorem setDevicePath_of_line {host : Host σ} {link : Link} {line : SerialLine} {path : String}
    {os : σ} (found : link.endpoint? .data = some (.serialLine line)) :
    link.setDevicePath host path os =
      (link.reconfigure host .data (·.setDevicePath path) os).withAnswer fun _ => () := by
  simp only [setDevicePath, found]

private theorem endpoint?_forEach {f : Endpoint → σ → Endpoint × σ} {g : Endpoint → Endpoint}
    (changes : ∀ endpoint os, (f endpoint os).1 = g endpoint) {roles : List Role}
    (nodup : roles.Nodup) (link : Link) (os : σ) (role : Role) :
    (forEach f roles link os).1.endpoint? role =
      if role ∈ roles then (link.endpoint? role).map g else link.endpoint? role := by
  induction roles generalizing link os with
  | nil => rfl
  | cons first rest ih =>
    obtain ⟨absent, nodup_rest⟩ := List.nodup_cons.mp nodup
    unfold forEach
    cases found : link.endpoint? first with
    | none =>
      dsimp only
      rw [ih nodup_rest]
      by_cases same : role = first
      · subst same
        simp [found]
      · simp [same]
    | some endpoint =>
      dsimp only
      rw [ih nodup_rest, changes]
      by_cases same : role = first
      · subst same
        simp [absent, found]
      · rw [link.endpoint?_withEndpoint_of_ne _ same]
        simp [same]

theorem endpoint?_setBlocking (host : Host σ) (link : Link) (blocking : Bool) (os : σ)
    (role : Role) :
    (link.setBlocking host blocking os).1.endpoint? role =
      (link.endpoint? role).map (Endpoint.withBlocking blocking) := by
  rw [setBlocking,
    endpoint?_forEach (fun e os => e.setBlocking_fst host blocking os) Role.nodup_all,
    if_pos role.mem_all]

theorem endpoint?_disconnect (host : Host σ) (link : Link) (os : σ) (role : Role) :
    (link.disconnect host os).1.endpoint? role = (link.endpoint? role).map Endpoint.down := by
  rw [disconnect, endpoint?_forEach (fun e os => e.disconnect_fst host os) Role.nodup_all,
    if_pos role.mem_all]

theorem reconfigure_of_found {host : Host σ} {link : Link} {role : Role} {endpoint : Endpoint}
    (found : link.endpoint? role = some endpoint) (change : Endpoint → Endpoint) (os : σ) :
    link.reconfigure host role change os =
      (endpoint.reopenIfChanged host (change endpoint) os).inState (link.withEndpoint role) := by
  rw [reconfigure, reconfigureWith_of_some host found]

private theorem reconfigure_of_missing {host : Host σ} {link : Link} {role : Role}
    (missing : link.endpoint? role = none) (change : Endpoint → Endpoint) (os : σ) :
    link.reconfigure host role change os =
      ⟨.error (.missingRole link.topology role), link, os⟩ := by
  rw [reconfigure, reconfigureWith_of_none host missing]

/-! ### Where nothing is open -/

private theorem reconfigure_of_bare (host : Host σ) {link : Link} {role : Role}
    {endpoint : Endpoint} (bare : link.IsBare) (found : link.endpoint? role = some endpoint)
    (change : Endpoint → Endpoint) (os : σ) :
    link.reconfigure host role change os =
      ⟨.ok false, link.mapEndpoints fun other e => if other = role then change e else e, os⟩ := by
  have down := Endpoint.isUp_eq_false_of_handles_eq_nil (bare role endpoint found)
  rw [reconfigure_of_found found, Endpoint.reopenIfChanged, if_pos (Or.inl down),
    ← withEndpoint_eq_mapEndpoints found]
  rfl

private theorem setHostOf_of_bare (host : Host σ) (hostname : String) {roles : List Role}
    (nodup : roles.Nodup) {link : Link} (bare : link.IsBare)
    (present : ∀ role ∈ roles, (link.endpoint? role).isSome = true) (os : σ) :
    setHostOf host hostname roles link os =
      ⟨.ok (), link.mapEndpoints fun role e => if role ∈ roles then e.setHostname hostname else e,
        os⟩ := by
  induction roles generalizing link with
  | nil =>
    rw [mapEndpoints_id fun role endpoint _ => if_neg List.not_mem_nil]
    rfl
  | cons first rest ih =>
    obtain ⟨absent, nodup_rest⟩ := List.nodup_cons.mp nodup
    obtain ⟨endpoint, found⟩ := Option.isSome_iff_exists.mp (present first List.mem_cons_self)
    have changed := reconfigure_of_bare host bare found (·.setHostname hostname) os
    have answer : (link.reconfigure host first (·.setHostname hostname) os).answer = .ok false := by
      rw [changed]
    rw [setHostOf, Outcome.andThen_of_ok _ answer, changed]
    dsimp only
    rw [ih nodup_rest]
    · rw [mapEndpoints_cons absent link fun _ e => e.setHostname hostname]
    · apply bare.mapEndpoints
      intro role e
      split
      · exact e.retuned_setHostname hostname
      · exact Endpoint.Retuned.refl e
    · intro role mem
      rw [endpoint?_mapEndpoints, Option.isSome_map]
      exact present role (List.mem_cons_of_mem first mem)

private theorem forEach_of_bare {f : Endpoint → σ → Endpoint × σ} {g : Endpoint → Endpoint}
    (changes : ∀ endpoint os, endpoint.handles = [] → f endpoint os = (g endpoint, os))
    (closed : ∀ endpoint, endpoint.handles = [] → (g endpoint).handles = [])
    (roles : List Role) {link : Link} (bare : link.IsBare) (os : σ) :
    (forEach f roles link os).2 = os := by
  induction roles generalizing link with
  | nil => rfl
  | cons role rest ih =>
    unfold forEach
    split
    · exact ih bare
    · next endpoint found =>
      have role_bare := bare role endpoint found
      rw [changes endpoint os role_bare]
      exact ih (bare.withEndpoint (closed endpoint role_bare))

theorem setBlocking_of_bare (host : Host σ) {link : Link} (bare : link.IsBare) (blocking : Bool)
    (os : σ) :
    link.setBlocking host blocking os =
      (link.mapEndpoints fun _ e => e.withBlocking blocking, os) := by
  apply Prod.ext
  · apply ext_endpoint?
    · exact (acts_forEach (fun _ _ => Endpoint.Tunes.blocking blocking)
        Role.all link os).topology_eq
    · intro role
      rw [endpoint?_setBlocking, endpoint?_mapEndpoints]
  · apply forEach_of_bare (fun e os bare => e.setBlocking_of_bare host bare blocking os)
      _ Role.all bare
    intro e closed
    rw [(e.retuned_withBlocking blocking).handles_eq, closed]

end Link

namespace Tuning

/-- A topology refuses ports of roles that it lacks, and devices without a line for data. -/
theorem refused_cases {tuning : Tuning} {topology : Topology} {fault : Fault}
    (refused : tuning.answer topology = .error fault) :
    (∃ role number, tuning = .port role number ∧ ¬ topology.hasRole role = true ∧
        fault = .missingRole topology role) ∨
      ∃ path, tuning = .devicePath path ∧ topology.endpointKind? .data ≠ some .serialLine ∧
        fault = .missingLine topology := by
  cases tuning with
  | host hostname => cases refused
  | blocking mode => cases refused
  | port role number =>
    dsimp only [answer] at refused
    split at refused
    · cases refused
    · next lacks => exact Or.inl ⟨role, number, rfl, lacks, (Except.error.inj refused).symm⟩
  | devicePath path =>
    dsimp only [answer] at refused
    split at refused
    · cases refused
    · next no_line => exact Or.inr ⟨path, rfl, no_line, (Except.error.inj refused).symm⟩

theorem run_of_refused (host : Host σ) {tuning : Tuning} {link : Link} {fault : Fault}
    (kinds : link.HasKinds) (refused : tuning.answer link.topology = .error fault) (os : σ) :
    tuning.run host link os = ⟨.error fault, link, os⟩ := by
  rcases refused_cases refused with ⟨role, number, rfl, lacks, rfl⟩ | ⟨path, rfl, no_line, rfl⟩
  · rw [run, Link.setPort, Link.reconfigure_of_missing (kinds.endpoint?_eq_none lacks)]
    rfl
  · dsimp only [run, Link.setDevicePath]
    split
    · next line found =>
      rw [← kinds .data, found] at no_line
      exact absurd rfl no_line
    · rfl

theorem mapEndpoints_of_refused {tuning : Tuning} {link : Link} {fault : Fault}
    (kinds : link.HasKinds) (refused : tuning.answer link.topology = .error fault) :
    link.mapEndpoints tuning.onEndpoint = link := by
  apply Link.mapEndpoints_id
  intro role endpoint found
  rcases refused_cases refused with ⟨changed, number, rfl, lacks, -⟩ | ⟨path, rfl, no_line, -⟩
  · apply if_neg
    rintro rfl
    exact lacks (List.contains_iff_mem.mpr (kinds.mem_roles found))
  · by_cases data : role = .data
    · rw [onEndpoint, if_pos data]
      rw [← kinds .data, ← data, found] at no_line
      cases endpoint with
      | serialLine line => exact absurd rfl no_line
      | _ => rfl
    · exact if_neg data

/-- Where nothing is open, a change alters endpoints and does nothing else. -/
theorem run_of_bare (host : Host σ) (tuning : Tuning) {link : Link} (kinds : link.HasKinds)
    (bare : link.IsBare) (os : σ) :
    tuning.run host link os =
      ⟨tuning.answer link.topology, link.mapEndpoints tuning.onEndpoint, os⟩ := by
  cases answer_eq : tuning.answer link.topology with
  | error fault => rw [run_of_refused host kinds answer_eq, mapEndpoints_of_refused kinds answer_eq]
  | ok _ =>
    cases tuning with
    | host hostname =>
      rw [run, Link.setHost,
        Link.setHostOf_of_bare host hostname link.topology.roles_nodup bare kinds.present_of_roles,
        kinds.mapEndpoints_roles]
      rfl
    | port role number =>
      obtain ⟨endpoint, found⟩ := kinds.exists_endpoint_of_port answer_eq
      rw [run, Link.setPort, Link.reconfigure_of_bare host bare found]
      rfl
    | devicePath path =>
      obtain ⟨line, found⟩ := kinds.exists_line answer_eq
      rw [run, Link.setDevicePath_of_line found, Link.reconfigure_of_bare host bare found]
      rfl
    | blocking mode =>
      rw [run, Link.setBlocking_of_bare host bare]
      rfl

end Tuning

end InstrumentLink
