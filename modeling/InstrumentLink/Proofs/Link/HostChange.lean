import InstrumentLink.Loopback.Host
import InstrumentLink.Proofs.Endpoint.Steps
import InstrumentLink.Proofs.Link.Attempt

/-!
# Changing the host of a link

A change of the host goes through the roles of a link in order and settles each of them. It ends
with the first role that cannot be opened again, so the roles after it keep the host that they had:
such a link is split between two hosts.
-/

namespace InstrumentLink

variable {σ : Type}

/-- The host name in the identity of a client socket. -/
def Identity.hostname? : Identity → Option String
  | tcpClient settings => some settings.hostname
  | udpClient settings => some settings.hostname
  | listener _ => none
  | serialLine _ => none

namespace Endpoint

private theorem hostname?_setHostname {endpoint : Endpoint} {hostname found : String}
    (client : (endpoint.setHostname hostname).identity.hostname? = some found) :
    found = hostname := by
  cases endpoint with
  | tcpClient client' => exact (Option.some.inj client).symm
  | udpClient client' => exact (Option.some.inj client).symm
  | listener l => cases client
  | serialLine line => cases client

private theorem setHostname_of_hostname?_eq {endpoint : Endpoint} {hostname : String}
    (same : endpoint.identity.hostname? = some hostname) :
    (endpoint.setHostname hostname).identity = endpoint.identity := by
  cases endpoint with
  | tcpClient client =>
    have hostname_eq : client.settings.hostname = hostname := Option.some.inj same
    simp [setHostname, TcpClient.setHostname, identity, ← hostname_eq]
  | udpClient client =>
    have hostname_eq : client.settings.hostname = hostname := Option.some.inj same
    simp [setHostname, UdpClient.setHostname, identity, ← hostname_eq]
  | listener l => cases same
  | serialLine line => cases same

private theorem reopenIfChanged_of_error {host : Host σ} {before after : Endpoint} {os : σ}
    {fault : Fault} (failed : (before.reopenIfChanged host after os).answer = .error fault) :
    before.isUp = true ∧ after.identity ≠ before.identity ∧ fault.IsOpening ∧
      (before.reopenIfChanged host after os).state.isUp = false := by
  have led := resettled host before after os
  generalize before.reopenIfChanged host after os = outcome at led failed
  cases led with
  | failed reopens fault' os' opening =>
    cases failed
    exact ⟨reopens.1, reopens.2, opening, isUp_down after⟩
  | _ => cases failed

end Endpoint

namespace Link

/-- A role that is served by a client socket has a host as that client's. -/
def PointsTo (link : Link) (role : Role) (hostname : String) : Prop :=
  ∀ endpoint, link.endpoint? role = some endpoint →
    ∀ found, endpoint.identity.hostname? = some found → found = hostname

theorem endpoint?_reconfigureWith_of_ne {ρ : Type} {host : Host σ} {link : Link}
    {role other : Role} {change : Endpoint → σ → ρ × Endpoint × σ} {os : σ} (apart : other ≠ role) :
    (link.reconfigureWith host role change os).2.state.endpoint? other = link.endpoint? other := by
  unfold reconfigureWith
  split
  · rfl
  · exact link.endpoint?_withEndpoint_of_ne _ apart

theorem endpoint?_reconfigure_of_ne {host : Host σ} {link : Link} {role other : Role}
    {change : Endpoint → Endpoint} {os : σ} (apart : other ≠ role) :
    (link.reconfigure host role change os).state.endpoint? other = link.endpoint? other :=
  endpoint?_reconfigureWith_of_ne apart

private theorem pointsTo_reconfigure (host : Host σ) (link : Link) (role : Role) (hostname : String)
    (os : σ) :
    (link.reconfigure host role (·.setHostname hostname) os).state.PointsTo role hostname := by
  intro endpoint found name client
  unfold reconfigure reconfigureWith at found
  split at found
  · next missing =>
    rw [missing] at found
    cases found
  · next before present =>
    dsimp only [Outcome.state_inState] at found
    rw [endpoint?_withEndpoint_self, Option.some.injEq] at found
    rw [← found, Endpoint.identity_reopenIfChanged] at client
    exact Endpoint.hostname?_setHostname client

/-- Why the change of the host ended at a role: there is no endpoint, or its client was up with
another host and could not be opened for the new one. -/
def StoppedAt (before after : Link) (role : Role) (hostname : String) (fault : Fault) : Prop :=
  (before.endpoint? role = none ∧ fault = .missingRole before.topology role) ∨
    ∃ endpoint, before.endpoint? role = some endpoint ∧ endpoint.isUp = true ∧
      endpoint.identity.hostname? ≠ some hostname ∧ fault.IsOpening ∧
      after.roleHas role Endpoint.isUp = false

private theorem stoppedAt_of_error {host : Host σ} {link : Link} {role : Role} {hostname : String}
    {os : σ} {fault : Fault}
    (failed : (link.reconfigure host role (·.setHostname hostname) os).answer = .error fault) :
    link.StoppedAt (link.reconfigure host role (·.setHostname hostname) os).state role hostname
      fault := by
  unfold reconfigure reconfigureWith at failed ⊢
  cases found : link.endpoint? role with
  | none =>
    rw [found] at failed
    exact Or.inl ⟨found, (Except.error.inj failed).symm⟩
  | some endpoint =>
    rw [found] at failed
    obtain ⟨up, changed, opening, down⟩ := Endpoint.reopenIfChanged_of_error failed
    refine Or.inr ⟨endpoint, found, up, ?_, opening, ?_⟩
    · intro same
      exact changed (Endpoint.setHostname_of_hostname?_eq same)
    · simp [roleHas, down]

/-- How a change of the host that went through some roles without a fault, and then ended at one,
has left a link. -/
structure HostStop (before after : Link) (passed : List Role) (role : Role) (hostname : String)
    (fault : Fault) : Prop where
  changed : ∀ earlier ∈ passed, after.PointsTo earlier hostname
  own : after.PointsTo role hostname
  stopped : before.StoppedAt after role hostname fault
  untouched : ∀ other, other ∉ passed → other ≠ role →
    after.endpoint? other = before.endpoint? other

private theorem pointsTo_of_endpoint?_eq {link other : Link} {role : Role} {hostname : String}
    (same : link.endpoint? role = other.endpoint? role) (points : other.PointsTo role hostname) :
    link.PointsTo role hostname := by
  intro endpoint found
  rw [same] at found
  exact points endpoint found

@[simp] theorem topology_reconfigure (host : Host σ) (link : Link) (role : Role)
    (change : Endpoint → Endpoint) (os : σ) :
    (link.reconfigure host role change os).state.topology = link.topology := by
  unfold reconfigure reconfigureWith
  split <;> rfl

private theorem setHostOf_cons_of_ok {host : Host σ} {hostname : String} {link : Link} {role : Role}
    (rest : List Role) {os : σ} {reopened : Bool}
    (ok : (link.reconfigure host role (·.setHostname hostname) os).answer = .ok reopened) :
    setHostOf host hostname (role :: rest) link os =
      setHostOf host hostname rest (link.reconfigure host role (·.setHostname hostname) os).state
        (link.reconfigure host role (·.setHostname hostname) os).host :=
  Outcome.andThen_of_ok _ ok

private theorem setHostOf_cons_of_error {host : Host σ} {hostname : String} {link : Link}
    {role : Role} (rest : List Role) {os : σ} {fault : Fault}
    (error : (link.reconfigure host role (·.setHostname hostname) os).answer = .error fault) :
    setHostOf host hostname (role :: rest) link os =
      ⟨.error fault, (link.reconfigure host role (·.setHostname hostname) os).state,
        (link.reconfigure host role (·.setHostname hostname) os).host⟩ :=
  Outcome.andThen_of_error _ error

private theorem endpoint?_setHostOf_of_notMem (host : Host σ) (hostname : String)
    {roles : List Role} (link : Link) {other : Role} (os : σ) (absent : other ∉ roles) :
    (setHostOf host hostname roles link os).state.endpoint? other = link.endpoint? other := by
  induction roles generalizing link os with
  | nil => rfl
  | cons role rest ih =>
    have apart : other ≠ role := List.ne_of_not_mem_cons absent
    have absent_rest : other ∉ rest := List.not_mem_of_not_mem_cons absent
    cases answer : (link.reconfigure host role (·.setHostname hostname) os).answer with
    | ok reopened =>
      rw [setHostOf_cons_of_ok rest answer, ih _ _ absent_rest, endpoint?_reconfigure_of_ne apart]
    | error fault =>
      rw [setHostOf_cons_of_error rest answer]
      exact endpoint?_reconfigure_of_ne apart

/-- Going through some roles either gives all their clients the new host, or ends at one of them
and leaves those that would have come later as they were. -/
theorem setHostOf_reaches_or_stops (host : Host σ) (hostname : String) {roles : List Role}
    (nodup : roles.Nodup) (link : Link) (os : σ) :
    ((setHostOf host hostname roles link os).answer = .ok () ∧
        ∀ role ∈ roles, (setHostOf host hostname roles link os).state.PointsTo role hostname) ∨
      ∃ passed role later fault, roles = passed ++ role :: later ∧
        (setHostOf host hostname roles link os).answer = .error fault ∧
        HostStop link (setHostOf host hostname roles link os).state passed role hostname fault := by
  induction roles generalizing link os with
  | nil =>
    left
    exact ⟨rfl, fun role mem => absurd mem List.not_mem_nil⟩
  | cons first rest ih =>
    obtain ⟨absent, nodup_rest⟩ := List.nodup_cons.mp nodup
    have first_points := link.pointsTo_reconfigure host first hostname os
    have others : ∀ other, other ≠ first →
        (link.reconfigure host first (·.setHostname hostname) os).state.endpoint? other =
          link.endpoint? other := fun other apart => endpoint?_reconfigure_of_ne apart
    cases answer : (link.reconfigure host first (·.setHostname hostname) os).answer with
    | error fault =>
      rw [setHostOf_cons_of_error rest answer]
      right
      refine ⟨[], first, rest, fault, rfl, rfl, ?_, first_points, stoppedAt_of_error answer, ?_⟩
      · intro earlier mem
        exact absurd mem List.not_mem_nil
      · intro other _ apart
        exact others other apart
    | ok reopened =>
      rw [setHostOf_cons_of_ok rest answer]
      have topology := topology_reconfigure host link first (·.setHostname hostname) os
      generalize link.reconfigure host first (·.setHostname hostname) os = turn at *
      have kept := endpoint?_setHostOf_of_notMem host hostname turn.state turn.host absent
      have first_after := pointsTo_of_endpoint?_eq kept first_points
      rcases ih nodup_rest turn.state turn.host with
        ⟨ok, all⟩ | ⟨passed, role, later, fault, split, raised, stop⟩
      · left
        refine ⟨ok, ?_⟩
        intro role mem
        rcases List.mem_cons.mp mem with rfl | mem
        · exact first_after
        · exact all role mem
      · right
        have apart : role ≠ first := by
          rintro rfl
          exact absent (split ▸ List.mem_append_right _ List.mem_cons_self)
        refine ⟨first :: passed, role, later, fault, by rw [split, List.cons_append], raised, ?_,
          stop.own, ?_, ?_⟩
        · intro earlier mem
          rcases List.mem_cons.mp mem with rfl | mem
          · exact first_after
          · exact stop.changed earlier mem
        · -- the role that ended the change was not touched before its turn
          have stopped := stop.stopped
          unfold StoppedAt at stopped ⊢
          rw [others role apart, topology] at stopped
          exact stopped
        · intro other notMem ne
          have notMem_passed := List.not_mem_of_not_mem_cons notMem
          rw [stop.untouched other notMem_passed ne, others other (List.ne_of_not_mem_cons notMem)]

/-- A change of the host that raises no fault gives it to every client of a link. One that raises a
fault has ended at the first client that could not be opened for the new host: the roles before it
have the new host, and those after it are as they were. -/
theorem setHost_reaches_or_stops (host : Host σ) (link : Link) (hostname : String) (os : σ) :
    ((link.setHost host hostname os).answer = .ok () ∧
        ∀ role ∈ link.topology.roles,
          (link.setHost host hostname os).state.PointsTo role hostname) ∨
      ∃ passed role later fault, link.topology.roles = passed ++ role :: later ∧
        (link.setHost host hostname os).answer = .error fault ∧
        HostStop link (link.setHost host hostname os).state passed role hostname fault :=
  setHostOf_reaches_or_stops host hostname link.topology.roles_nodup link os

/-- A link with a datagram client that is up for sending, and a client for receiving that is
configured for the same host. -/
def halfUp : Link :=
  ((new .instrumentBotpt).withEndpoint .dataTx
      (.udpClient { settings := ⟨"127.0.0.1", 4001⟩, socket := some ⟨0⟩ })).withEndpoint .dataRx
    (.tcpClient { settings := ⟨"127.0.0.1", 4002⟩ })

/-- A change of the host can split a link: the client for sending cannot be opened for an address
that is not IPv4, and the one for receiving keeps the old host. -/
theorem setHost_splits_hosts :
    ¬ ∀ (link : Link) (hostname : String) (world : Loopback.World),
      ∀ role ∈ link.topology.roles,
        (link.setHost Loopback.World.host hostname world).state.PointsTo role hostname := by
  intro reaches
  have receiving := reaches halfUp "::1" { nextHandle := 1 } .dataRx (by decide)
  have kept :
      (halfUp.setHost Loopback.World.host "::1" { nextHandle := 1 }).state.endpoint? .dataRx =
      some (.tcpClient { settings := ⟨"127.0.0.1", 4002⟩ }) := by decide +kernel
  have same : "127.0.0.1" = "::1" := receiving _ kept "127.0.0.1" rfl
  exact absurd same (by decide)

end Link

end InstrumentLink
