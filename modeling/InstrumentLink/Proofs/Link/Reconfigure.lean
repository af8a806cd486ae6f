import InstrumentLink.Loopback.Host
import InstrumentLink.Proofs.Endpoint.Reopening
import InstrumentLink.Proofs.Link.HostChange
import InstrumentLink.Proofs.Link.Tuning

/-!
# Changing one role of a link

A change of the endpoint of one role calls any of its setters and settles the result. It touches no
other role: neither an endpoint nor anything that is open for it, also when it fails. A role that
the topology does not have is refused before anything happens.
-/

namespace InstrumentLink

variable {σ : Type}

namespace Link

/-- The link has an endpoint for each role of its topology, and for no other. -/
def HasRoles (link : Link) : Prop :=
  ∀ role, (link.endpoint? role).isSome = link.topology.hasRole role

theorem HasKinds.hasRoles {link : Link} (kinds : link.HasKinds) : link.HasRoles :=
  kinds.isSome_endpoint?

theorem HasRoles.withEndpoint {link : Link} (roles : link.HasRoles) {role : Role}
    (present : (link.endpoint? role).isSome) (after : Endpoint) :
    (link.withEndpoint role after).HasRoles := by
  intro other
  by_cases same : other = role
  · rw [same, endpoint?_withEndpoint_self, topology_withEndpoint, ← roles role, present]
    rfl
  · rw [link.endpoint?_withEndpoint_of_ne after same]
    exact roles other

/-- Calls setters on the endpoint of a role, which may depend on the endpoint, and settles the
change. -/
def reconfigureBy (host : Host σ) (link : Link) (role : Role) (change : Endpoint → List Setting)
    (os : σ) : Outcome σ Link Bool :=
  (link.reconfigureWith host role
    (fun endpoint os => ((), applySettings host (change endpoint) endpoint os)) os).2

/-- What a change of one role comes to. -/
structure ReconfiguresRole (host : Host σ) (link : Link) (role : Role)
    (change : Endpoint → List Setting) (watched : Watched σ)
    (outcome : Outcome (Watched σ) Link Bool) : Prop where
  /-- A role that there is not is refused, and nothing happens. -/
  lacking : link.topology.hasRole role = false →
    outcome = ⟨.error (.missingRole link.topology role), link, watched⟩
  settles : link.topology.hasRole role = true → ∃ before after,
    link.endpoint? role = some before ∧ outcome.state.endpoint? role = some after ∧
      before.Settles (applySettings host.watched (change before) before watched).1 watched
        ⟨outcome.answer, after, outcome.host⟩
  topology_eq : outcome.state.topology = link.topology
  others : ∀ other, other ≠ role → outcome.state.endpoint? other = link.endpoint? other
  others_open : ∀ h, watched.IsOpen h →
    (∀ before, link.endpoint? role = some before → h ∉ before.handles) → outcome.host.IsOpen h

variable (host : Host σ) {link : Link} {role : Role} (change : Endpoint → List Setting)

private theorem reconfigureBy_of_none (missing : link.endpoint? role = none) (os : σ) :
    link.reconfigureBy host role change os =
      ⟨.error (.missingRole link.topology role), link, os⟩ := by
  rw [reconfigureBy, reconfigureWith_of_none host missing]

private theorem reconfigureBy_of_some {before : Endpoint}
    (found : link.endpoint? role = some before) (os : σ) :
    link.reconfigureBy host role change os =
      let changed := applySettings host (change before) before os
      (before.reopenIfChanged host changed.1 changed.2).inState (link.withEndpoint role) := by
  rw [reconfigureBy, reconfigureWith_of_some host found]

theorem reconfiguresRole_of_none (roles : link.HasRoles) (missing : link.endpoint? role = none)
    (watched : Watched σ) :
    ReconfiguresRole host link role change watched
      (link.reconfigureBy host.watched role change watched) := by
  have lacking : link.topology.hasRole role = false := by
    rw [← roles role, missing]
    rfl
  rw [reconfigureBy_of_none host.watched change missing]
  exact {
    lacking := fun _ => rfl
    settles := fun has => absurd (has.symm.trans lacking) Bool.noConfusion
    topology_eq := rfl
    others := fun _ _ => rfl
    others_open := fun _ opened _ => opened }

theorem reconfiguresRole_of_some (roles : link.HasRoles) {before : Endpoint}
    (found : link.endpoint? role = some before) (watched : Watched σ) :
    ReconfiguresRole host link role change watched
      (link.reconfigureBy host.watched role change watched) := by
  have has : link.topology.hasRole role = true := by
    rw [← roles role, found]
    rfl
  have retuned := Endpoint.retuned_applySettings host.watched (change before) before watched
  have record := sameRecord_applySettings host (change before) before watched
  rw [reconfigureBy_of_some host.watched change found]
  dsimp only
  have settles := (before.reopenIfChanged_settles host retuned.handles_eq
    (applySettings host.watched (change before) before watched).2).of_sameRecord record
  exact {
    lacking := fun lacks => absurd (has.symm.trans lacks) Bool.noConfusion
    settles := fun _ =>
      ⟨before, _, found, link.endpoint?_withEndpoint_self role _, settles⟩
    topology_eq := rfl
    others := fun _ apart => link.endpoint?_withEndpoint_of_ne _ apart
    others_open := fun h opened other => settles.others_open h opened (other before found) }

/-- A change of one role is refused for a role that there is not. Otherwise it is settled, and the
other roles do not notice. -/
theorem reconfigureBy_reconfiguresRole (link : Link) (roles : link.HasRoles) (role : Role)
    (watched : Watched σ) :
    ReconfiguresRole host link role change watched
      (link.reconfigureBy host.watched role change watched) := by
  cases found : link.endpoint? role with
  | none => exact reconfiguresRole_of_none host change roles found watched
  | some before => exact reconfiguresRole_of_some host change roles found watched

/-- A link with a datagram client that is up. -/
def sending : Link :=
  (new .instrumentBotpt).withEndpoint .dataTx
    (.udpClient { settings := ⟨"127.0.0.1", 4001⟩, socket := some ⟨0⟩ })

/-- The port of a client that is up is changed and changed back, and then changed for good. -/
theorem reconfigureBy_reconfiguresRole_sending :
    let change : Endpoint → List Setting := fun _ => [.port 4002, .port 4001, .port 4003]
    let watched : Watched Loopback.World := { ledger := { os := { nextHandle := 1 } } }
    let outcome := sending.reconfigureBy Loopback.World.host.watched .dataTx change watched
    sending.HasRoles ∧ outcome.answer = .ok true ∧
      ReconfiguresRole Loopback.World.host sending .dataTx change watched outcome := by
  intro change watched outcome
  have roles : sending.HasRoles := (hasKinds_new .instrumentBotpt).hasRoles.withEndpoint rfl _
  refine ⟨roles, by decide +kernel, ?_⟩
  exact reconfigureBy_reconfiguresRole Loopback.World.host change sending roles .dataTx watched

end Link

end InstrumentLink
