import InstrumentLink.Proofs.Endpoint.BringUp
import InstrumentLink.Proofs.Link.HostChange
import InstrumentLink.Proofs.Program.Ownership

namespace InstrumentLink

variable {σ : Type}

def Setting.Spares (port : Option UInt16) : Setting → Prop
  | .port number => some number = port
  | .noPort => port = none
  | _ => True

namespace Endpoint

/-- A listener has a port in its configuration, and a socket. -/
def Listens (endpoint : Endpoint) (port : Option UInt16) (h : Handle) : Prop :=
  ∃ l, endpoint = .listener l ∧ l.port = port ∧ l.socket = some h

/-- An action leaves a listener its socket and its port. -/
def Action.Spares (port : Option UInt16) : Action → Prop
  | .operate (.set setting) => setting.Spares port
  | .operate .bringUp | .operate .disconnect | .replace _ _ => False
  | .operate _ => True

def Action.GivesUp (endpoint : Endpoint) : Action → Prop
  | .operate .bringUp => endpoint.isComplete = true
  | .operate .disconnect | .replace _ _ => True
  | .operate _ => False

/-- One of several actions gives the socket up when its turn comes. -/
def GivesUpIn (host : Host σ) : List Action → Endpoint → σ → Prop
  | [], _, _ => False
  | action :: rest, endpoint, os =>
      action.GivesUp endpoint ∨
        GivesUpIn host rest (action.run host endpoint os).1 (action.run host endpoint os).2

variable {endpoint : Endpoint} {port : Option UInt16} {h : Handle}

private theorem Listens.isUp (listens : endpoint.Listens port h) : endpoint.isUp = true := by
  obtain ⟨l, rfl, -, listening⟩ := listens
  exact Option.isSome_iff_exists.mpr ⟨h, listening⟩

theorem Listens.mem_handles (listens : endpoint.Listens port h) : h ∈ endpoint.handles := by
  obtain ⟨l, rfl, -, listening⟩ := listens
  simp [handles, listening]

private theorem Listens.cut (listens : endpoint.Listens port h) : endpoint.cut.Listens port h := by
  obtain ⟨l, rfl, port_eq, listening⟩ := listens
  exact ⟨_, rfl, port_eq, listening⟩

theorem Listens.identity_eq (listens : endpoint.Listens port h) :
    endpoint.identity = .listener port := by
  obtain ⟨l, rfl, port_eq, -⟩ := listens
  exact congrArg Identity.listener port_eq

private theorem Listens.retuned (listens : endpoint.Listens port h) {after : Endpoint}
    (retuned : endpoint.Retuned after) (same : after.identity = endpoint.identity) :
    after.Listens port h := by
  obtain ⟨l, rfl, rfl, listening⟩ := listens
  cases retuned with
  | listener _ port blocking => exact ⟨_, rfl, Identity.listener.inj same, listening⟩

private theorem Listens.apply (listens : endpoint.Listens port h) (host : Host σ)
    (setting : Setting) (os : σ) :
    ∃ port', (setting.apply host endpoint os).1.Listens port' h ∧
      (setting.Spares port → port' = port) := by
  obtain ⟨l, rfl, rfl, listening⟩ := listens
  cases setting with
  | port number => exact ⟨some number, ⟨_, rfl, rfl, listening⟩, id⟩
  | noPort => exact ⟨none, ⟨_, rfl, rfl, listening⟩, Eq.symm⟩
  | _ => exact ⟨l.port, ⟨_, rfl, rfl, listening⟩, fun _ => rfl⟩

private theorem Listens.applySettings (listens : endpoint.Listens port h) (host : Host σ)
    (settings : List Setting) (os : σ) :
    ∃ port', (applySettings host settings endpoint os).1.Listens port' h ∧
      ((∀ setting ∈ settings, setting.Spares port) → port' = port) := by
  induction settings generalizing endpoint port os with
  | nil => exact ⟨port, listens, fun _ => rfl⟩
  | cons setting rest ih =>
    obtain ⟨between, first, same⟩ := listens.apply host setting os
    obtain ⟨last, later, same_later⟩ := ih first (setting.apply host endpoint os).2
    refine ⟨last, later, fun spare => ?_⟩
    have kept := same (spare setting List.mem_cons_self)
    rw [kept] at same_later
    exact same_later fun other mem => spare other (List.mem_cons_of_mem _ mem)

private theorem Listens.accept {l : Listener} (listens : (listener l).Listens port h)
    (host : Host σ) (os : σ) : (listener (l.accept host os).state).Listens port h := by
  have led := l.accepted host os
  generalize l.accept host os = outcome at led
  cases led with
  | accepted listening free client after =>
    obtain ⟨_, same, port_eq, socket⟩ := listens
    cases same
    exact ⟨_, rfl, port_eq, socket⟩
  | _ => exact listens

private theorem Listens.operate (listens : endpoint.Listens port h) (host : Host σ)
    {operation : Operation} (os : σ) (kept : ¬ (Action.operate operation).GivesUp endpoint) :
    ∃ port', (operation.run host endpoint os).state.Listens port' h ∧
      ((Action.operate operation).Spares port → port' = port) := by
  cases operation with
  | set setting => exact listens.apply host setting os
  | bringUp =>
    -- without a port the call is refused before the socket is given up
    have lacks := (lacks_iff endpoint).mpr (Bool.not_eq_true _ ▸ kept)
    have refused := (endpoint.broughtUp host os).untouched lacks
    refine ⟨port, ?_, fun _ => rfl⟩
    rw [Operation.run, Outcome.state_withAnswer, refused.1]
    exact listens
  | attach =>
    refine ⟨port, ?_, fun _ => rfl⟩
    obtain ⟨l, rfl, -, -⟩ := id listens
    exact listens.accept host os
  | disconnect => exact absurd trivial kept
  | dropClient =>
    obtain ⟨l, rfl, port_eq, listening⟩ := listens
    exact ⟨port, ⟨_, rfl, port_eq, listening⟩, fun _ => rfl⟩
  | write bytes =>
    have kept := endpoint.state_write_of (P := (·.Listens port h)) host bytes os listens listens.cut
    exact ⟨port, kept, fun _ => rfl⟩
  | read room =>
    have kept := endpoint.state_read_of (P := (·.Listens port h)) host room os listens listens.cut
    exact ⟨port, kept, fun _ => rfl⟩
  | sendBreak milliseconds =>
    obtain ⟨l, rfl, port_eq, listening⟩ := listens
    exact ⟨port, ⟨_, rfl, port_eq, listening⟩, fun _ => rfl⟩

theorem Listens.act (listens : endpoint.Listens port h) (host : Host σ) {action : Action} (os : σ)
    (kept : ¬ action.GivesUp endpoint) :
    ∃ port', (action.run host endpoint os).1.Listens port' h ∧
      (action.Spares port → port' = port) := by
  cases action with
  | operate operation => exact listens.operate host os kept
  | replace identity blocking => exact absurd trivial kept

theorem Action.Spares.not_givesUp {action : Action} (spares : action.Spares port)
    (endpoint : Endpoint) : ¬ action.GivesUp endpoint := by
  cases action with
  | operate operation =>
    cases operation with
    | bringUp => exact spares.elim
    | disconnect => exact spares.elim
    | _ => exact id
  | replace identity blocking => exact spares.elim

theorem Listens.actAll (listens : endpoint.Listens port h) (host : Host σ) (actions : List Action)
    (os : σ) (kept : ¬ endpoint.GivesUpIn host actions os) :
    ∃ port', (endpoint.actAll host actions os).1.Listens port' h ∧
      ((∀ action ∈ actions, action.Spares port) → port' = port) := by
  induction actions generalizing endpoint port os with
  | nil => exact ⟨port, listens, fun _ => rfl⟩
  | cons action rest ih =>
    obtain ⟨kept_first, kept_later⟩ := not_or.mp kept
    obtain ⟨between, first, same⟩ := listens.act host os kept_first
    obtain ⟨last, later, same_later⟩ := ih first _ kept_later
    refine ⟨last, later, fun spare => ?_⟩
    have kept := same (spare action List.mem_cons_self)
    rw [kept] at same_later
    exact same_later fun other mem => spare other (List.mem_cons_of_mem _ mem)

theorem not_givesUpIn_of_spares {actions : List Action}
    (spares : ∀ action ∈ actions, action.Spares port) (host : Host σ) (endpoint : Endpoint)
    (os : σ) : ¬ endpoint.GivesUpIn host actions os := by
  induction actions generalizing endpoint os with
  | nil => exact id
  | cons action rest ih =>
    rintro (first | later)
    · exact (spares action List.mem_cons_self).not_givesUp endpoint first
    · exact ih (fun other mem => spares other (List.mem_cons_of_mem _ mem)) _ _ later

private def KeepsListening (endpoint : Endpoint) (_ : σ) (after : Endpoint) (_ : σ) : Prop :=
  ∀ port h, endpoint.Listens port h → after.Listens port h

private theorem keepsListening_act (action : Action) (spares : ∀ port, action.Spares port)
    (host : Host σ) (endpoint : Endpoint) (os : σ) :
    endpoint.KeepsListening os (action.run host endpoint os).1 (action.run host endpoint os).2 := by
  intro port h listens
  obtain ⟨port', kept, same⟩ := listens.act host os ((spares port).not_givesUp endpoint)
  rw [same (spares port)] at kept
  exact kept

private theorem keepsListening_settled (change : Endpoint → Endpoint)
    (other : ∀ l, change (.listener l) = .listener l) (host : Host σ) (endpoint : Endpoint)
    (os : σ) :
    endpoint.KeepsListening os (endpoint.reopenIfChanged host (change endpoint) os).state
      (endpoint.reopenIfChanged host (change endpoint) os).host := by
  rintro port h ⟨l, rfl, port_eq, listening⟩
  rw [other l, reopenIfChanged_of_not_reopens fun reopens => reopens.2 rfl]
  exact ⟨l, rfl, port_eq, listening⟩

end Endpoint

namespace Link

/-- An operation leaves the listener of a role its socket and its port. On the command role port 0
stands for no port. -/
def Operation.Spares (role : Role) (port : Option UInt16) : Operation → Prop
  | .disconnect => False
  | .setPort other number =>
      other = role → some number = port ∧ (role = .command → number ≠ 0)
  | .reconfigure other change =>
      other = role → ∀ endpoint, ∀ setting ∈ change endpoint, setting.Spares port
  | _ => True

def Operation.GivesUp (host : Host σ) (role : Role) (endpoint : Endpoint) (os : σ) :
    Operation → Prop
  | .disconnect => True
  | .setPort other number =>
      other = role ∧ (endpoint.setPort role number).identity ≠ endpoint.identity
  | .reconfigure other change =>
      other = role ∧
        (applySettings host (change endpoint) endpoint os).1.identity ≠ endpoint.identity
  | _ => False

variable {link : Link} {role : Role} {endpoint : Endpoint} {port : Option UInt16} {h : Handle}

theorem endpoint?_reconfigureWith_of_identity_eq {ρ : Type} {host : Host σ}
    {change : Endpoint → σ → ρ × Endpoint × σ} {os : σ}
    (found : link.endpoint? role = some endpoint)
    (same : (change endpoint os).2.1.identity = endpoint.identity) :
    (link.reconfigureWith host role change os).2.state.endpoint? role =
      some (change endpoint os).2.1 := by
  rw [reconfigureWith_of_some host found]
  dsimp only
  rw [Endpoint.reopenIfChanged_of_not_reopens fun reopens => reopens.2 same]
  exact endpoint?_withEndpoint_self _ _ _

private theorem exists_listens_of_acts {link' : Link} {os os' : σ}
    (acts : Acts Endpoint.KeepsListening link os link' os')
    (found : link.endpoint? role = some endpoint) (listens : endpoint.Listens port h) :
    ∃ endpoint', link'.endpoint? role = some endpoint' ∧ endpoint'.Listens port h :=
  acts.exists_endpoint (fun keeps listens => keeps port h listens) ⟨endpoint, found, listens⟩

private theorem acts_bringUp_keepsListening (host : Host σ) (link : Link) (os : σ) :
    Acts Endpoint.KeepsListening link os (link.bringUp host os).state
      (link.bringUp host os).host := by
  refine acts_bringUpRoles (fun endpoint os pending port h listens => ?_)
    link.topology.roles link os
  -- an endpoint that listens is up, and a call leaves those alone
  simp [Endpoint.isPending, listens.isUp] at pending

theorem exists_listens_of_run (host : Host σ) {operation : Operation} {os : σ}
    (found : link.endpoint? role = some endpoint) (listens : endpoint.Listens port h)
    (kept : ¬ operation.GivesUp host role endpoint os) :
    ∃ endpoint', (operation.run host link os).1.endpoint? role = some endpoint' ∧
      endpoint'.Listens port h := by
  cases operation with
  | disconnect => exact absurd trivial kept
  | bringUp =>
    exact exists_listens_of_acts (link.acts_bringUp_keepsListening host os) found listens
  | setHost hostname =>
    have keeps := Endpoint.keepsListening_settled (·.setHostname hostname)
      (fun _ => rfl) host
    exact exists_listens_of_acts (acts_setHostOf keeps link.topology.roles link os) found listens
  | setPort other number =>
    by_cases apart : role = other
    · rw [← apart] at kept
      have same : (endpoint.setPort role number).identity = endpoint.identity := by
        by_contra changed
        exact kept ⟨rfl, changed⟩
      rw [← apart]
      exact ⟨_, endpoint?_reconfigureWith_of_identity_eq found same,
        listens.retuned (endpoint.retuned_setPort role number) same⟩
    · exact ⟨endpoint, (endpoint?_reconfigure_of_ne apart).trans found, listens⟩
  | setDevicePath devicePath =>
    have keeps := Endpoint.keepsListening_settled (·.setDevicePath devicePath)
      (fun _ => rfl) host
    exact exists_listens_of_acts (acts_setDevicePath (fun endpoint => keeps endpoint os) link) found
      listens
  | setBlocking blocking =>
    have keeps := Endpoint.keepsListening_act (.operate (.set (.blocking blocking)))
      (fun _ => trivial) host
    exact exists_listens_of_acts (acts_forEach keeps Role.all link os) found listens
  | write other bytes =>
    have keeps := Endpoint.keepsListening_act (.operate (.write bytes)) (fun _ => trivial) host
    simp only [Operation.run, write]
    split
    · exact ⟨endpoint, found, listens⟩
    · next e found' => exact exists_listens_of_acts (Acts.single found' (keeps e os)) found listens
  | read other room =>
    have keeps := Endpoint.keepsListening_act (.operate (.read room)) (fun _ => trivial) host
    simp only [Operation.run, read]
    split
    · exact ⟨endpoint, found, listens⟩
    · next e found' => exact exists_listens_of_acts (Acts.single found' (keeps e os)) found listens
  | sendBreak milliseconds => exact ⟨endpoint, found, listens⟩
  | reconfigure other change =>
    by_cases apart : role = other
    · rw [← apart] at kept
      have same : (applySettings host (change endpoint) endpoint os).1.identity =
          endpoint.identity := by
        by_contra changed
        exact kept ⟨rfl, changed⟩
      rw [← apart]
      exact ⟨_, endpoint?_reconfigureWith_of_identity_eq found same,
        listens.retuned (Endpoint.retuned_applySettings host (change endpoint) endpoint os) same⟩
    · exact ⟨endpoint, (endpoint?_reconfigureWith_of_ne apart).trans found, listens⟩
  | accept other =>
    have keeps := Endpoint.keepsListening_act (.operate .attach) (fun _ => trivial) host
    simp only [Operation.run]
    split
    · next l found' =>
      exact exists_listens_of_acts (Acts.single found' (keeps (.listener l) os)) found listens
    · exact ⟨endpoint, found, listens⟩
  | dropClient other =>
    have keeps := Endpoint.keepsListening_act (.operate .dropClient) (fun _ => trivial) host
    simp only [Operation.run]
    split
    · next l found' =>
      exact exists_listens_of_acts (Acts.single found' (keeps (.listener l) os)) found listens
    · exact ⟨endpoint, found, listens⟩

theorem Operation.Spares.not_givesUp {operation : Operation} (spares : operation.Spares role port)
    (listens : endpoint.Listens port h) (host : Host σ) (os : σ) :
    ¬ operation.GivesUp host role endpoint os := by
  cases operation with
  | disconnect => exact spares.elim
  | setPort other number =>
    rintro ⟨same, changed⟩
    obtain ⟨number_eq, nonzero⟩ := spares same
    obtain ⟨l, rfl, rfl, -⟩ := listens
    have open_port : ¬ (number = 0 ∧ role = .command) := fun closes => nonzero closes.2 closes.1
    rw [Endpoint.setPort, if_neg open_port] at changed
    exact changed (congrArg Identity.listener number_eq)
  | reconfigure other change =>
    rintro ⟨same, changed⟩
    obtain ⟨port', listens', port_eq⟩ := listens.applySettings host (change endpoint) os
    rw [port_eq (spares same endpoint)] at listens'
    exact changed (listens'.identity_eq.trans listens.identity_eq.symm)
  | _ => exact id

end Link

end InstrumentLink
