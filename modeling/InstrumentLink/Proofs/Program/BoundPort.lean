import InstrumentLink.Proofs.Host.Standing
import InstrumentLink.Proofs.Loopback.Ports
import InstrumentLink.Proofs.Program.Listening

/-!
# The port of a listener

A listener keeps the socket that it listens on through everything that its clients do, and through
every call that sets the link up again without a change for this listener. So it stays on its port,
also on one that the host has chosen. There are few ways to give the socket up, and each of them is
asked for: to disconnect, to bring the endpoint itself up again, to change its port, or to put
another one in its place.
-/

namespace InstrumentLink

variable {σ : Type}

namespace Owner

def Change.Spares (role : Role) (port : Option UInt16) : Change → Prop
  | .replace _ => False
  | .act _ => True
  | .actOn other action => other = role → action.Spares port
  | .operate operation => operation.Spares role port
  | .reconfigure other actions => other = role → ∀ action ∈ actions, action.Spares port

/-- A change gives up the socket of a role's listener, which is this endpoint. -/
def Change.GivesUp (host : Host σ) (role : Role) (endpoint : Endpoint) (os : σ) : Change → Prop
  | .replace design => (design.make host os).1.isSome
  | .act _ => False
  | .actOn other action => other = role ∧ action.GivesUp endpoint
  | .operate operation => operation.GivesUp host role endpoint os
  | .reconfigure other actions =>
      other = role ∧ (endpoint.GivesUpIn host actions os ∨
        (endpoint.actAll host actions os).1.identity ≠ endpoint.identity)

def Listens (owner : Owner) (role : Role) (port : Option UInt16) (h : Handle) : Prop :=
  ∃ endpoint, owner.endpoint? (some role) = some endpoint ∧ endpoint.Listens port h

/-- The port that the listener of a role is bound to; 0 if there is no listener. -/
def boundPort (host : Host σ) (owner : Owner) (role : Role) (os : σ) : UInt16 :=
  match owner.endpoint? (some role) with
  | some (.listener l) => l.boundPort host os
  | _ => 0

variable {owner : Owner} {role : Role} {endpoint : Endpoint} {port : Option UInt16} {h : Handle}

private theorem Listens.mem_handles (listens : owner.Listens role port h) : h ∈ owner.handles := by
  obtain ⟨endpoint, found, listens⟩ := listens
  cases owner with
  | endpoint e => cases found
  | link link =>
    have member : endpoint ∈ link.members := Link.mem_members_iff.mpr ⟨role, found⟩
    exact List.mem_flatMap.mpr ⟨endpoint, member, listens.mem_handles⟩

private theorem exists_listens_of_change (host : Host σ) {change : Change} {os : σ}
    (found : owner.endpoint? (some role) = some endpoint) (listens : endpoint.Listens port h)
    (kept : ¬ change.GivesUp host role endpoint os) :
    ∃ port', (change.run host owner os).1.Listens role port' h ∧
      (change.Spares role port → port' = port) := by
  have same : owner.Listens role port h := ⟨endpoint, found, listens⟩
  cases owner with
  | endpoint e => cases found
  | link link =>
    cases change with
    | replace design =>
      refine ⟨port, ?_, fun _ => rfl⟩
      cases made : design.make host os with
      | mk new? os' =>
        cases new? with
        | none =>
          simp only [Change.run, made]
          exact same
        | some new => simp [Change.GivesUp, made] at kept
    | act action => exact ⟨port, same, fun _ => rfl⟩
    | actOn other action =>
      cases present : link.endpoint? other with
      | none =>
        simp only [Change.run, present]
        exact ⟨port, same, fun _ => rfl⟩
      | some e =>
        simp only [Change.run, present]
        by_cases apart : role = other
        · subst apart
          rw [show link.endpoint? role = some endpoint from found, Option.some.injEq] at present
          subst present
          obtain ⟨port', acted, port_eq⟩ := listens.act host os fun gives => kept ⟨rfl, gives⟩
          exact ⟨port', ⟨_, link.endpoint?_withEndpoint_self role _, acted⟩,
            fun spares => port_eq (spares rfl)⟩
        · have untouched := link.endpoint?_withEndpoint_of_ne (action.run host e os).1 apart
          exact ⟨port, ⟨endpoint, untouched.trans found, listens⟩, fun _ => rfl⟩
    | operate operation =>
      exact ⟨port, Link.exists_listens_of_run host found listens kept, fun _ => rfl⟩
    | reconfigure other actions =>
      by_cases apart : role = other
      · subst apart
        obtain ⟨none_gives, identity_eq⟩ := not_or.mp fun gives => kept ⟨rfl, gives⟩
        rw [not_not] at identity_eq
        obtain ⟨port', acted, port_eq⟩ := listens.actAll host actions os none_gives
        exact ⟨port', ⟨_, Link.endpoint?_reconfigureWith_of_identity_eq found identity_eq, acted⟩,
          fun spares => port_eq (spares rfl)⟩
      · exact ⟨port, ⟨endpoint, (Link.endpoint?_reconfigureWith_of_ne apart).trans found, listens⟩,
          fun _ => rfl⟩

private theorem Change.Spares.not_givesUp {change : Change} (spares : change.Spares role port)
    (listens : endpoint.Listens port h) (host : Host σ) (os : σ) :
    ¬ change.GivesUp host role endpoint os := by
  cases change with
  | replace design => exact spares.elim
  | act action => exact id
  | actOn other action =>
    rintro ⟨same, gives⟩
    exact (spares same).not_givesUp endpoint gives
  | operate operation => exact Link.Operation.Spares.not_givesUp spares listens host os
  | reconfigure other actions =>
    rintro ⟨same, gives⟩
    have none_gives := Endpoint.not_givesUpIn_of_spares (spares same) host endpoint os
    obtain ⟨port', acted, port_eq⟩ := listens.actAll host actions os none_gives
    rw [port_eq (spares same)] at acted
    rcases gives with first | changed
    · exact none_gives first
    · exact changed (acted.identity_eq.trans listens.identity_eq.symm)

theorem Listens.changeAll (listens : owner.Listens role port h) (host : Host σ)
    {changes : List Change} (spares : ∀ change ∈ changes, change.Spares role port) (os : σ) :
    (changeAll host changes owner os).1.Listens role port h := by
  induction changes generalizing owner os with
  | nil => exact listens
  | cons change rest ih =>
    obtain ⟨endpoint, found, listening⟩ := listens
    have spared := spares change List.mem_cons_self
    obtain ⟨port', kept, same⟩ :=
      exists_listens_of_change host found listening (spared.not_givesUp listening host os)
    rw [same spared] at kept
    exact ih kept (fun other mem => spares other (List.mem_cons_of_mem _ mem)) _

theorem exists_givesUp (host : Host σ) {changes : List Change} {os : σ}
    (listens : owner.Listens role port h)
    (lost : ∀ port', ¬ (changeAll host changes owner os).1.Listens role port' h) :
    ∃ before change later, changes = before ++ change :: later ∧
      let turn := changeAll host before owner os
      ∃ endpoint, turn.1.endpoint? (some role) = some endpoint ∧
        (∃ port', endpoint.Listens port' h) ∧ change.GivesUp host role endpoint turn.2 := by
  induction changes generalizing owner port os with
  | nil => exact absurd listens (lost port)
  | cons change rest ih =>
    obtain ⟨endpoint, found, listening⟩ := listens
    by_cases gives : change.GivesUp host role endpoint os
    · exact ⟨[], change, rest, rfl, endpoint, found, ⟨port, listening⟩, gives⟩
    · obtain ⟨port', kept, -⟩ := exists_listens_of_change host found listening gives
      obtain ⟨before, change', later, split, turn⟩ := ih kept lost
      exact ⟨change :: before, change', later, by rw [split, List.cons_append], turn⟩

end Owner

namespace Owner

/-- How long the listener of a role keeps its socket and its port. Besides its handles, those
elsewhere are open. -/
structure Stays (host : Host σ) (owner : Owner) (role : Role) (l : Listener) (h : Handle)
    (watched : Watched σ) (elsewhere : List Handle) : Prop where
  /-- Changes that spare the listener leave it its socket, which stays open. -/
  socket : ∀ changes, (∀ change ∈ changes, Change.Spares role l.port change) →
    let after := owner.changeAll host.watched changes watched
    after.1.Listens role l.port h ∧ after.2.IsOpen h
  /-- So it stays on its port on every host whose sockets keep their ports. -/
  boundPort_eq : ∀ below : Custody σ, host.PortsStand below →
    below.Holds watched.ledger.os ((owner.handles ++ elsewhere).map watched.ledger.actual) →
    ∀ changes, (∀ change ∈ changes, Change.Spares role l.port change) →
      let after := owner.changeAll host.watched changes watched
      after.1.boundPort host.watched role after.2 = l.boundPort host.watched watched
  given_up : ∀ changes,
    (∀ port, ¬ (owner.changeAll host.watched changes watched).1.Listens role port h) →
      ∃ before change later, changes = before ++ change :: later ∧
        let turn := owner.changeAll host.watched before watched
        ∃ endpoint, turn.1.endpoint? (some role) = some endpoint ∧
          (∃ port, endpoint.Listens port h) ∧ change.GivesUp host.watched role endpoint turn.2

/-- A listener of a link that has a socket keeps it, and its port, until a change gives it up. -/
theorem stays (host : Host σ) {link : Link} {role : Role} {l : Listener} {h : Handle}
    {watched : Watched σ} {elsewhere : List Handle}
    (found : link.endpoint? role = some (.listener l)) (listening : l.socket = some h)
    (accounted : Watched.custody.Holds watched (link.handles ++ elsewhere)) :
    Stays host (.link link) role l h watched elsewhere := by
  have listens : Owner.Listens (.link link) role l.port h :=
    ⟨.listener l, found, l, rfl, rfl, listening⟩
  have is_open : ∀ changes,
      (changeAll host.watched changes (.link link) watched).1.Listens role l.port h →
        (changeAll host.watched changes (.link link) watched).2.IsOpen h := by
    intro changes kept
    have accounts :=
      host.respects_watched.changeAll changes (.link link) watched elsewhere accounted
    exact (Watched.isOpen_iff accounts).mpr (List.mem_append_left _ kept.mem_handles)
  exact {
    socket := fun changes spares =>
      have kept := listens.changeAll host.watched spares watched
      ⟨kept, is_open changes kept⟩
    boundPort_eq := by
      intro below stands own changes spares
      have kept := listens.changeAll host.watched spares watched
      have known := (is_open [] listens).1
      obtain ⟨-, -, -, bound⟩ :=
        (stands.respects_bound h (host.watched.localPort h watched)).changeAll changes (.link link)
          watched elsewhere ⟨accounted, own, known, fun _ => rfl⟩
      have same := bound (List.mem_append_left _ kept.mem_handles)
      obtain ⟨-, present, after, rfl, -, socket⟩ := kept
      simp only [boundPort, present, Listener.boundPort, socket, listening, same]
    given_up := fun changes lost => exists_givesUp host.watched listens lost }

/-- A data listener on a port that the host chose. A client connects, is accepted and read from, and
is given up again, while the link is set up once more and the port is set to what it is. -/
theorem stays_on_chosen_port :
    let host := Loopback.World.host
    let start : Watched Loopback.World := { ledger := { os := {} } }
    let up := changeAll host.watched [.operate .bringUp] (.link (.new .observatoryStandard)) start
    let client := host.watched.connect ⟨Loopback.World.loopback, 49152⟩ up.2
    let serve : List Change :=
      [.operate .bringUp, .operate (.accept .data), .operate (.setHost "b"),
        .actOn .data (.operate (.read 16))]
    let leave : List Change :=
      [.operate (.dropClient .data), .operate (.setPort .data 0), .operate (.setBlocking true)]
    let served := up.1.changeAll host.watched serve client.2
    let after := up.1.changeAll host.watched (serve ++ leave) client.2
    client.1 = .ok ⟨1⟩ ∧ served.1.handles = [⟨0⟩, ⟨2⟩] ∧ after.1.handles = [⟨0⟩] ∧
      after.1.Listens .data (some 0) ⟨0⟩ ∧ after.2.IsOpen ⟨0⟩ ∧
      after.1.boundPort host.watched .data after.2 = 49152 := by
  intro host start up client serve leave served after
  have found : ((Link.new .observatoryStandard).withEndpoint .data
      (.listener { port := some 0, socket := some ⟨0⟩ })).endpoint? .data =
        some (.listener { port := some 0, socket := some ⟨0⟩ }) := rfl
  have accounted : Watched.custody.Holds client.2 (((Link.new .observatoryStandard).withEndpoint
      .data (.listener { port := some 0, socket := some ⟨0⟩ })).handles ++ [⟨1⟩]) :=
    List.Perm.refl _
  have standing := stays host found rfl accounted
  have spares : ∀ change ∈ serve ++ leave, Change.Spares .data (some 0) change := by
    simp [serve, leave, Change.Spares, Link.Operation.Spares, Endpoint.Action.Spares]
  obtain ⟨listens, is_open⟩ := standing.socket (serve ++ leave) spares
  have own : Loopback.World.custody.Holds client.2.ledger.os [⟨0⟩, ⟨1⟩] := by
    constructor <;> decide
  have same := standing.boundPort_eq Loopback.World.custody Loopback.World.portsStand own
    (serve ++ leave) spares
  exact ⟨rfl, by decide +kernel, by decide +kernel, listens, is_open, same⟩

end Owner

end InstrumentLink
