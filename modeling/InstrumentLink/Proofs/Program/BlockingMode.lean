import InstrumentLink.Proofs.LinkConfig.Build
import InstrumentLink.Proofs.Program.HandleMode

/-!
# Blocking modes of open handles

In every state that a program reaches, each handle of an endpoint is in the mode that the endpoint's
flag says. The invariant is about all endpoints of the program together: no two of them share a
handle, so that none changes the mode of another one's. Whatever a step does to some endpoints, it
keeps the invariant for these and for all the others.
-/

namespace InstrumentLink

variable {σ : Type}

/-- Endpoints that share no handle, and have each of their handles in the mode of their flag. -/
structure InModes (endpoints : List Endpoint) (attuned : Attuned σ) : Prop where
  held : Attuned.custody.Holds attuned (endpoints.flatMap Endpoint.handles)
  mode : ∀ endpoint ∈ endpoints, endpoint.InMode attuned

/-- Some endpoints give way to others, whatever other endpoints there are. -/
def TurnsModes (given taken : List Endpoint) (before after : Attuned σ) : Prop :=
  ∀ others, InModes (given ++ others) before → InModes (taken ++ others) after

section Turns

variable {given taken : List Endpoint} {before after : Attuned σ}

theorem InModes.perm {endpoints endpoints' : List Endpoint} {attuned : Attuned σ}
    (same : endpoints.Perm endpoints') (in_modes : InModes endpoints attuned) :
    InModes endpoints' attuned where
  held := Attuned.custody.perm (same.flatMap_right Endpoint.handles) in_modes.held
  mode := fun endpoint mem => in_modes.mode endpoint (same.mem_iff.mpr mem)

private theorem turnsModes_of_perm (same : given.Perm taken) (attuned : Attuned σ) :
    TurnsModes given taken attuned attuned :=
  fun _ in_modes => in_modes.perm (same.append_right _)

theorem TurnsModes.trans {last : List Endpoint} {after' : Attuned σ}
    (first : TurnsModes given taken before after) (later : TurnsModes taken last after after') :
    TurnsModes given last before after' :=
  fun others in_modes => later others (first others in_modes)

private theorem TurnsModes.beside (turns : TurnsModes given taken before after)
    (more : List Endpoint) :
    TurnsModes (given ++ more) (taken ++ more) before after := by
  intro others in_modes
  rw [List.append_assoc] at in_modes ⊢
  exact turns (more ++ others) in_modes

private theorem turnsModes_of_leaves
    (exchange : Attuned.custody.Exchanges (given.flatMap Endpoint.handles)
      (taken.flatMap Endpoint.handles) before after)
    (own : InModes given before → ∀ endpoint ∈ taken, endpoint.InMode after)
    (leaves : ∀ h, before.Knows h → h ∉ given.flatMap Endpoint.handles →
      Attuned.LeavesMode h before after) : TurnsModes given taken before after := by
  intro others in_modes
  have held := in_modes.held
  rw [List.flatMap_append] at held
  refine ⟨by rw [List.flatMap_append]; exact exchange _ held, fun endpoint mem => ?_⟩
  obtain ⟨nodup, known⟩ := held
  obtain ⟨nodup_given, -, apart⟩ := List.nodup_append.mp nodup
  rcases List.mem_append.mp mem with taken_here | other
  · have given_modes : InModes given before :=
      ⟨⟨nodup_given, fun h mem => known h (List.mem_append_left _ mem)⟩,
        fun e mem => in_modes.mode e (List.mem_append_left _ mem)⟩
    exact own given_modes endpoint taken_here
  · -- no handle of an endpoint that stands aside is among the given ones
    have held_by_others : ∀ h ∈ endpoint.handles, h ∈ others.flatMap Endpoint.handles :=
      fun h mem => List.mem_flatMap.mpr ⟨endpoint, other, mem⟩
    refine (in_modes.mode endpoint (List.mem_append_right _ other)).left
      (fun h mem => known h (List.mem_append_right _ (held_by_others h mem))) (fun h mem => ?_)
    exact leaves h (known h (List.mem_append_right _ (held_by_others h mem)))
      fun mem_given => apart h mem_given h (held_by_others h mem) rfl

end Turns

namespace Host.SetsModes

variable {host : Host σ} (sets : host.SetsModes)

include sets

private theorem turnsModes_act (action : Endpoint.Action) (endpoint : Endpoint)
    (attuned : Attuned σ) :
    TurnsModes [endpoint] [(action.run host.attuned endpoint attuned).1] attuned
      (action.run host.attuned endpoint attuned).2 := by
  apply turnsModes_of_leaves
  · simp only [List.flatMap_singleton]
    exact host.respects_attuned.act action endpoint attuned
  · intro in_modes after mem
    rw [List.mem_singleton.mp mem]
    have known := in_modes.held.2
    rw [List.flatMap_singleton] at known
    exact (in_modes.mode endpoint List.mem_cons_self).act sets known action
  · intro h known foreign
    rw [List.flatMap_singleton] at foreign
    exact Endpoint.Action.leavesMode host known (Or.inl foreign)

private theorem turnsModes_acted {modes : Bool → Prop} {endpoint after : Endpoint}
    {attuned attuned' : Attuned σ}
    (acted : Endpoint.Acted host.attuned modes endpoint attuned after attuned') :
    TurnsModes [endpoint] [after] attuned attuned' := by
  induction acted with
  | refl => exact turnsModes_of_perm (List.Perm.refl _) attuned
  | tail _ action _ ih => exact ih.trans (sets.turnsModes_act action _ _)

private theorem turnsModes_acts {modes : Bool → Prop} {link link' : Link}
    {attuned attuned' : Attuned σ}
    (acts : Link.Acts (Endpoint.Acted host.attuned modes) link attuned link' attuned') :
    TurnsModes link.members link'.members attuned attuned' := by
  induction acts with
  | refl => exact turnsModes_of_perm (List.Perm.refl _) attuned
  | @tail between role endpoint after _ _ _ found acted ih =>
    obtain ⟨others, taken_out, put_back⟩ := Link.exists_members_perm found after
    have turned := (sets.turnsModes_acted acted).beside others
    exact ((ih.trans (turnsModes_of_perm taken_out _)).trans turned).trans
      (turnsModes_of_perm put_back.symm _)

end Host.SetsModes

section Release

variable (host : Host σ)

private theorem Endpoint.release_ignoring (h : Handle) (endpoint : Endpoint) (os : σ) :
    endpoint.release (host.ignoring h) os = endpoint.release host os := by
  cases endpoint <;> rfl

private theorem Owner.release_ignoring (h : Handle) (owner : Owner) (os : σ) :
    owner.release (host.ignoring h) os = owner.release host os := by
  cases owner with
  | endpoint e => exact e.release_ignoring host h os
  | link l => simp only [release, Link.release, Endpoint.release_ignoring]

private theorem turnsModes_release (owner : Owner) (attuned : Attuned σ) :
    TurnsModes owner.members [] attuned (owner.release host.attuned attuned) := by
  apply turnsModes_of_leaves
  · exact host.respects_attuned.releaseOwner owner attuned
  · intro _ endpoint mem
    cases mem
  · intro h _ _
    have keeps := host.keeps_ignoring h
    rw [← owner.release_ignoring host.attuned h]
    exact keeps.of_exchanges ((keeps.respects attuned).releaseOwner owner attuned)

private theorem Design.exists_make_eq (design : Design) (os : σ) :
    ∃ owner, design.make host os = (some owner, os) ∧ owner.handles = [] := by
  cases design with
  | endpoint identity blocking =>
    refine ⟨.endpoint (.new identity blocking), rfl, ?_⟩
    rw [Owner.handles, Owner.members, List.flatMap_singleton]
    exact Endpoint.handles_new identity blocking
  | link topology => exact ⟨.link (.new topology), rfl, (Link.isBare_new topology).handles_eq_nil⟩
  | configured config =>
    have built := config.build_eq_described host os
    have bare := (LinkConfig.bare_of_build built).2.2
    refine ⟨.link config.described, ?_, bare.handles_eq_nil⟩
    rw [make, built]

private theorem turnsModes_of_bare {added : List Endpoint}
    (bare : added.flatMap Endpoint.handles = [])
    (attuned : Attuned σ) : TurnsModes [] added attuned attuned := by
  apply turnsModes_of_leaves
  · rw [bare]
    exact Attuned.custody.exchanges_refl [] attuned
  · intro _ endpoint mem
    exact Endpoint.inMode_of_bare (List.flatMap_eq_nil_iff.mp bare endpoint mem)
  · intro h _ _
    exact Attuned.LeavesMode.refl attuned

private theorem turnsModes_replace (design : Design) (owner : Owner) (attuned : Attuned σ) :
    TurnsModes owner.members
      ((Owner.Change.replace design).run host.attuned owner attuned).1.members
      attuned ((Owner.Change.replace design).run host.attuned owner attuned).2 := by
  obtain ⟨new, made, bare⟩ := design.exists_make_eq host.attuned attuned
  -- the new owner has no handles yet when the old one gives its own up
  have added := (turnsModes_of_bare bare attuned).beside owner.members
  have released := (turnsModes_release host owner attuned).beside new.members
  simp only [Owner.Change.run, made]
  exact (added.trans (turnsModes_of_perm List.perm_append_comm attuned)).trans released

end Release

namespace Host.SetsModes

variable {host : Host σ} (sets : host.SetsModes)

include sets

private theorem turnsModes_link (change : Owner.Change) (chooses : change.Chooses fun _ => True)
    (link : Link) (attuned : Attuned σ) :
    TurnsModes link.members (change.run host.attuned (.link link) attuned).1.members attuned
      (change.run host.attuned (.link link) attuned).2 := by
  obtain ⟨link', attuned', run_eq, acts⟩ :=
    Owner.exists_acts_of_chooses host.attuned chooses link attuned
  rw [run_eq]
  exact sets.turnsModes_acts acts

private theorem turnsModes_change (change : Owner.Change) (owner : Owner) (attuned : Attuned σ) :
    TurnsModes owner.members (change.run host.attuned owner attuned).1.members attuned
      (change.run host.attuned owner attuned).2 := by
  have idle := turnsModes_of_perm (List.Perm.refl owner.members) attuned
  cases change with
  | replace design => exact turnsModes_replace host design owner attuned
  | act action =>
    cases owner with
    | endpoint e => exact sets.turnsModes_act action e attuned
    | link l => exact idle
  | actOn role action =>
    cases owner with
    | endpoint e => exact idle
    | link l => exact sets.turnsModes_link (.actOn role action) (fun _ _ => trivial) l attuned
  | operate operation =>
    cases owner with
    | endpoint e => exact idle
    | link l => exact sets.turnsModes_link (.operate operation) operation.chooses_any l attuned
  | reconfigure role actions =>
    cases owner with
    | endpoint e => exact idle
    | link l =>
      exact sets.turnsModes_link (.reconfigure role actions) (fun _ _ _ _ => trivial) l attuned

private theorem turnsModes_step (step : Step) (owners : List Owner) (attuned : Attuned σ) :
    TurnsModes (membersOf owners) (membersOf (step.run host.attuned owners attuned).1) attuned
      (step.run host.attuned owners attuned).2 := by
  have idle := turnsModes_of_perm (List.Perm.refl (membersOf owners)) attuned
  have put_last : ∀ owner : Owner,
      TurnsModes (owner.members ++ membersOf owners) (membersOf (owners ++ [owner])) attuned
        attuned := by
    intro owner
    rw [membersOf, membersOf, List.flatMap_append, List.flatMap_singleton]
    exact turnsModes_of_perm List.perm_append_comm attuned
  cases step with
  | create design =>
    obtain ⟨owner, made, bare⟩ := design.exists_make_eq host.attuned attuned
    simp only [Step.run, made]
    exact ((turnsModes_of_bare bare attuned).beside (membersOf owners)).trans (put_last owner)
  | copy place role =>
    simp only [Step.run]
    split
    · exact idle
    · next endpoint found =>
      have bare : [endpoint.template].flatMap Endpoint.handles = [] := by
        rw [List.flatMap_singleton, endpoint.template_eq_new]
        exact Endpoint.handles_new _ _
      exact ((turnsModes_of_bare bare attuned).beside (membersOf owners)).trans
        (put_last (.endpoint endpoint.template))
  | change place made =>
    simp only [Step.run]
    split
    · exact idle
    · next owner found =>
      have before := (perm_eraseIdx found).flatMap_right Owner.members
      have after := (perm_set found (made.run host.attuned owner attuned).1).flatMap_right
        Owner.members
      have changed := (sets.turnsModes_change made owner attuned).beside
        (membersOf (owners.eraseIdx place))
      exact ((turnsModes_of_perm before attuned).trans changed).trans
        (turnsModes_of_perm after.symm _)
  | drop place =>
    simp only [Step.run]
    split
    · exact idle
    · next owner found =>
      have before := (perm_eraseIdx found).flatMap_right Owner.members
      have released := (turnsModes_release host owner attuned).beside
        (membersOf (owners.eraseIdx place))
      exact (turnsModes_of_perm before attuned).trans released

private theorem turnsModes_runAll (steps : List Step) (owners : List Owner) (attuned : Attuned σ) :
    TurnsModes (membersOf owners) (membersOf (Step.runAll host.attuned steps owners attuned).1)
      attuned (Step.runAll host.attuned steps owners attuned).2 := by
  induction steps generalizing owners attuned with
  | nil => exact turnsModes_of_perm (List.Perm.refl _) attuned
  | cons step rest ih => exact (sets.turnsModes_step step owners attuned).trans (ih _ _)

private theorem inModes_runAll {owners : List Owner} {attuned : Attuned σ}
    (in_modes : InModes (membersOf owners) attuned) (steps : List Step) :
    InModes (membersOf (Step.runAll host.attuned steps owners attuned).1)
      (Step.runAll host.attuned steps owners attuned).2 := by
  rw [← List.append_nil (membersOf owners)] at in_modes
  have kept := sets.turnsModes_runAll steps owners attuned [] in_modes
  rw [List.append_nil] at kept
  exact kept

end Host.SetsModes

namespace Step

/-- A step does not drop the owner at a place, and chooses no other mode on it. -/
def KeepsFlag (mode : Bool) (place : Nat) : Step → Prop
  | .change other made => other = place → made.Chooses (· = mode)
  | .drop other => other ≠ place
  | _ => True

/-- Where the owner at a place stands after a step that does not drop it. -/
def follow (place : Nat) : Step → Nat
  | .drop other => if other < place then place - 1 else place
  | _ => place

def AllKeepFlag (mode : Bool) : List Step → Nat → Prop
  | [], _ => True
  | step :: rest, place => step.KeepsFlag mode place ∧ AllKeepFlag mode rest (step.follow place)

def followAll : List Step → Nat → Nat
  | [], place => place
  | step :: rest, place => followAll rest (step.follow place)

variable {owners : List Owner} {place : Nat} {link : Link} {mode : Bool}

private theorem exists_link_of_keepsFlag (host : Host σ) {step : Step}
    (found : owners[place]? = some (.link link)) (flags : link.HasFlag mode)
    (keeps : step.KeepsFlag mode place) (os : σ) :
    ∃ link', (step.run host owners os).1[step.follow place]? = some (.link link') ∧
      link'.HasFlag mode := by
  obtain ⟨lt, -⟩ := List.getElem?_eq_some_iff.mp found
  have put_last : ∀ owner, (owners ++ [owner])[place]? = some (.link link) := fun owner =>
    (List.getElem?_append_left lt).trans found
  cases step with
  | create design =>
    simp only [run, follow]
    split
    · exact ⟨link, found, flags⟩
    · next owner _ _ => exact ⟨link, put_last owner, flags⟩
  | copy other role =>
    simp only [run, follow]
    split
    · exact ⟨link, found, flags⟩
    · next endpoint _ => exact ⟨link, put_last (.endpoint endpoint.template), flags⟩
  | change other made =>
    simp only [run, follow]
    split
    · exact ⟨link, found, flags⟩
    · next owner present =>
      by_cases same : other = place
      · rw [same, found, Option.some.injEq] at present
        obtain ⟨link', os', run_eq, acts⟩ :=
          Owner.exists_acts_of_chooses host (keeps same) link os
        rw [← present, run_eq, same]
        exact ⟨link', List.getElem?_set_self lt, flags.acts acts⟩
      · rw [List.getElem?_set_ne same]
        exact ⟨link, found, flags⟩
  | drop other =>
    simp only [run, follow]
    split
    · next absent =>
      have beyond : ¬ other < place := by
        have := List.getElem?_eq_none_iff.mp absent
        omega
      rw [if_neg beyond]
      exact ⟨link, found, flags⟩
    · -- the link moves up by one if an owner before it is taken away
      refine ⟨link, ?_, flags⟩
      rw [List.getElem?_eraseIdx]
      split
      · next earlier =>
        rw [if_neg (by omega), Nat.sub_add_cancel (by omega)]
        exact found
      · next later =>
        have apart : other ≠ place := keeps
        rw [if_pos (by omega)]
        exact found

private theorem exists_link_of_allKeepFlag (host : Host σ) {steps : List Step}
    (found : owners[place]? = some (.link link)) (flags : link.HasFlag mode)
    (keep : AllKeepFlag mode steps place) (os : σ) :
    ∃ link', (runAll host steps owners os).1[followAll steps place]? = some (.link link') ∧
      link'.HasFlag mode := by
  induction steps generalizing owners place link os with
  | nil => exact ⟨link, found, flags⟩
  | cons step rest ih =>
    obtain ⟨keeps, keep_rest⟩ := keep
    obtain ⟨between, found', flags'⟩ := exists_link_of_keepsFlag host found flags keeps os
    exact ih found' flags' keep_rest _

end Step

/-- The modes of handles and the flags of endpoints during the runs of a program. -/
structure ModesFollowFlags (host : Host σ) (start : Attuned σ) : Prop where
  /-- Whatever the program does, each handle is in the mode of its endpoint's flag. -/
  always : ∀ steps, let after := Step.runAll host.attuned steps [] start
    ∀ endpoint ∈ membersOf after.1, endpoint.InMode after.2
  /-- After a mode was chosen for a link, every endpoint of the link has this flag, and its handles
  this mode, until another one is chosen or the link is given up. -/
  chosen : ∀ earlier place link mode later, let turn := Step.runAll host.attuned earlier [] start
    turn.1[place]? = some (.link link) → Step.AllKeepFlag mode later place →
      let after := Step.runAll host.attuned (.change place (.operate (.setBlocking mode)) :: later)
        turn.1 turn.2
      ∃ link', after.1[Step.followAll later place]? = some (.link link') ∧
        ∀ role endpoint, link'.endpoint? role = some endpoint →
          endpoint.blocking = mode ∧ endpoint.InMode after.2

private theorem inModes_nil (attuned : Attuned σ) : InModes (membersOf []) attuned where
  held := ⟨List.nodup_nil, fun _ mem => absurd mem List.not_mem_nil⟩
  mode := fun _ mem => absurd mem List.not_mem_nil

private theorem mem_membersOf {owners : List Owner} {place : Nat} {link : Link} {role : Role}
    {endpoint : Endpoint} (at_place : owners[place]? = some (.link link))
    (found : link.endpoint? role = some endpoint) : endpoint ∈ membersOf owners :=
  List.mem_flatMap.mpr
    ⟨.link link, List.mem_of_getElem? at_place, Link.mem_members_iff.mpr ⟨role, found⟩⟩

/-- On a host that sets the modes it is told to, the mode of a handle never differs from the flag of
its endpoint. -/
theorem modes_follow_flags (host : Host σ) (sets : host.SetsModes) (start : Attuned σ) :
    ModesFollowFlags host start where
  always := fun steps => (sets.inModes_runAll (inModes_nil start) steps).mode
  chosen := by
    intro earlier place link mode later turn found keep after
    -- the modes follow from the invariant, so only the flags of the link are followed from here on
    have before := sets.inModes_runAll (inModes_nil start) earlier
    have in_modes := sets.inModes_runAll before
      (.change place (.operate (.setBlocking mode)) :: later)
    obtain ⟨lt, -⟩ := List.getElem?_eq_some_iff.mp found
    have at_once : ((Step.change place (.operate (.setBlocking mode))).run host.attuned turn.1
        turn.2).1[place]? = some (.link (link.setBlocking host.attuned mode turn.2).1) := by
      simp only [Step.run, found]
      exact List.getElem?_set_self lt
    have flags := Link.hasFlag_setBlocking host.attuned link mode turn.2
    obtain ⟨link', at_place, flags'⟩ :=
      Step.exists_link_of_allKeepFlag host.attuned at_once flags keep _
    exact ⟨link', at_place, fun role endpoint found =>
      ⟨flags' role endpoint found, in_modes.mode endpoint (mem_membersOf at_place found)⟩⟩

/-- A client connects before the link is told to block, and is accepted afterwards. -/
theorem modes_of_accepted_client :
    let start : Attuned Loopback.World := { ledger := { os := {} } }
    let earlier : List Step :=
      [.create (.link .observatoryStandard), .change 0 (.actOn .data (.operate .bringUp)),
        .create (.endpoint (.tcpClient { hostname := "localhost", port := 49152 }) false),
        .change 1 (.act (.operate .bringUp))]
    let later : List Step :=
      [.change 0 (.operate (.accept .data)),
        .change 1 (.act (.operate (.set (.blocking false))))]
    let turn := Step.runAll Loopback.World.host.attuned earlier [] start
    let after := Step.runAll Loopback.World.host.attuned
      (.change 0 (.operate (.setBlocking true)) :: later) turn.1 turn.2
    (∀ endpoint ∈ membersOf turn.1, endpoint.InMode turn.2) ∧
      after.2.blocking ⟨0⟩ = some true ∧ after.2.blocking ⟨2⟩ = some true := by
  intro start earlier later turn after
  have law := modes_follow_flags Loopback.World.host ⟨fun _ _ _ => rfl, fun _ _ _ => rfl⟩ start
  have keep : Step.AllKeepFlag true later 0 := by
    simp [later, Step.AllKeepFlag, Step.KeepsFlag, Step.follow, Owner.Change.Chooses,
      Link.Operation.Chooses]
  obtain ⟨link, at_place, roles⟩ := law.chosen earlier 0 _ true later rfl keep
  have found : link.endpoint? .data = some (.listener
      { port := some 0, socket := some ⟨0⟩, client := some ⟨2⟩, blocking := true }) := by
    cases at_place
    rfl
  have in_mode : Endpoint.InMode _ after.2 := (roles .data _ found).2
  -- only a name from here on: comparing its parts would run the program again
  clear_value after
  exact ⟨law.always earlier, in_mode ⟨0⟩ (by decide), in_mode ⟨2⟩ (by decide)⟩

end InstrumentLink
