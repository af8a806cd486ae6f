import InstrumentLink.Proofs.Program.Acting
import Mathlib.Logic.Function.Basic

/-!
# Endpoints of the same channel

Whether two endpoints stand for the same channel is decided by their configurations alone. Among
endpoints that share a host, what is done to them changes the decision only through a setter of the
configuration, or by a new endpoint in the place of one: opening, losing and closing handles leave
it as it is, and so does the blocking mode. A template keeps what decides, and nothing of what the
endpoint went through.
-/

namespace InstrumentLink

attribute [ext] SocketSettings LineSettings

namespace Endpoint

variable {σ ι : Type}

/-- The endpoints are of one kind, and no field of the configuration tells them apart. -/
def Agrees : Endpoint → Endpoint → Prop
  | .tcpClient a, .tcpClient b =>
      a.settings.hostname = b.settings.hostname ∧ a.settings.port = b.settings.port
  | .udpClient a, .udpClient b =>
      a.settings.hostname = b.settings.hostname ∧ a.settings.port = b.settings.port
  | .listener a, .listener b => a.port = b.port
  | .serialLine a, .serialLine b =>
      a.settings.devicePath = b.settings.devicePath ∧ a.settings.baudRate = b.settings.baudRate ∧
        a.settings.dataBits = b.settings.dataBits ∧ a.settings.parity = b.settings.parity ∧
        a.settings.stopBits = b.settings.stopBits ∧ a.settings.flowControl = b.settings.flowControl
  | _, _ => False

/-- The endpoints are equal but for the blocking mode. -/
def SameButBlocking (a b : Endpoint) : Prop :=
  ∃ blocking, a.withBlocking blocking = b

/-- The action may give the place of the endpoint another configuration. The blocking mode is not
part of that. -/
def Action.configures : Action → Bool
  | .operate (.set (.blocking _)) => false
  | .operate (.set _) | .replace _ _ => true
  | .operate _ => false

/-- Carries actions out in turn, each on one of several endpoints that share a host. -/
def actAmong [DecidableEq ι] (host : Host σ) :
    List (ι × Action) → (ι → Endpoint) → σ → (ι → Endpoint) × σ
  | [], endpoints, os => (endpoints, os)
  | (i, action) :: rest, endpoints, os =>
      let acted := action.run host (endpoints i) os
      actAmong host rest (Function.update endpoints i acted.1) acted.2

section Configuration

variable {a b : Endpoint}

private theorem sameChannel_iff : a.sameChannel b = true ↔ a.identity = b.identity :=
  decide_eq_true_iff

private theorem identity_eq_iff_agrees : a.identity = b.identity ↔ a.Agrees b := by
  cases a with
  | tcpClient a => cases b <;> simp [identity, Agrees, SocketSettings.ext_iff]
  | udpClient a => cases b <;> simp [identity, Agrees, SocketSettings.ext_iff]
  | listener a => cases b <;> simp [identity, Agrees]
  | serialLine a => cases b <;> simp [identity, Agrees, LineSettings.ext_iff]

private theorem withBlocking_new (identity : Identity) (before blocking : Bool) :
    (new identity before).withBlocking blocking = new identity blocking := by
  cases identity <;> rfl

private theorem sameButBlocking_template_iff :
    a.template.SameButBlocking b.template ↔ a.identity = b.identity := by
  constructor
  · rintro ⟨blocking, same⟩
    have identities := congrArg identity same
    rw [identity_withBlocking, identity_template, identity_template] at identities
    exact identities
  · intro same
    refine ⟨b.blocking, ?_⟩
    rw [template_eq_new, withBlocking_new, same, ← template_eq_new]

end Configuration

section Acting

variable (host : Host σ) (endpoint : Endpoint) (os : σ)

private theorem identity_act {action : Action} (plain : action.configures = false) :
    (action.run host endpoint os).1.identity = endpoint.identity := by
  cases action with
  | operate operation =>
    cases operation with
    | set setting =>
      cases setting with
      | blocking mode =>
        change (endpoint.setBlocking host mode os).1.identity = endpoint.identity
        rw [setBlocking_fst, identity_withBlocking]
      | _ => cases plain
    | _ => exact (template_eq_iff.mp (Operation.template_run host endpoint os rfl)).1
  | replace identity blocking => cases plain

theorem identity_actAmong [DecidableEq ι] {turns : List (ι × Action)} {i : ι}
    (plain : ∀ turn ∈ turns, turn.1 = i → turn.2.configures = false) (endpoints : ι → Endpoint)
    (os : σ) :
    ((actAmong host turns endpoints os).1 i).identity = (endpoints i).identity := by
  induction turns generalizing endpoints os with
  | nil => rfl
  | cons turn rest ih =>
    obtain ⟨j, action⟩ := turn
    rw [actAmong, ih fun other mem => plain other (List.mem_cons_of_mem _ mem)]
    -- what is left is the first turn
    by_cases same : i = j
    · subst same
      rw [Function.update_self]
      exact identity_act host _ os (plain (i, action) List.mem_cons_self rfl)
    · rw [Function.update_of_ne same]

end Acting

/-- How two endpoints compare among others that share their host. -/
structure ComparesConfigurations [DecidableEq ι] (host : Host σ) (endpoints : ι → Endpoint) (os : σ)
    (i j : ι) : Prop where
  same_iff_templates : (endpoints i).sameChannel (endpoints j) = true ↔
    (endpoints i).kind = (endpoints j).kind ∧
      (endpoints i).template.SameButBlocking (endpoints j).template
  same_iff_agrees :
    (endpoints i).sameChannel (endpoints j) = true ↔ (endpoints i).Agrees (endpoints j)
  /-- Only what configures one of the two can change how they compare. -/
  stable : ∀ turns : List (ι × Action),
    (∀ turn ∈ turns, turn.1 = i ∨ turn.1 = j → turn.2.configures = false) →
      let after := (actAmong host turns endpoints os).1
      (after i).sameChannel (after j) = (endpoints i).sameChannel (endpoints j)
  template_bare : (endpoints i).template.handles = [] ∧ (endpoints i).template.isUp = false ∧
    (endpoints i).template.isConnected = false
  template_blocking : (endpoints i).template.blocking = (endpoints i).blocking
  template_same : (endpoints i).template.sameChannel (endpoints i) = true
  template_eq : (endpoints i).template = (endpoints j).template ↔
    (endpoints i).identity = (endpoints j).identity ∧
      (endpoints i).blocking = (endpoints j).blocking

/-- Whatever endpoints went through, and whatever the host answers from then on, comparing them
compares their configurations. -/
theorem comparesConfigurations [DecidableEq ι] (host : Host σ) (endpoints : ι → Endpoint) (os : σ)
    (i j : ι) : ComparesConfigurations host endpoints os i j where
  same_iff_templates := by
    rw [sameChannel_iff, sameButBlocking_template_iff]
    refine ⟨fun same => ⟨?_, same⟩, And.right⟩
    rw [kind_eq, kind_eq, same]
  same_iff_agrees := sameChannel_iff.trans identity_eq_iff_agrees
  stable := by
    intro turns plain after
    have kept_left : (after i).identity = (endpoints i).identity :=
      identity_actAmong host (fun turn mem on => plain turn mem (Or.inl on)) endpoints os
    have kept_right : (after j).identity = (endpoints j).identity :=
      identity_actAmong host (fun turn mem on => plain turn mem (Or.inr on)) endpoints os
    rw [sameChannel, kept_left, kept_right, sameChannel]
  template_bare := by
    have bare : (endpoints i).template.handles = [] := by
      rw [template_eq_new]
      exact handles_new _ _
    exact ⟨bare, isUp_eq_false_of_handles_eq_nil bare, isConnected_eq_false_of_handles_eq_nil bare⟩
  template_blocking := blocking_template _
  template_same := sameChannel_iff.mpr (identity_template _)
  template_eq := template_eq_iff

end Endpoint

end InstrumentLink
