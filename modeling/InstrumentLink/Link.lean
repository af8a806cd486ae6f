import InstrumentLink.Topology

/-!
# Links

A link owns one endpoint for each role of its topology. What is said of the whole link is said of
its required roles: it is configured, up or connected when all of these are. An optional role may
fail or stay without a configuration.

A change of configuration reaches a live endpoint at once. If it alters the endpoint's identity,
the old handle is given up and the endpoint brought up again.
-/

namespace InstrumentLink

/-- One value for each role. -/
structure PerRole (α : Type) where
  data : α
  command : α
  dataTx : α
  dataRx : α
deriving DecidableEq, Repr

namespace PerRole

variable {α : Type}

def ofFn (f : Role → α) : PerRole α :=
  ⟨f .data, f .command, f .dataTx, f .dataRx⟩

def get (values : PerRole α) : Role → α
  | .data => values.data
  | .command => values.command
  | .dataTx => values.dataTx
  | .dataRx => values.dataRx

def set (values : PerRole α) (role : Role) (a : α) : PerRole α :=
  match role with
  | .data => { values with data := a }
  | .command => { values with command := a }
  | .dataTx => { values with dataTx := a }
  | .dataRx => { values with dataRx := a }

@[simp] theorem get_ofFn (f : Role → α) (role : Role) : (ofFn f).get role = f role := by
  cases role <;> rfl

@[simp] theorem get_set_self (values : PerRole α) (role : Role) (a : α) :
    (values.set role a).get role = a := by
  cases role <;> rfl

private theorem get_set_of_ne (values : PerRole α) {role other : Role} (a : α) (h : other ≠ role) :
    (values.set role a).get other = values.get other := by
  cases role <;> cases other <;> first | rfl | exact absurd rfl h

private theorem ext_get {values other : PerRole α}
    (same : ∀ role, values.get role = other.get role) :
    values = other := by
  cases values with
  | mk data command dataTx dataRx =>
    have data_eq := same .data
    have command_eq := same .command
    have dataTx_eq := same .dataTx
    have dataRx_eq := same .dataRx
    simp only [get] at data_eq command_eq dataTx_eq dataRx_eq
    rw [data_eq, command_eq, dataTx_eq, dataRx_eq]

end PerRole

def Fault.missingRole (topology : Topology) (role : Role) : Fault :=
  .missingConfiguration
    (topology.displayName ++ " topology has no " ++ role.displayName ++ " role")

/-- The topology has no serial line for data. -/
def Fault.missingLine (topology : Topology) : Fault :=
  .missingConfiguration (topology.displayName ++ " topology has no serial data line")

namespace Endpoint

variable {σ : Type}

/-- Changes the port on behalf of a role. For a command listener port 0 means that there is no
command channel, so it loses its port instead of taking any. Serial lines have no port. -/
def setPort (endpoint : Endpoint) (role : Role) (port : UInt16) : Endpoint :=
  match endpoint with
  | .tcpClient client => .tcpClient (client.setPort port)
  | .udpClient client => .udpClient (client.setPort port)
  | .listener l =>
      if port = 0 ∧ role = .command then .listener l.clearPort else .listener (l.setPort port)
  | .serialLine line => .serialLine line

/-- Changes the device of a serial line; other kinds have none. -/
def setDevicePath (endpoint : Endpoint) (devicePath : String) : Endpoint :=
  match endpoint with
  | .serialLine line => .serialLine (line.setDevicePath devicePath)
  | other => other

/-- Settles an endpoint after a change from what it was before. If it was up and its identity has
changed, its handles are given up, and it is brought up again where the new configuration is
complete. The answer says whether it was. -/
def reopenIfChanged (host : Host σ) (before after : Endpoint) (os : σ) :
    Outcome σ Endpoint Bool :=
  if before.isUp = false ∨ after.identity = before.identity then ⟨.ok false, after, os⟩
  else
    let (down, os) := after.disconnect host os
    if down.isConfigured then down.bringUp host os else ⟨.ok false, down, os⟩

end Endpoint

/-- The endpoints of one hookup. -/
structure Link where
  topology : Topology
  endpoints : PerRole (Option Endpoint)
deriving DecidableEq, Repr

namespace Link

variable {σ : Type}

/-- The link of a topology as it is at first. -/
def new (topology : Topology) : Link :=
  ⟨topology, .ofFn topology.initialEndpoint?⟩

def endpoint? (link : Link) (role : Role) : Option Endpoint :=
  link.endpoints.get role

def withEndpoint (link : Link) (role : Role) (endpoint : Endpoint) : Link :=
  { link with endpoints := link.endpoints.set role (some endpoint) }

@[simp] theorem topology_withEndpoint (link : Link) (role : Role) (endpoint : Endpoint) :
    (link.withEndpoint role endpoint).topology = link.topology := rfl

@[simp] theorem endpoint?_withEndpoint_self (link : Link) (role : Role) (endpoint : Endpoint) :
    (link.withEndpoint role endpoint).endpoint? role = some endpoint := by
  simp [endpoint?, withEndpoint]

theorem endpoint?_withEndpoint_of_ne (link : Link) {role other : Role} (endpoint : Endpoint)
    (h : other ≠ role) :
    (link.withEndpoint role endpoint).endpoint? other = link.endpoint? other :=
  link.endpoints.get_set_of_ne _ h

theorem ext_endpoint? {link other : Link} (topology : link.topology = other.topology)
    (same : ∀ role, link.endpoint? role = other.endpoint? role) : link = other := by
  cases link with
  | mk shape endpoints =>
    cases other with
    | mk shape' endpoints' =>
      have endpoints_eq : endpoints = endpoints' := PerRole.ext_get same
      cases topology
      rw [endpoints_eq]

theorem withEndpoint_eq_self {link : Link} {role : Role} {endpoint : Endpoint}
    (found : link.endpoint? role = some endpoint) : link.withEndpoint role endpoint = link := by
  apply ext_endpoint? (link.topology_withEndpoint role endpoint)
  intro other
  by_cases same : other = role
  · rw [same, endpoint?_withEndpoint_self, found]
  · exact link.endpoint?_withEndpoint_of_ne endpoint same

/-- Whether the endpoint of a role satisfies a condition. -/
def roleHas (link : Link) (role : Role) (condition : Endpoint → Bool) : Bool :=
  (link.endpoint? role).any condition

def allRequired (link : Link) (condition : Endpoint → Bool) : Bool :=
  link.topology.requiredRoles.all fun role => link.roleHas role condition

def isConfigured (link : Link) : Bool := link.allRequired Endpoint.isConfigured

/-- Whether every required role is up; a listener is, with or without a client. -/
def isUp (link : Link) : Bool := link.allRequired Endpoint.isUp

/-- Whether bytes can flow for every required role. -/
def isConnected (link : Link) : Bool := link.allRequired Endpoint.isConnected

/-- Brings one role up. A role that is up already is left alone, and so is one without a complete
configuration. Only a required role raises its fault. -/
def bringUpRole (host : Host σ) (link : Link) (role : Role) (os : σ) : Outcome σ Link Unit :=
  match link.endpoint? role with
  | none => ⟨.ok (), link, os⟩
  | some endpoint =>
      if endpoint.isUp ∨ endpoint.isConfigured = false then ⟨.ok (), link, os⟩
      else
        let outcome := (endpoint.bringUp host os).inState (link.withEndpoint role)
        match outcome.answer with
        | .error fault =>
            if role ∈ link.topology.requiredRoles then ⟨.error fault, outcome.state, outcome.host⟩
            else ⟨.ok (), outcome.state, outcome.host⟩
        | .ok _ => ⟨.ok (), outcome.state, outcome.host⟩

/-- Brings roles up in order; the first fault ends the sequence. -/
def bringUpRoles (host : Host σ) : List Role → Link → σ → Outcome σ Link Unit
  | [], link, os => ⟨.ok (), link, os⟩
  | role :: rest, link, os =>
      (link.bringUpRole host role os).andThen fun _ link os => bringUpRoles host rest link os

/-- Brings up every role that is configured and not up yet. The answer says whether all required
roles are up then; a fault is that of the first required role that failed. -/
def bringUp (host : Host σ) (link : Link) (os : σ) : Outcome σ Link Bool :=
  let outcome := bringUpRoles host link.topology.roles link os
  outcome.withAnswer fun _ => outcome.state.isUp

/-- Changes the endpoint of a role, which may involve the host, and settles it. Without such a role
there is no report of the change. -/
def reconfigureWith {ρ : Type} (host : Host σ) (link : Link) (role : Role)
    (change : Endpoint → σ → ρ × Endpoint × σ) (os : σ) : Option ρ × Outcome σ Link Bool :=
  match link.endpoint? role with
  | none => (none, ⟨.error (.missingRole link.topology role), link, os⟩)
  | some before =>
      let (report, after, os) := change before os
      (some report, (before.reopenIfChanged host after os).inState (link.withEndpoint role))

/-- Changes the configuration of a role's endpoint and settles it. The answer says whether the
endpoint was brought up again. -/
def reconfigure (host : Host σ) (link : Link) (role : Role) (change : Endpoint → Endpoint)
    (os : σ) : Outcome σ Link Bool :=
  (link.reconfigureWith host role (fun endpoint os => ((), change endpoint, os)) os).2

/-- Changes the host of roles in order; the first fault ends the sequence. -/
def setHostOf (host : Host σ) (hostname : String) : List Role → Link → σ → Outcome σ Link Unit
  | [], link, os => ⟨.ok (), link, os⟩
  | role :: rest, link, os =>
      (link.reconfigure host role (·.setHostname hostname) os).andThen fun _ link os =>
        setHostOf host hostname rest link os

def setHost (host : Host σ) (link : Link) (hostname : String) (os : σ) : Outcome σ Link Unit :=
  setHostOf host hostname link.topology.roles link os

def setPort (host : Host σ) (link : Link) (role : Role) (port : UInt16) (os : σ) :
    Outcome σ Link Unit :=
  (link.reconfigure host role (·.setPort role port) os).withAnswer fun _ => ()

def setDevicePath (host : Host σ) (link : Link) (devicePath : String) (os : σ) :
    Outcome σ Link Unit :=
  match link.endpoint? .data with
  | some (.serialLine _) =>
      (link.reconfigure host .data (·.setDevicePath devicePath) os).withAnswer fun _ => ()
  | _ => ⟨.error (.missingLine link.topology), link, os⟩

/-- Does something to the endpoint of each of the given roles that the link has. -/
def forEach (f : Endpoint → σ → Endpoint × σ) : List Role → Link → σ → Link × σ
  | [], link, os => (link, os)
  | role :: rest, link, os =>
      match link.endpoint? role with
      | none => forEach f rest link os
      | some endpoint =>
          let (endpoint, os) := f endpoint os
          forEach f rest (link.withEndpoint role endpoint) os

def setBlocking (host : Host σ) (link : Link) (blocking : Bool) (os : σ) : Link × σ :=
  forEach (fun endpoint os => endpoint.setBlocking host blocking os) Role.all link os

/-- Gives up the handles of every role; the configuration stays. -/
def disconnect (host : Host σ) (link : Link) (os : σ) : Link × σ :=
  forEach (fun endpoint os => endpoint.disconnect host os) Role.all link os

/-- Closes the handles of a link that is given up. -/
def release (host : Host σ) (link : Link) (os : σ) : σ :=
  Role.all.foldl
    (fun os role => ((link.endpoint? role).map fun e => e.release host os).getD os) os

/-- Sends a break on the serial data line; `false` if there is none or the break failed. -/
def sendBreak (host : Host σ) (link : Link) (milliseconds : Nat) (os : σ) : Bool × σ :=
  match link.endpoint? .data with
  | some (.serialLine line) => line.sendBreak host milliseconds os
  | _ => (false, os)

def write (host : Host σ) (link : Link) (role : Role) (bytes : ByteArray) (os : σ) :
    Outcome σ Link Nat :=
  match link.endpoint? role with
  | none => ⟨.error (.missingRole link.topology role), link, os⟩
  | some endpoint => (endpoint.write host bytes os).inState (link.withEndpoint role)

def read (host : Host σ) (link : Link) (role : Role) (room : Nat) (os : σ) :
    Outcome σ Link ByteArray :=
  match link.endpoint? role with
  | none => ⟨.error (.missingRole link.topology role), link, os⟩
  | some endpoint => (endpoint.read host room os).inState (link.withEndpoint role)

end Link

end InstrumentLink
