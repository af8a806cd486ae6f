import InstrumentLink.Proofs.Link.Tuning

/-!
# The link that a configuration describes

Making the link of a configuration never fails and asks nothing of the host. What comes out is given
field by field; fields that the topology has no use for do not count.
-/

namespace InstrumentLink

variable {σ : Type}

namespace LinkConfig

/-- The settings of the line that a configuration describes. -/
def lineSettings (config : LinkConfig) : LineSettings where
  devicePath := config.devicePath.getD ""
  baudRate := (config.baud.filter (· ∈ standardBaudRates)).getD 9600
  parity := (config.parity.bind Parity.ofCode?).getD .none
  flowControl := (config.flowControl.bind FlowControl.ofCode?).getD .none
  dataBits := (config.dataBits.bind DataBits.ofCode?).getD .eight
  stopBits := (config.stopBits.bind StopBits.ofCode?).getD .one

/-- The port of the listener that a configuration describes for a role. Without a port, data are
listened for on one that the host chooses, and commands are not listened for. -/
def listenerPort (config : LinkConfig) (role : Role) : Option UInt16 :=
  if role = .command then config.commandPort.filter (· ≠ 0) else some (config.dataPort.getD 0)

/-- The endpoint that a configuration describes for a role of its topology. -/
def endpoint (config : LinkConfig) (role : Role) : Endpoint :=
  match config.topology with
  | .observatoryStandard =>
      .listener { port := config.listenerPort role, blocking := config.blocking }
  | .instrumentTcp | .instrumentBotpt =>
      .tcpClient
        { settings := ⟨config.host.getD "", (config.port? role).getD 0⟩
          blocking := config.blocking }
  | .instrumentSerial =>
      .serialLine { settings := config.lineSettings, blocking := config.blocking }

/-- The link that a configuration describes. -/
def described (config : LinkConfig) : Link :=
  ⟨config.topology, .ofFn fun role =>
    if config.topology.hasRole role then some (config.endpoint role) else none⟩

/-- The configuration without the fields that its topology has no use for. -/
def relevant (config : LinkConfig) : LinkConfig :=
  match config.topology with
  | .observatoryStandard =>
      { topology := .observatoryStandard, dataPort := config.dataPort,
        commandPort := config.commandPort, blocking := config.blocking }
  | .instrumentTcp =>
      { topology := .instrumentTcp, host := config.host, dataPort := config.dataPort,
        commandPort := config.commandPort, blocking := config.blocking }
  | .instrumentBotpt =>
      { topology := .instrumentBotpt, host := config.host, dataTxPort := config.dataTxPort,
        dataRxPort := config.dataRxPort, blocking := config.blocking }
  | .instrumentSerial =>
      { topology := .instrumentSerial, devicePath := config.devicePath, baud := config.baud,
        parity := config.parity, flowControl := config.flowControl, dataBits := config.dataBits,
        stopBits := config.stopBits, blocking := config.blocking }

private theorem endpoint?_described (config : LinkConfig) (role : Role) :
    config.described.endpoint? role =
      if config.topology.hasRole role then some (config.endpoint role) else none :=
  PerRole.get_ofFn _ role

/-! ### Where nothing is open -/

/-- What the host of a configuration makes of an endpoint. -/
private def hostOn (config : LinkConfig) (endpoint : Endpoint) : Endpoint :=
  (config.host.map endpoint.setHostname).getD endpoint

/-- What the port of a configuration makes of a role's endpoint. -/
private def portOn (config : LinkConfig) (role : Role) (endpoint : Endpoint) : Endpoint :=
  ((config.port? role).map (endpoint.setPort role)).getD endpoint

/-- What the fields of a serial line make of a role's endpoint. -/
private def lineOn (config : LinkConfig) : Role → Endpoint → Endpoint
  | .data, .serialLine line => .serialLine (config.configureLine line)
  | _, endpoint => endpoint

private theorem retuned_hostOn (config : LinkConfig) (endpoint : Endpoint) :
    endpoint.Retuned (config.hostOn endpoint) := by
  unfold hostOn
  cases config.host with
  | none => exact Endpoint.Retuned.refl endpoint
  | some hostname => exact endpoint.retuned_setHostname hostname

private theorem configureHost_of_bare (host : Host σ) (config : LinkConfig) {link : Link}
    (kinds : link.HasKinds) (bare : link.IsBare) (os : σ) :
    config.configureHost host link os =
      ⟨.ok (), link.mapEndpoints fun _ => config.hostOn, os⟩ := by
  unfold configureHost
  split
  · next hostname present =>
    refine ((Tuning.host hostname).run_of_bare host kinds bare os).trans ?_
    congr 2
    funext role endpoint
    rw [hostOn, present]
    rfl
  · next absent =>
    rw [Link.mapEndpoints_id]
    intro role endpoint _
    rw [hostOn, absent]
    rfl

private theorem onEndpoint_port {config : LinkConfig} {role : Role} {port : UInt16}
    (present : config.port? role = some port) :
    (Tuning.port role port).onEndpoint = fun other e =>
      if other = role then config.portOn other e else e := by
  funext other endpoint
  by_cases same : other = role
  · rw [if_pos same, Tuning.onEndpoint, if_pos same, same, portOn, present]
    rfl
  · rw [if_neg same, Tuning.onEndpoint, if_neg same]

private theorem configurePorts_of_bare (host : Host σ) (config : LinkConfig) {roles : List Role}
    (nodup : roles.Nodup) {link : Link} (topology : link.topology = config.topology)
    (kinds : link.HasKinds) (bare : link.IsBare) (os : σ) :
    configurePorts host config roles link os =
      ⟨.ok (), link.mapEndpoints fun role e => if role ∈ roles then config.portOn role e else e,
        os⟩ := by
  induction roles generalizing link with
  | nil =>
    rw [Link.mapEndpoints_id fun role endpoint _ => if_neg List.not_mem_nil]
    rfl
  | cons first rest ih =>
    obtain ⟨absent, nodup_rest⟩ := List.nodup_cons.mp nodup
    -- without a port, or without the role, the turn of the first role changes nothing
    have skip (idle : ∀ endpoint, link.endpoint? first = some endpoint →
        config.portOn first endpoint = endpoint) :
        configurePorts host config rest link os =
          ⟨.ok (), link.mapEndpoints fun role e => if role ∈ first :: rest then config.portOn role e
            else e, os⟩ := by
      rw [ih nodup_rest topology kinds bare, ← Link.mapEndpoints_cons absent,
        Link.mapEndpoints_id_of_role idle]
    unfold configurePorts
    split
    · next no_port =>
      apply skip
      intro endpoint _
      rw [portOn, no_port]
      rfl
    · next port present =>
      split
      · next has =>
        have answer : (Tuning.port first port).answer link.topology = .ok () := by
          rw [topology]
          exact if_pos has
        have changed : link.setPort host first port os =
            ⟨.ok (), link.mapEndpoints (Tuning.port first port).onEndpoint, os⟩ := by
          rw [← answer]
          exact (Tuning.port first port).run_of_bare host kinds bare os
        have retuned := fun role e => Endpoint.retuned_onEndpoint (.port first port) role e
        have topology' :=
          (link.topology_mapEndpoints (Tuning.port first port).onEndpoint).trans topology
        rw [changed]
        dsimp only [Outcome.andThen]
        rw [ih nodup_rest topology' (kinds.mapEndpoints retuned) (bare.mapEndpoints retuned),
          onEndpoint_port present, Link.mapEndpoints_cons absent]
      · next lacks =>
        apply skip
        intro endpoint found
        rw [kinds.endpoint?_eq_none (topology ▸ lacks)] at found
        cases found

@[simp] theorem topology_configureDataLine (config : LinkConfig) (link : Link) :
    (config.configureDataLine link).topology = link.topology := by
  unfold configureDataLine
  split <;> rfl

private theorem lineOn_of_ne (config : LinkConfig) {role : Role} (apart : role ≠ .data)
    (endpoint : Endpoint) : config.lineOn role endpoint = endpoint := by
  cases role with
  | data => exact absurd rfl apart
  | _ => rfl

private theorem endpoint?_configureDataLine (config : LinkConfig) (link : Link) (role : Role) :
    (config.configureDataLine link).endpoint? role =
      (link.endpoint? role).map (config.lineOn role) := by
  by_cases data : role = .data
  · rw [data]
    unfold configureDataLine
    split
    · next line found =>
      rw [Link.endpoint?_withEndpoint_self, found]
      rfl
    · next no_line =>
      cases found : link.endpoint? .data with
      | none => rfl
      | some endpoint =>
        cases endpoint with
        | serialLine line => exact absurd found (no_line line)
        | _ => rfl
  · rw [funext (config.lineOn_of_ne data), Option.map_id']
    rcases config.configureDataLine_cases link with same | ⟨endpoint, after, -, -, changed⟩
    · rw [same]
    · rw [changed, link.endpoint?_withEndpoint_of_ne after data]

/-! A setter called with a field that may be absent is one called with the field or, instead of it,
with what is set already. -/

private theorem getD_map_setParity (line : SerialLine) (field : Option Parity) :
    (field.map line.setParity).getD line = line.setParity (field.getD line.settings.parity) :=
  Option.getD_map line.setParity line.settings.parity field

private theorem getD_map_setFlowControl (line : SerialLine) (field : Option FlowControl) :
    (field.map line.setFlowControl).getD line =
      line.setFlowControl (field.getD line.settings.flowControl) :=
  Option.getD_map line.setFlowControl line.settings.flowControl field

private theorem getD_map_setDataBits (line : SerialLine) (field : Option DataBits) :
    (field.map line.setDataBits).getD line =
      line.setDataBits (field.getD line.settings.dataBits) :=
  Option.getD_map line.setDataBits line.settings.dataBits field

private theorem getD_map_setStopBits (line : SerialLine) (field : Option StopBits) :
    (field.map line.setStopBits).getD line =
      line.setStopBits (field.getD line.settings.stopBits) :=
  Option.getD_map line.setStopBits line.settings.stopBits field

private theorem getD_map_setBaudRate (line : SerialLine) (field : Option UInt32) :
    (field.map fun baud => (line.setBaudRate baud).2).getD line =
      { line with settings := { line.settings with
          baudRate := (field.filter (· ∈ standardBaudRates)).getD line.settings.baudRate } } := by
  cases field with
  | none => rfl
  | some baud =>
    rw [Option.map_some, Option.getD_some, SerialLine.setBaudRate, Option.filter_some]
    by_cases standard : baud ∈ standardBaudRates <;> simp [standard]

private theorem configureLine_eq (config : LinkConfig) (blocking : Bool) :
    config.configureLine { blocking } = { settings := config.lineSettings, blocking } := by
  have device : (config.devicePath.map (SerialLine.setDevicePath { blocking })).getD { blocking } =
      SerialLine.setDevicePath { blocking } (config.devicePath.getD "") :=
    Option.getD_map (SerialLine.setDevicePath { blocking }) "" config.devicePath
  simp only [configureLine, device, getD_map_setBaudRate, getD_map_setParity,
    getD_map_setFlowControl, getD_map_setDataBits, getD_map_setStopBits]
  rfl

private theorem portOn_hostOn_tcpClient (config : LinkConfig) (role : Role) (blocking : Bool) :
    config.portOn role (config.hostOn (.tcpClient { blocking })) =
      .tcpClient { settings := ⟨config.host.getD "", (config.port? role).getD 0⟩, blocking } := by
  unfold portOn hostOn
  cases config.host <;> cases config.port? role <;> rfl

private theorem portOn_hostOn_serialLine (config : LinkConfig) (role : Role) (line : SerialLine) :
    config.portOn role (config.hostOn (.serialLine line)) = .serialLine line := by
  unfold portOn hostOn
  cases config.host <;> cases config.port? role <;> rfl

private theorem hostOn_listener (config : LinkConfig) (l : Listener) :
    config.hostOn (.listener l) = .listener l := by
  unfold hostOn
  cases config.host <;> rfl

private theorem portOn_dataListener (config : LinkConfig) (blocking : Bool) :
    config.portOn .data (.listener { port := some 0, blocking }) =
      .listener { port := config.listenerPort .data, blocking } := by
  unfold portOn port? listenerPort
  cases config.dataPort <;> simp [Endpoint.setPort, Listener.setPort]

private theorem portOn_commandListener (config : LinkConfig) (blocking : Bool) :
    config.portOn .command (.listener { blocking }) =
      .listener { port := config.listenerPort .command, blocking } := by
  unfold portOn port? listenerPort
  cases config.commandPort with
  | none => rfl
  | some port =>
    by_cases closed : port = 0
    · simp [Endpoint.setPort, closed, Listener.clearPort, Option.filter_some]
    · simp [Endpoint.setPort, closed, Listener.setPort, Option.filter_some]

private theorem tuned_initialEndpoint? (config : LinkConfig) (role : Role) :
    (config.topology.initialEndpoint? role).map (fun e =>
        config.lineOn role (config.portOn role (config.hostOn (e.withBlocking config.blocking)))) =
      if config.topology.hasRole role then some (config.endpoint role) else none := by
  unfold endpoint
  cases config.topology with
  | observatoryStandard =>
    cases role with
    | data =>
      refine (congrArg (fun e => some (config.lineOn .data (config.portOn .data e)))
        (config.hostOn_listener _)).trans ?_
      exact congrArg (fun e => some (config.lineOn .data e))
        (config.portOn_dataListener config.blocking)
    | command =>
      refine (congrArg (fun e => some (config.portOn .command e))
        (config.hostOn_listener _)).trans ?_
      exact congrArg some (config.portOn_commandListener config.blocking)
    | dataTx | dataRx => rfl
  | instrumentTcp =>
    cases role with
    | data =>
      exact congrArg (fun e => some (config.lineOn .data e))
        (config.portOn_hostOn_tcpClient .data config.blocking)
    | command => exact congrArg some (config.portOn_hostOn_tcpClient .command config.blocking)
    | dataTx | dataRx => rfl
  | instrumentBotpt =>
    cases role with
    | dataTx => exact congrArg some (config.portOn_hostOn_tcpClient .dataTx config.blocking)
    | dataRx => exact congrArg some (config.portOn_hostOn_tcpClient .dataRx config.blocking)
    | data | command => rfl
  | instrumentSerial =>
    cases role with
    | data =>
      refine (congrArg (fun e => some (config.lineOn .data e))
        (config.portOn_hostOn_serialLine .data { blocking := config.blocking })).trans ?_
      exact congrArg (fun line => some (Endpoint.serialLine line))
        (config.configureLine_eq config.blocking)
    | command | dataTx | dataRx => rfl

private theorem configure_eq_described (host : Host σ) (config : LinkConfig) (os : σ) :
    config.configure host os = ⟨.ok (), config.described, os⟩ := by
  have kinds := Link.hasKinds_new config.topology
  have bare := Link.isBare_new config.topology
  have modes := Link.setBlocking_of_bare host bare config.blocking os
  have retuned_mode := fun (_ : Role) (e : Endpoint) => e.retuned_withBlocking config.blocking
  have kinds_mode := kinds.mapEndpoints retuned_mode
  have bare_mode := bare.mapEndpoints retuned_mode
  have hosts := config.configureHost_of_bare host kinds_mode bare_mode os
  have retuned_host := fun (_ : Role) (e : Endpoint) => config.retuned_hostOn e
  have ports := config.configurePorts_of_bare host Role.nodup_all rfl
    (kinds_mode.mapEndpoints retuned_host) (bare_mode.mapEndpoints retuned_host) os
  have state : config.configureDataLine ((((Link.new config.topology).mapEndpoints fun _ e =>
      e.withBlocking config.blocking).mapEndpoints fun _ => config.hostOn).mapEndpoints
        fun role e => if role ∈ Role.all then config.portOn role e else e) = config.described := by
    apply Link.ext_endpoint?
    · rw [topology_configureDataLine]
      rfl
    · intro role
      rw [endpoint?_described, ← tuned_initialEndpoint?, endpoint?_configureDataLine]
      simp only [Link.endpoint?_mapEndpoints, Link.endpoint?_new, Option.map_map, role.mem_all,
        if_true]
      rfl
  unfold configure
  rw [modes]
  dsimp only
  rw [hosts]
  dsimp only [Outcome.andThen]
  rw [ports]
  dsimp only [Outcome.inState]
  rw [state]

theorem build_eq_described (host : Host σ) (config : LinkConfig) (os : σ) :
    config.build host os = (.ok config.described, os) := by
  unfold build
  rw [configure_eq_described]

/-! ### What the described link is -/

private theorem described_relevant (config : LinkConfig) :
    config.relevant.described = config.described := by
  cases config with
  | mk topology => cases topology <;> rfl

/-- A field is there, and it is not blank. -/
def Given {α : Type} (field : Option α) (blank : α) : Prop :=
  ∃ a, field = some a ∧ a ≠ blank

private theorem given_iff_getD {α : Type} {field : Option α} {blank : α} :
    Given field blank ↔ field.getD blank ≠ blank := by
  cases field <;> simp [Given]

private theorem given_iff_filter {α : Type} [DecidableEq α] {field : Option α} {blank : α} :
    Given field blank ↔ (field.filter (· ≠ blank)).isSome = true := by
  cases field <;> simp [Given, Option.filter_some]

/-- Whether a configuration has all that a link of its topology needs to be configured. -/
def Suffices (config : LinkConfig) : Prop :=
  match config.topology with
  | .observatoryStandard => Given config.commandPort 0
  | .instrumentTcp => Given config.host "" ∧ Given config.dataPort 0
  | .instrumentBotpt =>
      Given config.host "" ∧ Given config.dataTxPort 0 ∧ Given config.dataRxPort 0
  | .instrumentSerial => Given config.devicePath ""

private theorem isConfigured_described (config : LinkConfig) :
    config.described.isConfigured =
      config.topology.requiredRoles.all fun role => (config.endpoint role).isConfigured := by
  have topology : config.described.topology = config.topology := rfl
  rw [Link.isConfigured, Link.allRequired, topology, Bool.eq_iff_iff, List.all_eq_true,
    List.all_eq_true]
  apply forall₂_congr
  intro role required
  have has : config.topology.hasRole role = true :=
    List.contains_iff_mem.mpr (List.mem_append_left _ required)
  rw [Link.roleHas, endpoint?_described, if_pos has, Option.any_some]

private theorem isConfigured_tcpClient_iff (settings : SocketSettings) (blocking : Bool) :
    (Endpoint.tcpClient { settings, blocking }).isConfigured = true ↔
      settings.hostname ≠ "" ∧ settings.port ≠ 0 := by
  rw [Endpoint.isConfigured, TcpClient.isConfigured, SocketSettings.isConfigured, Bool.and_eq_true,
    decide_eq_true_iff, decide_eq_true_iff]

private theorem isConfigured_serialLine_iff (settings : LineSettings) (blocking : Bool) :
    (Endpoint.serialLine { settings, blocking }).isConfigured = true ↔
      settings.devicePath ≠ "" := by
  rw [Endpoint.isConfigured, SerialLine.isConfigured, Bool.and_eq_true, decide_eq_true_iff]
  exact and_iff_right rfl

private theorem isConfigured_described_iff (config : LinkConfig) :
    config.described.isConfigured = true ↔ config.Suffices := by
  rw [isConfigured_described]
  unfold Suffices endpoint
  cases config.topology with
  | observatoryStandard =>
    simp [Topology.requiredRoles, Endpoint.isConfigured, Listener.isConfigured, listenerPort,
      given_iff_filter]
  | instrumentTcp =>
    simp [Topology.requiredRoles, isConfigured_tcpClient_iff, port?, given_iff_getD]
  | instrumentBotpt =>
    simp only [Topology.requiredRoles, List.all_cons, List.all_nil, Bool.and_true, Bool.and_eq_true,
      isConfigured_tcpClient_iff, port?, given_iff_getD]
    constructor
    · rintro ⟨⟨host, dataTx⟩, -, dataRx⟩
      exact ⟨host, dataTx, dataRx⟩
    · rintro ⟨host, dataTx, dataRx⟩
      exact ⟨⟨host, dataTx⟩, host, dataRx⟩
  | instrumentSerial =>
    simp [Topology.requiredRoles, isConfigured_serialLine_iff, lineSettings, given_iff_getD]

/-- What making the link of a configuration comes to. -/
structure BuildLaw (host : Host σ) (config : LinkConfig) (os : σ) : Prop where
  /-- It never fails, and asks nothing of the host. -/
  succeeds : config.build host os = (.ok config.described, os)
  roles : ∀ role, (config.described.endpoint? role).isSome = true ↔ role ∈ config.topology.roles
  /-- Every endpoint is what the fields say. -/
  endpoints : ∀ role endpoint, config.described.endpoint? role = some endpoint →
    endpoint = config.endpoint role ∧ endpoint.handles = [] ∧ endpoint.isUp = false ∧
      endpoint.blocking = config.blocking
  /-- The fields that the topology has no use for do not count. -/
  relevant : ∀ other : LinkConfig, other.relevant = config.relevant →
    other.build host os = config.build host os
  configured_iff : config.described.isConfigured = true ↔ config.Suffices

private theorem endpoint_facts (config : LinkConfig) (role : Role) :
    (config.endpoint role).handles = [] ∧ (config.endpoint role).isUp = false ∧
      (config.endpoint role).blocking = config.blocking := by
  unfold endpoint
  cases config.topology <;> exact ⟨rfl, rfl, rfl⟩

/-- Whatever a configuration holds, making its link obeys the law. -/
theorem build_law (host : Host σ) (config : LinkConfig) (os : σ) : BuildLaw host config os where
  succeeds := config.build_eq_described host os
  roles := by
    intro role
    rw [endpoint?_described, ← List.contains_iff_mem]
    change _ ↔ config.topology.hasRole role = true
    split <;> simp [*]
  endpoints := by
    intro role endpoint found
    rw [endpoint?_described] at found
    split at found
    · rw [← Option.some.inj found]
      exact ⟨rfl, config.endpoint_facts role⟩
    · cases found
  relevant := by
    intro other same
    rw [build_eq_described, build_eq_described, ← other.described_relevant, same,
      described_relevant]
  configured_iff := config.isConfigured_described_iff

end LinkConfig

end InstrumentLink
