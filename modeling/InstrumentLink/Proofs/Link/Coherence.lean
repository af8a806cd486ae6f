import InstrumentLink.Loopback.Host
import InstrumentLink.Proofs.Endpoint.Coherence
import InstrumentLink.Proofs.Link.Operation

namespace InstrumentLink

variable {σ : Type}

namespace Link

/-- Every endpoint is of the kind that the topology asks for, and there are no others. -/
def HasKinds (link : Link) : Prop :=
  ∀ role, (link.endpoint? role).map Endpoint.kind = link.topology.endpointKind? role

/-- No endpoint has a handle. -/
def IsBare (link : Link) : Prop :=
  ∀ role endpoint, link.endpoint? role = some endpoint → endpoint.handles = []

theorem endpoint?_new (topology : Topology) (role : Role) :
    (new topology).endpoint? role = topology.initialEndpoint? role :=
  PerRole.get_ofFn _ role

theorem hasKinds_new (topology : Topology) : (new topology).HasKinds := by
  intro role
  rw [endpoint?_new]
  cases topology <;> cases role <;> rfl

theorem isBare_new (topology : Topology) : (new topology).IsBare := by
  intro role endpoint found
  rw [endpoint?_new] at found
  obtain ⟨kind, -, rfl⟩ := Option.map_eq_some_iff.mp found
  cases kind with
  | listener => by_cases data : role = .data <;> simp [data, Endpoint.handles, Listener.ephemeral]
  | _ => rfl

private theorem HasKinds.withEndpoint {link : Link} {role : Role} {endpoint after : Endpoint}
    (kinds : link.HasKinds) (found : link.endpoint? role = some endpoint)
    (same : after.kind = endpoint.kind) : (link.withEndpoint role after).HasKinds := by
  intro other
  by_cases changed : other = role
  · rw [changed, endpoint?_withEndpoint_self, topology_withEndpoint, ← kinds role, found,
      Option.map_some, Option.map_some, same]
  · rw [link.endpoint?_withEndpoint_of_ne after changed]
    exact kinds other

private theorem Acts.hasKinds {step : Endpoint → σ → Endpoint → σ → Prop} {link link' : Link}
    {os os' : σ}
    (keeps : ∀ {endpoint os after os'}, step endpoint os after os' → after.kind = endpoint.kind)
    (acts : Acts step link os link' os') (kinds : link.HasKinds) : link'.HasKinds := by
  induction acts with
  | refl => exact kinds
  | tail _ found steps ih => exact ih.withEndpoint found (keeps steps)

theorem IsBare.withEndpoint {link : Link} {role : Role} {endpoint : Endpoint}
    (bare : link.IsBare) (closed : endpoint.handles = []) :
    (link.withEndpoint role endpoint).IsBare := by
  intro other endpoint' found
  by_cases changed : other = role
  · rw [changed, endpoint?_withEndpoint_self, Option.some.injEq] at found
    rw [← found]
    exact closed
  · rw [link.endpoint?_withEndpoint_of_ne endpoint changed] at found
    exact bare other endpoint' found

private theorem Acts.isBare {host : Host σ} {link link' : Link} {os os' : σ}
    (acts : Acts (Endpoint.Tunes host) link os link' os') (bare : link.IsBare) : link'.IsBare :=
  acts.forall_endpoints (P := fun endpoint _ => endpoint.handles = [])
    (fun tunes closed => tunes.handles_eq_nil closed) (fun _ _ closed => closed) bare

end Link

namespace LinkConfig

private theorem retuned_getD {line : SerialLine} {changed? : Option SerialLine}
    (retuned : ∀ changed, changed? = some changed →
      Endpoint.Retuned (.serialLine line) (.serialLine changed)) :
    Endpoint.Retuned (.serialLine line) (.serialLine (changed?.getD line)) := by
  cases changed? with
  | none => exact Endpoint.Retuned.refl _
  | some changed => exact retuned changed rfl

private theorem retuned_getD_map {α : Type} {line : SerialLine} (field : Option α)
    (call : α → LineSetting) :
    Endpoint.Retuned (.serialLine line)
      (.serialLine ((field.map fun a => (call a).apply line).getD line)) := by
  apply retuned_getD
  intro changed present
  obtain ⟨a, -, rfl⟩ := Option.map_eq_some_iff.mp present
  exact Endpoint.retuned_line (call a) line

private theorem retuned_configureLine (config : LinkConfig) (line : SerialLine) :
    Endpoint.Retuned (.serialLine line) (.serialLine (config.configureLine line)) := by
  have device : Endpoint.Retuned (.serialLine line)
      (.serialLine ((config.devicePath.map line.setDevicePath).getD line)) := by
    apply retuned_getD
    intro changed present
    obtain ⟨path, -, rfl⟩ := Option.map_eq_some_iff.mp present
    exact Endpoint.retuned_setDevicePath (.serialLine line) path
  unfold configureLine
  refine device.trans ?_
  refine (retuned_getD_map config.baud .baudRate).trans ?_
  refine (retuned_getD_map (config.parity.bind Parity.ofCode?) .parity).trans ?_
  refine (retuned_getD_map (config.flowControl.bind FlowControl.ofCode?) .flowControl).trans ?_
  refine (retuned_getD_map (config.dataBits.bind DataBits.ofCode?) .dataBits).trans ?_
  exact retuned_getD_map (config.stopBits.bind StopBits.ofCode?) .stopBits

private theorem acts_configureHost (host : Host σ) (config : LinkConfig) (link : Link) (os : σ) :
    Link.Acts (Endpoint.Tunes host) link os (config.configureHost host link os).state
      (config.configureHost host link os).host := by
  unfold configureHost
  split
  · next hostname present => exact Link.acts_setHost host hostname link.topology.roles link os
  · exact .refl

private theorem acts_configurePorts (host : Host σ) (config : LinkConfig) (roles : List Role)
    (link : Link) (os : σ) :
    Link.Acts (Endpoint.Tunes host) link os (configurePorts host config roles link os).state
      (configurePorts host config roles link os).host := by
  induction roles generalizing link os with
  | nil => exact .refl
  | cons role rest ih =>
    unfold configurePorts
    split
    · exact ih link os
    · next port present =>
      split
      · exact (link.acts_setPort host role port os).andThen fun _ => ih _ _
      · exact ih link os

theorem acts_configure (host : Host σ) (config : LinkConfig) (os : σ) :
    ∃ link, (config.configure host os).state = config.configureDataLine link ∧
      Link.Acts (Endpoint.Tunes host) (Link.new config.topology) os link
        (config.configure host os).host := by
  have modes : Link.Acts (Endpoint.Tunes host) (Link.new config.topology) os
      ((Link.new config.topology).setBlocking host config.blocking os).1
      ((Link.new config.topology).setBlocking host config.blocking os).2 :=
    Link.acts_forEach (fun _ _ => .blocking config.blocking) Role.all _ os
  unfold configure
  generalize (Link.new config.topology).setBlocking host config.blocking os = started at modes
  refine ⟨_, rfl, ?_⟩
  dsimp only [Outcome.host_inState]
  have hosts := modes.trans (config.acts_configureHost host started.1 started.2)
  exact hosts.andThen fun _ => config.acts_configurePorts host Role.all _ _

theorem configureDataLine_cases (config : LinkConfig) (link : Link) :
    config.configureDataLine link = link ∨
      ∃ endpoint after, link.endpoint? .data = some endpoint ∧ endpoint.Retuned after ∧
        config.configureDataLine link = link.withEndpoint .data after := by
  unfold configureDataLine
  split
  · next line found => exact Or.inr ⟨_, _, found, config.retuned_configureLine line, rfl⟩
  · exact Or.inl rfl

/-- A link that a configuration describes has the endpoints of its topology, and nothing open. -/
theorem bare_of_build {host : Host σ} {config : LinkConfig} {link : Link} {os os' : σ}
    (built : config.build host os = (.ok link, os')) :
    link.topology = config.topology ∧ link.HasKinds ∧ link.IsBare := by
  obtain ⟨tuned, state_eq, acts⟩ := config.acts_configure host os
  have link_eq : link = config.configureDataLine tuned := by
    rw [← state_eq]
    unfold build at built
    dsimp only at built
    split at built
    · cases built
      rfl
    · cases built
  have topology := acts.topology_eq
  have kinds := acts.hasKinds Endpoint.Tunes.kind_eq (Link.hasKinds_new config.topology)
  have bare := acts.isBare (Link.isBare_new config.topology)
  rw [link_eq]
  rcases config.configureDataLine_cases tuned with same | ⟨endpoint, after, found, retuned, changed⟩
  · rw [same]
    exact ⟨topology, kinds, bare⟩
  · rw [changed]
    exact ⟨topology, kinds.withEndpoint found retuned.kind_eq,
      bare.withEndpoint (retuned.handles_eq.trans (bare .data endpoint found))⟩

end LinkConfig

namespace Link

private theorem Reachable.topology_eq {host : Host σ} {topology : Topology} {link : Link} {os : σ}
    (reached : Reachable host topology link os) : link.topology = topology := by
  induction reached with
  | new os => rfl
  | built shape built => rw [(LinkConfig.bare_of_build built).1, shape]
  | operated reached operation ih => rw [(acts_run host operation _ _).topology_eq, ih]

private theorem Reachable.hasKinds {host : Host σ} {topology : Topology} {link : Link} {os : σ}
    (reached : Reachable host topology link os) : link.HasKinds := by
  induction reached with
  | new os => exact hasKinds_new topology
  | built shape built => exact (LinkConfig.bare_of_build built).2.1
  | operated reached operation ih =>
    exact (acts_run host operation _ _).hasKinds Endpoint.Steps.kind_eq ih

/-- Whatever is done to a link, its endpoints are coherent. -/
theorem Reachable.endpoints_coherent {host : Host σ} {topology : Topology} {link : Link}
    {ledger : Ledger σ} (reached : Reachable host.ledger topology link ledger) :
    ∀ role endpoint, link.endpoint? role = some endpoint → endpoint.Coherent ledger := by
  induction reached with
  | new ledger =>
    intro role endpoint found
    exact Endpoint.coherent_of_handles_nil (isBare_new topology role endpoint found) ledger
  | @built config link ledger ledger' shape built =>
    intro role endpoint found
    have bare := (LinkConfig.bare_of_build built).2.2
    exact Endpoint.coherent_of_handles_nil (bare role endpoint found) ledger'
  | operated reached operation ih =>
    refine (acts_run host.ledger operation _ _).forall_endpoints ?_ ?_ ih
    · intro endpoint ledger after ledger' steps coherent
      exact coherent.steps steps
    · intro endpoint ledger after ledger' other steps _ coherent
      exact coherent.mono (host.keeps_extends.steps steps)

private theorem allRequired_mono {link : Link} {condition weaker : Endpoint → Bool}
    (implies : ∀ role endpoint, link.endpoint? role = some endpoint → condition endpoint = true →
      weaker endpoint = true)
    (all : link.allRequired condition = true) : link.allRequired weaker = true := by
  simp only [allRequired, List.all_eq_true, roleHas, Option.any_eq_true] at all ⊢
  intro role required
  obtain ⟨endpoint, found, holds⟩ := all role required
  exact ⟨endpoint, found, implies role endpoint found holds⟩

/-- In every state that operations lead to, whatever the host answers and whether they succeed or
not, a link has the endpoints that its topology asks for, every one of them is coherent, and the
link is up if it is connected and configured if it is up. -/
theorem coherent_of_reachable {host : Host σ} {topology : Topology} {link : Link}
    {ledger : Ledger σ} (reached : Reachable host.ledger topology link ledger) :
    link.topology = topology ∧
      (∀ role, (link.endpoint? role).map Endpoint.kind = topology.endpointKind? role) ∧
      (∀ role endpoint, link.endpoint? role = some endpoint → endpoint.Coherent ledger) ∧
      (link.isConnected = true → link.isUp = true) ∧
      (link.isUp = true → link.isConfigured = true) := by
  have coherent := reached.endpoints_coherent
  refine ⟨reached.topology_eq, ?_, coherent, ?_, ?_⟩
  · intro role
    rw [← reached.topology_eq]
    exact reached.hasKinds role
  · intro connected
    refine allRequired_mono ?_ connected
    intro role endpoint found flows
    exact (coherent role endpoint found).isUp_of_isConnected flows
  · intro up
    refine allRequired_mono ?_ up
    intro role endpoint found role_up
    exact (coherent role endpoint found).configured role_up

/-- A link that listens on two ports, one of which was changed while it was up. -/
theorem coherent_after_port_change :
    let operations := [.setPort .command 5000, .bringUp, .setPort .data 6000]
    let last := runAll Loopback.World.host.ledger operations (new .observatoryStandard) { os := {} }
    last.1.isUp = true ∧ last.1.isConfigured = true ∧
      ∀ role endpoint, last.1.endpoint? role = some endpoint → endpoint.Coherent last.2 := by
  intro operations last
  have up : (runAll Loopback.World.host.ledger
      [.setPort .command 5000, .bringUp, .setPort .data 6000] (new .observatoryStandard)
      { os := {} }).1.isUp = true := by decide +kernel
  have started : Reachable Loopback.World.host.ledger .observatoryStandard
      (new .observatoryStandard) { os := {} } := .new _
  obtain ⟨-, -, coherent, -, configured⟩ := coherent_of_reachable (started.runAll operations)
  exact ⟨up, configured up, coherent⟩

end Link

end InstrumentLink
