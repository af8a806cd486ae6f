import InstrumentLink.Proofs.Endpoint.Steps
import InstrumentLink.Proofs.Host.Ledger

/-!
# Coherence of handles and configuration

An endpoint is coherent if it is configured whenever it is up, and its handles were opened for what
it is configured to be now. Settings change while handles are open, so this is kept by giving the
handles up with every change of the identity.
-/

namespace InstrumentLink

variable {σ : Type}

namespace Endpoint

/-- The handle that an endpoint is up with. -/
def resource? : Endpoint → Option Handle
  | tcpClient client => client.stream
  | udpClient client => client.socket
  | listener l => l.socket
  | serialLine line => line.port

/-- The handles of an endpoint belong to its configuration. -/
structure Coherent (endpoint : Endpoint) (ledger : Ledger σ) : Prop where
  configured : endpoint.isUp = true → endpoint.isConfigured = true
  opened : ∀ h, endpoint.resource? = some h → ledger.OpenedFor h endpoint.identity
  /-- A client was accepted from the socket that listens. -/
  accepted : ∀ l, endpoint = .listener l → ∀ client, l.client = some client →
    ∃ socket, l.socket = some socket ∧ ledger.opening? client = some (.client socket)
  /-- An open line has its settings applied. -/
  applied : ∀ line, endpoint = .serialLine line → line.isConnected = true →
    line.applied = some line.settings

theorem coherent_of_handles_nil {endpoint : Endpoint} (bare : endpoint.handles = [])
    (ledger : Ledger σ) : endpoint.Coherent ledger := by
  cases endpoint with
  | tcpClient client =>
    have none_open : client.stream = none := Option.toList_eq_nil_iff.mp bare
    constructor <;> simp [isUp, TcpClient.isConnected, resource?, none_open]
  | udpClient client =>
    have none_open : client.socket = none := Option.toList_eq_nil_iff.mp bare
    constructor <;> simp [isUp, UdpClient.isConnected, resource?, none_open]
  | listener l =>
    obtain ⟨no_socket, no_client⟩ := List.append_eq_nil_iff.mp bare
    rw [Option.toList_eq_nil_iff] at no_socket no_client
    constructor <;> simp [isUp, Listener.isListening, resource?, no_socket, no_client]
  | serialLine line =>
    have none_open : line.port = none := Option.toList_eq_nil_iff.mp bare
    constructor <;> simp [isUp, SerialLine.isConnected, resource?, none_open]

private theorem coherent_opened {endpoint : Endpoint} {h : Handle} {ledger : Ledger σ}
    (complete : endpoint.isComplete = true)
    (opened_for : ledger.OpenedFor h endpoint.identity) : (endpoint.opened h).Coherent ledger where
  configured := fun _ => isConfigured_opened h complete
  opened := by
    intro h' held
    have same : h = h' := by
      cases endpoint <;> exact Option.some.inj held
    rw [← same, identity_opened]
    exact opened_for
  accepted := by
    intro l is_listener client held
    cases endpoint with
    | listener l' =>
      cases is_listener
      cases held
    | _ => cases is_listener
  applied := by
    intro line is_line _
    cases endpoint with
    | serialLine line' =>
      cases is_line
      rfl
    | _ => cases is_line

namespace Coherent

variable {endpoint : Endpoint} {ledger ledger' : Ledger σ} (coherent : endpoint.Coherent ledger)

include coherent

theorem mono (grown : ledger.Extends ledger') : endpoint.Coherent ledger' where
  configured := coherent.configured
  opened := fun h held => (coherent.opened h held).mono grown
  accepted := by
    intro l is_listener client held
    obtain ⟨socket, listening, noted⟩ := coherent.accepted l is_listener client held
    exact ⟨socket, listening, grown.opening?_eq noted⟩
  applied := coherent.applied

private theorem handles_eq_nil (down : endpoint.isUp = false) : endpoint.handles = [] := by
  cases endpoint with
  | tcpClient client =>
    have none_open : client.stream = none := by simpa [isUp, TcpClient.isConnected] using down
    rw [handles, none_open, Option.toList_none]
  | udpClient client =>
    have none_open : client.socket = none := by simpa [isUp, UdpClient.isConnected] using down
    rw [handles, none_open, Option.toList_none]
  | serialLine line =>
    have none_open : line.port = none := by simpa [isUp, SerialLine.isConnected] using down
    rw [handles, none_open, Option.toList_none]
  | listener l =>
    have no_socket : l.socket = none := by simpa [isUp, Listener.isListening] using down
    have no_client : l.client = none := by
      cases held : l.client with
      | none => rfl
      | some client =>
        obtain ⟨socket, listening, -⟩ := coherent.accepted l rfl client held
        rw [no_socket] at listening
        cases listening
    rw [handles, no_socket, no_client, Option.toList_none, List.append_nil]

theorem isUp_of_isConnected (connected : endpoint.isConnected = true) : endpoint.isUp = true := by
  cases endpoint with
  | tcpClient client => exact connected
  | udpClient client => exact connected
  | serialLine line => exact connected
  | listener l =>
    obtain ⟨client, held⟩ := Option.isSome_iff_exists.mp connected
    obtain ⟨socket, listening, -⟩ := coherent.accepted l rfl client held
    exact Option.isSome_iff_exists.mpr ⟨socket, listening⟩

private theorem cut : endpoint.cut.Coherent ledger := by
  cases endpoint with
  | tcpClient client => exact coherent_of_handles_nil rfl ledger
  | udpClient client => exact coherent_of_handles_nil rfl ledger
  | serialLine line => exact coherent_of_handles_nil rfl ledger
  | listener l =>
    refine ⟨coherent.configured, coherent.opened, ?_, ?_⟩
    · intro l' is_listener client held
      cases is_listener
      cases held
    · intro line is_line
      cases is_line

private theorem retuned {after : Endpoint} (changed : endpoint.Retuned after)
    (same : after.identity = endpoint.identity) : after.Coherent ledger where
  configured := by
    rw [changed.isUp_eq]
    exact fun up => changed.isConfigured_of_identity_eq same (coherent.configured up)
  opened := by
    intro h held
    rw [same]
    apply coherent.opened
    cases changed <;> exact held
  accepted := by
    intro l is_listener client held
    cases changed with
    | listener l' port blocking =>
      cases is_listener
      exact coherent.accepted l' rfl client held
    | _ => cases is_listener
  applied := by
    intro line is_line up
    cases changed with
    | serialLine line' settings armed blocking stays =>
      cases is_line
      have settings_eq : settings = line'.settings := Identity.serialLine.inj same
      have applied := coherent.applied line' rfl up
      rw [← settings_eq] at applied
      exact applied
    | _ => cases is_line

end Coherent

theorem coherent_bringUp (host : Host σ) {endpoint : Endpoint} (ledger : Ledger σ)
    (configured : endpoint.isConfigured = true) :
    (endpoint.bringUp host.ledger ledger).state.Coherent
      (endpoint.bringUp host.ledger ledger).host := by
  have led := endpoint.broughtUp host.ledger ledger
  generalize endpoint.bringUp host.ledger ledger = outcome at led
  cases led with
  | refused detail lacking =>
    rw [isComplete_of_isConfigured configured] at lacking
    cases lacking
  | opened h before after complete opens =>
    exact coherent_opened complete (openedFor_of_opens host opens)
  | failed fault after complete opening =>
    exact coherent_of_handles_nil endpoint.handles_down after
  | disarmed after complete serial =>
    exact coherent_of_handles_nil (handles_disarmed serial) after

theorem Coherent.reopenIfChanged (host : Host σ) {before after : Endpoint}
    {ledger ledger' : Ledger σ} (coherent : before.Coherent ledger) (grown : ledger.Extends ledger')
    (changed : before.Retuned after) :
    (before.reopenIfChanged host.ledger after ledger').state.Coherent
      (before.reopenIfChanged host.ledger after ledger').host := by
  unfold Endpoint.reopenIfChanged
  by_cases settled : before.isUp = false ∨ after.identity = before.identity
  · rw [if_pos settled]
    rcases settled with down | same
    · apply coherent_of_handles_nil
      rw [changed.handles_eq]
      exact coherent.handles_eq_nil down
    · exact (coherent.retuned changed same).mono grown
  · rw [if_neg settled]
    dsimp only
    rw [disconnect_fst]
    split
    · next configured => exact coherent_bringUp host _ configured
    · exact coherent_of_handles_nil after.handles_down _

private theorem Coherent.accept (host : Host σ) {l : Listener} {ledger : Ledger σ}
    (coherent : (listener l).Coherent ledger) :
    (listener (l.accept host.ledger ledger).state).Coherent (l.accept host.ledger ledger).host := by
  rcases host.keeps_extends.acceptClient_cases l ledger with kept | taken
  · rw [kept]
    exact coherent.mono (host.keeps_extends.acceptClient l ledger)
  · obtain ⟨socket, h, between, listening, taken, grown, state_eq⟩ := taken
    have later := coherent.mono (host.keeps_extends.acceptClient l ledger)
    rw [state_eq]
    refine ⟨later.configured, later.opened, ?_, ?_⟩
    · intro l' is_listener client held
      cases is_listener
      cases held
      exact ⟨socket, listening, grown.opening?_eq (Ledger.opening?_of_enter taken)⟩
    · intro line is_line
      cases is_line

private theorem Coherent.tunes {host : Host σ} {endpoint after : Endpoint}
    {ledger ledger' : Ledger σ} (coherent : endpoint.Coherent ledger)
    (tunes : endpoint.Tunes host.ledger ledger after ledger') :
    after.Coherent ledger' := by
  cases tunes with
  | @settled settings after between changed =>
    have retuned := retuned_applySettings host.ledger settings endpoint ledger
    have grown := host.keeps_extends.applySettings settings endpoint ledger
    rw [changed] at retuned grown
    exact coherent.reopenIfChanged host grown retuned
  | blocking mode =>
    have later := coherent.mono (host.keeps_extends.setEndpointBlocking endpoint mode ledger)
    rw [setBlocking_fst]
    exact later.retuned (endpoint.retuned_withBlocking mode) (endpoint.identity_withBlocking mode)

/-- Every step keeps an endpoint coherent. -/
theorem Coherent.steps {host : Host σ} {endpoint after : Endpoint} {ledger ledger' : Ledger σ}
    (coherent : endpoint.Coherent ledger)
    (steps : endpoint.Steps host.ledger ledger after ledger') :
    after.Coherent ledger' := by
  have later := coherent.mono (host.keeps_extends.steps steps)
  cases steps with
  | tuned tunes => exact coherent.tunes tunes
  | broughtUp configured => exact coherent_bringUp host ledger configured
  | disconnected =>
    rw [disconnect_fst]
    exact coherent_of_handles_nil endpoint.handles_down _
  | wrote bytes =>
    exact endpoint.state_write_of (P := (·.Coherent _)) host.ledger bytes ledger later later.cut
  | received room =>
    exact endpoint.state_read_of (P := (·.Coherent _)) host.ledger room ledger later later.cut
  | accepted l same =>
    rw [same] at coherent
    exact coherent.accept host
  | dropped l same =>
    rw [same] at later
    exact later.cut
  | broke line same milliseconds => exact later

end Endpoint

end InstrumentLink
