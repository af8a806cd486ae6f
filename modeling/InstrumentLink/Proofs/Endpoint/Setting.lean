import InstrumentLink.Link
import InstrumentLink.Proofs.Endpoint.Transition

namespace InstrumentLink

variable {σ : Type}

/-- A call of a setter that only lines have. -/
inductive LineSetting
  | baudRate (baudRate : UInt32)
  | parity (parity : Parity)
  | dataBits (dataBits : DataBits)
  | stopBits (stopBits : StopBits)
  | flowControl (flowControl : FlowControl)

/-- Calls a setter on a line. -/
def LineSetting.apply : LineSetting → SerialLine → SerialLine
  | .baudRate rate, line => (line.setBaudRate rate).2
  | .parity choice, line => line.setParity choice
  | .dataBits count, line => line.setDataBits count
  | .stopBits count, line => line.setStopBits count
  | .flowControl choice, line => line.setFlowControl choice

private theorem LineSetting.exists_apply_eq (setting : LineSetting) (line : SerialLine) :
    ∃ settings, setting.apply line = { line with settings } := by
  cases setting with
  | baudRate baudRate =>
    simp only [apply, SerialLine.setBaudRate]
    split
    · exact ⟨_, rfl⟩
    · exact ⟨line.settings, rfl⟩
  | parity parity => exact ⟨_, rfl⟩
  | dataBits dataBits => exact ⟨_, rfl⟩
  | stopBits stopBits => exact ⟨_, rfl⟩
  | flowControl flowControl => exact ⟨_, rfl⟩

/-- A call of a setter. -/
inductive Setting
  | hostname (hostname : String)
  | port (port : UInt16)
  | noPort
  | devicePath (devicePath : String)
  | line (setting : LineSetting)
  | blocking (blocking : Bool)

/-- Calls a setter on an endpoint. An endpoint of a kind without the setter stays as it is. -/
def Setting.apply (host : Host σ) (setting : Setting) (endpoint : Endpoint) (os : σ) :
    Endpoint × σ :=
  match setting, endpoint with
  | .hostname name, endpoint => (endpoint.setHostname name, os)
  | .port number, .tcpClient client => (.tcpClient (client.setPort number), os)
  | .port number, .udpClient client => (.udpClient (client.setPort number), os)
  | .port number, .listener l => (.listener (l.setPort number), os)
  | .noPort, .listener l => (.listener l.clearPort, os)
  | .devicePath path, endpoint => (endpoint.setDevicePath path, os)
  | .line change, .serialLine serial => (.serialLine (change.apply serial), os)
  | .blocking mode, endpoint => endpoint.setBlocking host mode os
  | _, endpoint => (endpoint, os)

/-- The blocking mode that a setter chooses. -/
def Setting.flag? : Setting → Option Bool
  | .blocking mode => some mode
  | _ => none

/-- Calls setters on an endpoint in order. -/
def applySettings (host : Host σ) : List Setting → Endpoint → σ → Endpoint × σ
  | [], endpoint, os => (endpoint, os)
  | setting :: rest, endpoint, os =>
      applySettings host rest (setting.apply host endpoint os).1 (setting.apply host endpoint os).2

namespace Endpoint

/-- An endpoint after some setters were called on it: everything but the settings and the blocking
mode is as before, and a line can only have been armed. -/
inductive Retuned : Endpoint → Endpoint → Prop
  | tcpClient (client : TcpClient) (settings : SocketSettings) (blocking : Bool) :
      Retuned (.tcpClient client) (.tcpClient { client with settings, blocking })
  | udpClient (client : UdpClient) (settings : SocketSettings) (blocking : Bool) :
      Retuned (.udpClient client) (.udpClient { client with settings, blocking })
  | listener (l : Listener) (port : Option UInt16) (blocking : Bool) :
      Retuned (.listener l) (.listener { l with port, blocking })
  | serialLine (line : SerialLine) (settings : LineSettings) (armed blocking : Bool)
      (stays : line.armed = true → armed = true) :
      Retuned (.serialLine line) (.serialLine { line with settings, armed, blocking })

theorem Retuned.refl (endpoint : Endpoint) : endpoint.Retuned endpoint := by
  cases endpoint with
  | tcpClient client => exact .tcpClient client client.settings client.blocking
  | udpClient client => exact .udpClient client client.settings client.blocking
  | listener l => exact .listener l l.port l.blocking
  | serialLine line => exact .serialLine line line.settings line.armed line.blocking id

theorem Retuned.trans {first second third : Endpoint} (changed : first.Retuned second)
    (again : second.Retuned third) : first.Retuned third := by
  cases changed with
  | tcpClient client settings blocking =>
    cases again with
    | tcpClient _ settings' blocking' => exact .tcpClient client settings' blocking'
  | udpClient client settings blocking =>
    cases again with
    | udpClient _ settings' blocking' => exact .udpClient client settings' blocking'
  | listener l port blocking =>
    cases again with
    | listener _ port' blocking' => exact .listener l port' blocking'
  | serialLine line settings armed blocking stays =>
    cases again with
    | serialLine _ settings' armed' blocking' stays' =>
      exact .serialLine line settings' armed' blocking' fun h => stays' (stays h)

theorem retuned_withBlocking (endpoint : Endpoint) (blocking : Bool) :
    endpoint.Retuned (endpoint.withBlocking blocking) := by
  cases endpoint with
  | tcpClient client => exact .tcpClient client client.settings blocking
  | udpClient client => exact .udpClient client client.settings blocking
  | listener l => exact .listener l l.port blocking
  | serialLine line => exact .serialLine line line.settings line.armed blocking id

theorem retuned_setHostname (endpoint : Endpoint) (hostname : String) :
    endpoint.Retuned (endpoint.setHostname hostname) := by
  cases endpoint with
  | tcpClient client => exact .tcpClient client _ client.blocking
  | udpClient client => exact .udpClient client _ client.blocking
  | listener l => exact Retuned.refl _
  | serialLine line => exact Retuned.refl _

theorem retuned_setPort (endpoint : Endpoint) (role : Role) (port : UInt16) :
    endpoint.Retuned (endpoint.setPort role port) := by
  cases endpoint with
  | tcpClient client => exact .tcpClient client _ client.blocking
  | udpClient client => exact .udpClient client _ client.blocking
  | listener l =>
    rw [setPort]
    split
    · exact .listener l none l.blocking
    · exact .listener l (some port) l.blocking
  | serialLine line => exact Retuned.refl _

theorem retuned_setDevicePath (endpoint : Endpoint) (devicePath : String) :
    endpoint.Retuned (endpoint.setDevicePath devicePath) := by
  cases endpoint with
  | serialLine line => exact .serialLine line _ true line.blocking fun _ => rfl
  | _ => exact Retuned.refl _

theorem retuned_line (setting : LineSetting) (line : SerialLine) :
    Retuned (.serialLine line) (.serialLine (setting.apply line)) := by
  obtain ⟨settings, apply_eq⟩ := setting.exists_apply_eq line
  rw [apply_eq]
  exact .serialLine line settings line.armed line.blocking id

theorem retuned_apply (host : Host σ) (setting : Setting) (endpoint : Endpoint) (os : σ) :
    endpoint.Retuned (setting.apply host endpoint os).1 := by
  cases setting with
  | hostname hostname => exact endpoint.retuned_setHostname hostname
  | devicePath devicePath => exact endpoint.retuned_setDevicePath devicePath
  | blocking blocking =>
    simp only [Setting.apply, setBlocking_fst]
    exact endpoint.retuned_withBlocking blocking
  | port port =>
    cases endpoint with
    | tcpClient client => exact .tcpClient client _ client.blocking
    | udpClient client => exact .udpClient client _ client.blocking
    | listener l => exact .listener l (some port) l.blocking
    | serialLine line => exact Retuned.refl _
  | noPort =>
    cases endpoint with
    | listener l => exact .listener l none l.blocking
    | _ => exact Retuned.refl _
  | line setting =>
    cases endpoint with
    | serialLine line => exact retuned_line setting line
    | _ => exact Retuned.refl _

theorem retuned_applySettings (host : Host σ) (settings : List Setting) (endpoint : Endpoint)
    (os : σ) : endpoint.Retuned (applySettings host settings endpoint os).1 := by
  induction settings generalizing endpoint os with
  | nil => exact Retuned.refl endpoint
  | cons setting rest ih => exact (retuned_apply host setting endpoint os).trans (ih _ _)

theorem blocking_apply (host : Host σ) (setting : Setting) (endpoint : Endpoint) (os : σ) :
    (setting.apply host endpoint os).1.blocking = setting.flag?.getD endpoint.blocking := by
  cases setting with
  | line setting =>
    cases endpoint with
    | serialLine line =>
      obtain ⟨settings, apply_eq⟩ := setting.exists_apply_eq line
      simp only [Setting.apply, apply_eq]
      rfl
    | _ => rfl
  | _ => cases endpoint <;> rfl

theorem exists_settings_setPort (host : Host σ) (endpoint : Endpoint) (role : Role) (port : UInt16)
    (os : σ) : ∃ settings,
      applySettings host settings endpoint os = (endpoint.setPort role port, os) ∧
      ∀ setting ∈ settings, setting.flag? = none := by
  cases endpoint with
  | tcpClient client => exact ⟨[.port port], rfl, by simp [Setting.flag?]⟩
  | udpClient client => exact ⟨[.port port], rfl, by simp [Setting.flag?]⟩
  | listener l =>
    by_cases closes : port = 0 ∧ role = .command
    · exact ⟨[.noPort], by simp [applySettings, Setting.apply, setPort, closes],
        by simp [Setting.flag?]⟩
    · exact ⟨[.port port], by simp [applySettings, Setting.apply, setPort, closes],
        by simp [Setting.flag?]⟩
  | serialLine line => exact ⟨[], rfl, by simp⟩

theorem setBlocking_of_bare (host : Host σ) {endpoint : Endpoint} (bare : endpoint.handles = [])
    (blocking : Bool) (os : σ) :
    endpoint.setBlocking host blocking os = (endpoint.withBlocking blocking, os) := by
  cases endpoint with
  | tcpClient client =>
    have none_open : client.stream = none := Option.toList_eq_nil_iff.mp bare
    simp [setBlocking, TcpClient.setBlocking, withBlocking, none_open, Host.setHeldBlocking]
  | udpClient client =>
    have none_open : client.socket = none := Option.toList_eq_nil_iff.mp bare
    simp [setBlocking, UdpClient.setBlocking, withBlocking, none_open, Host.setHeldBlocking]
  | listener l =>
    obtain ⟨no_socket, no_client⟩ := List.append_eq_nil_iff.mp bare
    rw [Option.toList_eq_nil_iff] at no_socket no_client
    simp [setBlocking, Listener.setBlocking, withBlocking, no_socket, no_client,
      Host.setHeldBlocking]
  | serialLine line =>
    have none_open : line.port = none := Option.toList_eq_nil_iff.mp bare
    simp [setBlocking, SerialLine.setBlocking, withBlocking, none_open, Host.setHeldTimeout]

namespace Retuned

variable {before after : Endpoint} (retuned : before.Retuned after)

include retuned

theorem kind_eq : after.kind = before.kind := by
  cases retuned <;> rfl

theorem isUp_eq : after.isUp = before.isUp := by
  cases retuned <;> rfl

theorem handles_eq : after.handles = before.handles := by
  cases retuned <;> rfl

theorem isConfigured_of_identity_eq (same : after.identity = before.identity)
    (configured : before.isConfigured = true) : after.isConfigured = true := by
  cases retuned with
  | tcpClient client settings blocking =>
    have settings_eq : settings = client.settings := Identity.tcpClient.inj same
    rw [settings_eq]
    exact configured
  | udpClient client settings blocking =>
    have settings_eq : settings = client.settings := Identity.udpClient.inj same
    rw [settings_eq]
    exact configured
  | listener l port blocking =>
    have port_eq : port = l.port := Identity.listener.inj same
    rw [port_eq]
    exact configured
  | serialLine line settings armed blocking stays =>
    have settings_eq : settings = line.settings := Identity.serialLine.inj same
    simp only [isConfigured, SerialLine.isConfigured, Bool.and_eq_true] at configured ⊢
    rw [settings_eq]
    exact ⟨stays configured.1, configured.2⟩

end Retuned

end Endpoint

end InstrumentLink
