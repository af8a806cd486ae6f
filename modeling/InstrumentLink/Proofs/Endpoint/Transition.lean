import InstrumentLink.Proofs.Endpoint.Receive

namespace InstrumentLink

variable {σ : Type}

/-- Whether a fault says that a resource could not be opened. -/
def Fault.IsOpening (fault : Fault) : Prop :=
  ∃ detail, fault = .hostResolution detail ∨ fault = .connectFailure detail

private theorem Fault.isOpening_ofConnect (e : IoError) : (Fault.ofConnect e).IsOpening :=
  ⟨e.text, Or.inr rfl⟩

theorem SocketSettings.detail_of_missing {settings : SocketSettings} {fault : Fault}
    (missing : settings.missing? = some fault) :
    ∃ detail, fault = .missingConfiguration detail := by
  unfold missing? at missing
  split at missing
  · exact ⟨_, (Option.some.inj missing).symm⟩
  · split at missing
    · exact ⟨_, (Option.some.inj missing).symm⟩
    · cases missing

private theorem SocketSettings.isConfigured_eq_false_of_missing {settings : SocketSettings}
    {fault : Fault} (missing : settings.missing? = some fault) : settings.isConfigured = false := by
  cases configured : settings.isConfigured with
  | false => rfl
  | true =>
    have present := settings.missing?_eq_none_iff.mpr configured
    rw [present] at missing
    cases missing

private theorem SocketSettings.isOpening_of_resolve {host : Host σ} {settings : SocketSettings}
    {os os' : σ} {fault : Fault} (failed : settings.resolve host os = (.error fault, os')) :
    fault.IsOpening := by
  unfold resolve at failed
  split at failed
  · cases failed
    exact ⟨_, Or.inl rfl⟩
  · cases failed
    exact ⟨_, Or.inl rfl⟩
  · cases failed

theorem SocketSettings.isOpening_of_destination {host : Host σ} {settings : SocketSettings}
    {os os' : σ} {fault : Fault}
    (failed : settings.destination host os = (.error fault, os')) : fault.IsOpening := by
  unfold destination at failed
  split at failed
  · next resolved =>
    cases failed
    exact isOpening_of_resolve resolved
  · split at failed
    · cases failed
    · cases failed
      exact ⟨_, Or.inl rfl⟩

private theorem TcpClient.isOpening_of_openStream {host : Host σ} {settings : SocketSettings}
    {blocking : Bool} {os os' : σ} {fault : Fault}
    (failed : openStream host settings blocking os = (.error fault, os')) : fault.IsOpening := by
  unfold openStream at failed
  split at failed
  · next resolved =>
    cases failed
    exact SocketSettings.isOpening_of_resolve resolved
  · split at failed
    · cases failed
    · cases failed
      exact Fault.isOpening_ofConnect _

private theorem UdpClient.isOpening_of_openSocket {host : Host σ} {settings : SocketSettings}
    {blocking : Bool} {os os' : σ} {fault : Fault}
    (failed : openSocket host settings blocking os = (.error fault, os')) : fault.IsOpening := by
  unfold openSocket at failed
  split at failed
  · next looked_up =>
    cases failed
    exact SocketSettings.isOpening_of_destination looked_up
  · split at failed
    · cases failed
    · cases failed
      exact Fault.isOpening_ofConnect _

namespace Endpoint

/-- The endpoint with its handles given up. -/
def down : Endpoint → Endpoint
  | tcpClient client => .tcpClient { client with stream := none }
  | udpClient client => .udpClient { client with socket := none }
  | listener l => .listener { l with socket := none, client := none }
  | serialLine line => .serialLine { line with port := none }

/-- The endpoint with a handle that has just been opened for it. -/
def opened (h : Handle) : Endpoint → Endpoint
  | tcpClient client => .tcpClient { client with stream := some h }
  | udpClient client => .udpClient { client with socket := some h }
  | listener l => .listener { l with socket := some h, client := none }
  | serialLine line =>
      .serialLine { line with applied := some line.settings, port := some h, armed := true }

/-- The endpoint after its device could not be opened. -/
def disarmed : Endpoint → Endpoint
  | serialLine line => .serialLine { line with port := none, armed := false }
  | other => other.down

/-- The endpoint without the handle that carries data. -/
def cut : Endpoint → Endpoint
  | tcpClient client => .tcpClient { client with stream := none }
  | udpClient client => .udpClient { client with socket := none }
  | listener l => .listener { l with client := none }
  | serialLine line => .serialLine { line with port := none }

/-- The endpoint with another blocking mode. -/
def withBlocking (blocking : Bool) : Endpoint → Endpoint
  | tcpClient client => .tcpClient { client with blocking }
  | udpClient client => .udpClient { client with blocking }
  | listener l => .listener { l with blocking }
  | serialLine line => .serialLine { line with blocking }

/-- Whether every field is present that bringing the endpoint up asks for. A serial line that was
disarmed can still be complete. -/
def isComplete : Endpoint → Bool
  | tcpClient client => client.isConfigured
  | udpClient client => client.isConfigured
  | listener l => l.isConfigured
  | serialLine line => line.settings.devicePath ≠ ""

theorem isComplete_of_isConfigured {endpoint : Endpoint} (h : endpoint.isConfigured = true) :
    endpoint.isComplete = true := by
  cases endpoint with
  | tcpClient client => exact h
  | udpClient client => exact h
  | listener l => exact h
  | serialLine line =>
    simp only [isConfigured, SerialLine.isConfigured, Bool.and_eq_true] at h
    exact h.2

@[simp] theorem identity_down (endpoint : Endpoint) :
    endpoint.down.identity = endpoint.identity := by
  cases endpoint <;> rfl

theorem handles_down (endpoint : Endpoint) : endpoint.down.handles = [] := by
  cases endpoint <;> rfl

theorem isUp_eq_false_of_handles_eq_nil {endpoint : Endpoint} (bare : endpoint.handles = []) :
    endpoint.isUp = false := by
  cases endpoint with
  | tcpClient client => simp_all [handles, isUp, TcpClient.isConnected]
  | udpClient client => simp_all [handles, isUp, UdpClient.isConnected]
  | listener l => simp_all [handles, isUp, Listener.isListening]
  | serialLine line => simp_all [handles, isUp, SerialLine.isConnected]

@[simp] theorem isUp_down (endpoint : Endpoint) : endpoint.down.isUp = false := by
  cases endpoint <;> rfl

@[simp] theorem isConfigured_down (endpoint : Endpoint) :
    endpoint.down.isConfigured = endpoint.isConfigured := by
  cases endpoint <;> rfl

@[simp] theorem down_down (endpoint : Endpoint) : endpoint.down.down = endpoint.down := by
  cases endpoint <;> rfl

@[simp] theorem identity_opened (endpoint : Endpoint) (h : Handle) :
    (endpoint.opened h).identity = endpoint.identity := by
  cases endpoint <;> rfl

@[simp] theorem isUp_opened (endpoint : Endpoint) (h : Handle) :
    (endpoint.opened h).isUp = true := by
  cases endpoint <;> rfl

theorem isConfigured_opened {endpoint : Endpoint} (h : Handle)
    (complete : endpoint.isComplete = true) : (endpoint.opened h).isConfigured = true := by
  cases endpoint with
  | tcpClient client => exact complete
  | udpClient client => exact complete
  | listener l => exact complete
  | serialLine line => exact complete

@[simp] theorem identity_disarmed (endpoint : Endpoint) :
    endpoint.disarmed.identity = endpoint.identity := by
  cases endpoint <;> rfl

theorem handles_disarmed {endpoint : Endpoint} (serial : endpoint.kind = .serialLine) :
    endpoint.disarmed.handles = [] := by
  cases endpoint with
  | serialLine line => rfl
  | _ => cases serial

theorem isConfigured_disarmed {endpoint : Endpoint} (serial : endpoint.kind = .serialLine) :
    endpoint.disarmed.isConfigured = false := by
  cases endpoint with
  | serialLine line => rfl
  | _ => cases serial

@[simp] theorem identity_withBlocking (endpoint : Endpoint) (blocking : Bool) :
    (endpoint.withBlocking blocking).identity = endpoint.identity := by
  cases endpoint <;> rfl

theorem kind_eq (endpoint : Endpoint) : endpoint.kind = endpoint.identity.kind := by
  cases endpoint <;> rfl

/-- A request of the endpoint's kind, with its configuration, gives it a handle. -/
def Opens (host : Host σ) (endpoint : Endpoint) (os : σ) (h : Handle) (os' : σ) : Prop :=
  match endpoint with
  | tcpClient client =>
      TcpClient.openStream host client.settings client.blocking os = (.ok h, os')
  | udpClient client =>
      UdpClient.openSocket host client.settings client.blocking os = (.ok h, os')
  | listener l =>
      ∃ port, l.port = some port ∧
        host.withMode l.blocking (host.listen port os) = (.ok h, os')
  | serialLine line => host.openLine line.settings line.timeout os = (.ok h, os')

/-- What bringing an endpoint up can lead to. -/
inductive BroughtUp (host : Host σ) (endpoint : Endpoint) (os : σ) :
    Outcome σ Endpoint Bool → Prop
  /-- A field is missing, and nothing happens. -/
  | refused (detail : String) (lacking : endpoint.isComplete = false) :
      BroughtUp host endpoint os ⟨.error (.missingConfiguration detail), endpoint, os⟩
  | opened (h : Handle) (before after : σ) (complete : endpoint.isComplete = true)
      (opens : endpoint.Opens host before h after) :
      BroughtUp host endpoint os ⟨.ok true, endpoint.opened h, after⟩
  | failed (fault : Fault) (after : σ) (complete : endpoint.isComplete = true)
      (opening : fault.IsOpening) :
      BroughtUp host endpoint os ⟨.error fault, endpoint.down, after⟩
  /-- A device could not be opened. -/
  | disarmed (after : σ) (complete : endpoint.isComplete = true)
      (serial : endpoint.kind = .serialLine) :
      BroughtUp host endpoint os ⟨.ok false, endpoint.disarmed, after⟩

private theorem broughtUp_tcpClient (host : Host σ) (client : TcpClient) (os : σ) :
    BroughtUp host (.tcpClient client) os ((client.bringUp host os).inState tcpClient) := by
  unfold TcpClient.bringUp
  split
  · next fault missing =>
    obtain ⟨detail, rfl⟩ := SocketSettings.detail_of_missing missing
    exact .refused detail (SocketSettings.isConfigured_eq_false_of_missing missing)
  · next present =>
    have complete := (SocketSettings.missing?_eq_none_iff _).mp present
    dsimp only [TcpClient.disconnect]
    split
    · next h os' connected => exact .opened h _ os' complete connected
    · next fault os' failed =>
      exact .failed fault os' complete (TcpClient.isOpening_of_openStream failed)

private theorem broughtUp_udpClient (host : Host σ) (client : UdpClient) (os : σ) :
    BroughtUp host (.udpClient client) os ((client.bringUp host os).inState udpClient) := by
  unfold UdpClient.bringUp
  split
  · next fault missing =>
    obtain ⟨detail, rfl⟩ := SocketSettings.detail_of_missing missing
    exact .refused detail (SocketSettings.isConfigured_eq_false_of_missing missing)
  · next present =>
    have complete := (SocketSettings.missing?_eq_none_iff _).mp present
    dsimp only [UdpClient.disconnect]
    split
    · next h os' bound => exact .opened h _ os' complete bound
    · next fault os' failed =>
      exact .failed fault os' complete (UdpClient.isOpening_of_openSocket failed)

private theorem broughtUp_listener (host : Host σ) (l : Listener) (os : σ) :
    BroughtUp host (.listener l) os ((l.bringUp host os).inState listener) := by
  unfold Listener.bringUp
  split
  · next missing =>
    exact .refused _ (by simp [isComplete, Listener.isConfigured, missing])
  · next port present =>
    have complete : (Endpoint.listener l).isComplete = true := by
      simp [isComplete, Listener.isConfigured, present]
    dsimp only [Listener.disconnect, Listener.disconnectClient]
    split
    · next e os' failed => exact .failed _ os' complete (Fault.isOpening_ofConnect e)
    · next h os' listening =>
      split
      · exact .failed _ _ complete ⟨_, Or.inr rfl⟩
      · exact .opened h _ os' complete ⟨port, present, listening⟩

private theorem broughtUp_serialLine (host : Host σ) (line : SerialLine) (os : σ) :
    BroughtUp host (.serialLine line) os ((line.bringUp host os).inState serialLine) := by
  unfold SerialLine.bringUp
  split
  · next missing => exact .refused _ (by simp [isComplete, missing])
  · next present =>
    have complete : (Endpoint.serialLine line).isComplete = true := by
      simpa [isComplete] using present
    dsimp only [SerialLine.disconnect]
    split
    · next h os' opened => exact .opened h _ os' complete opened
    · next e os' failed => exact .disarmed os' complete rfl

/-- Bringing an endpoint up leads to one of four outcomes. -/
theorem broughtUp (host : Host σ) (endpoint : Endpoint) (os : σ) :
    BroughtUp host endpoint os (endpoint.bringUp host os) := by
  cases endpoint with
  | tcpClient client => exact broughtUp_tcpClient host client os
  | udpClient client => exact broughtUp_udpClient host client os
  | listener l => exact broughtUp_listener host l os
  | serialLine line => exact broughtUp_serialLine host line os

@[simp] theorem identity_bringUp (host : Host σ) (endpoint : Endpoint) (os : σ) :
    (endpoint.bringUp host os).state.identity = endpoint.identity := by
  have led := endpoint.broughtUp host os
  generalize endpoint.bringUp host os = outcome at led
  cases led with
  | refused detail lacking => rfl
  | opened h before after complete opens => exact endpoint.identity_opened h
  | failed fault after complete opening => exact endpoint.identity_down
  | disarmed after complete serial => exact endpoint.identity_disarmed

theorem disconnect_fst (host : Host σ) (endpoint : Endpoint) (os : σ) :
    (endpoint.disconnect host os).1 = endpoint.down := by
  cases endpoint <;> rfl

theorem setBlocking_fst (host : Host σ) (endpoint : Endpoint) (blocking : Bool) (os : σ) :
    (endpoint.setBlocking host blocking os).1 = endpoint.withBlocking blocking := by
  cases endpoint <;> rfl

theorem state_write (host : Host σ) (endpoint : Endpoint) (bytes : ByteArray) (os : σ) :
    (endpoint.write host bytes os).state = endpoint ∨
      (endpoint.write host bytes os).state = endpoint.cut := by
  cases endpoint with
  | tcpClient client =>
    rcases host.toChannels.state_writeFully client.stream bytes os with kept | lost
    · left; simp [write, TcpClient.write, kept]
    · right; simp [write, TcpClient.write, lost, cut]
  | udpClient client =>
    simp only [write, UdpClient.write, Outcome.state_inState]
    split
    · exact Or.inl rfl
    · exact Or.inl rfl
    · split
      · exact Or.inl rfl
      · split
        · exact Or.inl rfl
        · split
          · exact Or.inl rfl
          · exact Or.inr rfl
  | listener l =>
    simp only [write, Listener.write, Outcome.state_inState]
    split
    · exact Or.inl rfl
    · rcases host.toChannels.state_writeFully l.client bytes os with kept | lost
      · left; simp [kept]
      · right; simp [lost, cut]
  | serialLine line =>
    rcases host.toChannels.state_writeFully line.port bytes os with kept | lost
    · left; simp [write, SerialLine.write, kept]
    · right; simp [write, SerialLine.write, lost, cut]

theorem state_read (host : Host σ) (endpoint : Endpoint) (room : Nat) (os : σ) :
    (endpoint.read host room os).state = endpoint ∨
      (endpoint.read host room os).state = endpoint.cut := by
  cases endpoint with
  | tcpClient client =>
    simp only [read, TcpClient.read_eq_receive, Outcome.state_inState]
    rcases host.state_receive .write client.stream room os with kept | lost
    · left; rw [kept]
    · right; simp [lost, cut]
  | udpClient client => exact Or.inl rfl
  | listener l =>
    cases ready : l.noClient? with
    | some fault => left; simp [read, Listener.read, ready]
    | none =>
      simp only [read, Listener.read_eq_receive host ready, Outcome.state_inState]
      rcases host.state_receive .both l.client room os with kept | lost
      · left; rw [kept]
      · right; simp [lost, cut]
  | serialLine line =>
    have state_eq : (line.read host room os).state =
        { line with port := (host.readOnce line.port room os).state } := by
      simp only [SerialLine.read]
      split <;> rfl
    rcases host.toChannels.state_readOnce line.port room os with kept | lost
    · left; simp [read, state_eq, kept]
    · right; simp [read, state_eq, lost, cut]

/-- What holds of an endpoint with and without the handle that carries data holds after a write. -/
theorem state_write_of {P : Endpoint → Prop} (host : Host σ) (endpoint : Endpoint)
    (bytes : ByteArray) (os : σ) (whole : P endpoint) (lost : P endpoint.cut) :
    P (endpoint.write host bytes os).state := by
  rcases endpoint.state_write host bytes os with kept | cut
  · rw [kept]
    exact whole
  · rw [cut]
    exact lost

theorem state_read_of {P : Endpoint → Prop} (host : Host σ) (endpoint : Endpoint) (room : Nat)
    (os : σ) (whole : P endpoint) (lost : P endpoint.cut) :
    P (endpoint.read host room os).state := by
  rcases endpoint.state_read host room os with kept | cut
  · rw [kept]
    exact whole
  · rw [cut]
    exact lost

end Endpoint

end InstrumentLink
