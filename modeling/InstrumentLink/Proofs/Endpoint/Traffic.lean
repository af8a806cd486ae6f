import InstrumentLink.Proofs.Endpoint.SingleClient

namespace InstrumentLink

variable {σ : Type}

theorem Outcome.inState_inState {ε ε' ε'' α : Type} (outcome : Outcome σ ε α) (f : ε → ε')
    (g : ε' → ε'') : (outcome.inState f).inState g = outcome.inState fun state => g (f state) := rfl

/-- Whether a fault says that bytes could not be moved. -/
def Fault.IsTransfer (fault : Fault) : Prop :=
  ∃ detail, fault = .readFailure detail ∨ fault = .writeFailure detail

theorem Fault.isTransfer_ofWrite (e : IoError) : (Fault.ofWrite e).IsTransfer :=
  ⟨e.text, Or.inr rfl⟩

theorem Fault.IsOpening.not_isTransfer {fault : Fault} (opening : fault.IsOpening) :
    ¬ fault.IsTransfer := by
  obtain ⟨detail, rfl | rfl⟩ := opening
  · rintro ⟨other, same | same⟩ <;> cases same
  · rintro ⟨other, same | same⟩ <;> cases same

theorem Fault.not_isTransfer_missingConfiguration (detail : String) :
    ¬ (Fault.missingConfiguration detail).IsTransfer := by
  rintro ⟨other, same | same⟩ <;> cases same

private theorem Listener.not_isTransfer_of_noClient {l : Listener} {fault : Fault}
    (refused : l.noClient? = some fault) : ¬ fault.IsTransfer := by
  unfold noClient? at refused
  rintro ⟨detail, rfl | rfl⟩
  · split at refused
    · cases refused
    · split at refused <;> cases refused
  · split at refused
    · cases refused
    · split at refused <;> cases refused

private theorem Channels.writeFully_some (channels : Channels σ) (h : Handle) (bytes : ByteArray)
    (os : σ) :
    (∃ sent os', channels.writeFully (some h) bytes os = ⟨.ok sent, some h, os'⟩) ∨
      ∃ e os', ((channels.stream h).writeAll bytes 0 os).1 = .error e ∧
        channels.writeFully (some h) bytes os = ⟨.error (.ofWrite e), none, os'⟩ := by
  cases attempt : (channels.stream h).writeAll bytes 0 os with
  | mk answer os' =>
    cases answer with
    | ok sent => exact Or.inl ⟨sent, os', by simp only [writeFully, attempt]⟩
    | error e => exact Or.inr ⟨e, channels.close h os', rfl, by simp only [writeFully, attempt]⟩

/-- What an attempt to read through a handle can lead to. -/
inductive Channels.Attempted (channels : Channels σ) (h : Handle) (room : Nat) (os : σ) :
    Outcome σ (Option Handle) Reading → Prop
  | data {bytes : ByteArray} (os' : σ) (given : ((channels.stream h).read room os).1 = .ok bytes)
      (goes_on : bytes.size = 0 → room = 0) :
      Attempted channels h room os ⟨.ok (.data bytes), some h, os'⟩
  | wouldBlock {e : IoError} (os' : σ) (failed : ((channels.stream h).read room os).1 = .error e) :
      Attempted channels h room os ⟨.ok .wouldBlock, some h, os'⟩
  | closed {bytes : ByteArray} (os' : σ) (given : ((channels.stream h).read room os).1 = .ok bytes)
      (nothing : bytes.size = 0) (asked : room ≠ 0) :
      Attempted channels h room os ⟨.ok .closed, some h, os'⟩
  | failed {e : IoError} (os' : σ) (failed : ((channels.stream h).read room os).1 = .error e) :
      Attempted channels h room os ⟨.error (.ofRead e), none, os'⟩

private theorem Channels.attempted (channels : Channels σ) (h : Handle) (room : Nat) (os : σ) :
    channels.Attempted h room os (channels.readOnce (some h) room os) := by
  cases attempt : (channels.stream h).read room os with
  | mk answer os' =>
    have answered : ((channels.stream h).read room os).1 = answer := by rw [attempt]
    simp only [readOnce, attempt]
    cases answer with
    | ok bytes =>
      dsimp only
      split
      · next ends => exact .closed os' answered ends.1 ends.2
      · next goes_on => exact .data os' answered (by omega)
    | error e =>
      dsimp only
      split
      · exact .wouldBlock os' answered
      · exact .failed _ answered

namespace Endpoint

/-- The handle of the byte stream that an endpoint reads and writes. A listener uses that of its
client unless it refuses to; a datagram socket is not a stream. -/
def stream? : Endpoint → Option Handle
  | tcpClient client => client.stream
  | udpClient _ => none
  | listener l => if l.noClient? = none then l.client else none
  | serialLine line => line.port

/-- Whether bytes of a size make a datagram that no socket takes. -/
def Oversizes (endpoint : Endpoint) (bytes : ByteArray) : Prop :=
  endpoint.kind = .udpClient ∧ endpoint.isConfigured = true ∧ endpoint.isConnected = true ∧
    maxDatagramSize < bytes.size

/-- The host fails to take the bytes of a write. -/
def WriteBreaks (host : Host σ) (endpoint : Endpoint) (bytes : ByteArray) (os : σ) (e : IoError) :
    Prop :=
  (∃ h, endpoint.stream? = some h ∧ ((host.stream h).writeAll bytes 0 os).1 = .error e) ∨
    ∃ client h address os', endpoint = .udpClient client ∧ client.socket = some h ∧
      bytes.size ≤ maxDatagramSize ∧
      client.settings.destination host os = (.ok address, os') ∧
      (host.sendTo h bytes address os').1 = .error e

/-- The host fails to give bytes to a read. -/
def ReadBreaks (host : Host σ) (endpoint : Endpoint) (room : Nat) (os : σ) (e : IoError) : Prop :=
  ∃ h, endpoint.stream? = some h ∧ ((host.stream h).read room os).1 = .error e

/-- A connection answers a read with no bytes though there is room for some. Nothing of the kind
ends a serial line. -/
def SeesEnd (host : Host σ) (endpoint : Endpoint) (room : Nat) (os : σ) : Prop :=
  (endpoint.kind = .tcpClient ∨ endpoint.kind = .listener) ∧
    ∃ h bytes, endpoint.stream? = some h ∧ ((host.stream h).read room os).1 = .ok bytes ∧
      bytes.size = 0 ∧ room ≠ 0

/-- What a write can lead to. -/
inductive Written (host : Host σ) (endpoint : Endpoint) (bytes : ByteArray) (os : σ) :
    Outcome σ Endpoint Nat → Prop
  | sent (count : Nat) (os' : σ) (connected : endpoint.isConnected = true) :
      Written host endpoint bytes os ⟨.ok count, endpoint, os'⟩
  | unconnected (fault : Fault) (lost : endpoint.isConnected = false) :
      Written host endpoint bytes os ⟨.error fault, endpoint, os⟩
  /-- The call is not one that the endpoint can make as it is set up. -/
  | refused (fault : Fault) (other : ¬ fault.IsTransfer) :
      Written host endpoint bytes os ⟨.error fault, endpoint, os⟩
  | oversized (large : endpoint.Oversizes bytes) :
      Written host endpoint bytes os ⟨.error (.datagramTooLarge bytes.size), endpoint, os⟩
  | unresolved (fault : Fault) (os' : σ) (connected : endpoint.isConnected = true)
      (opening : fault.IsOpening) :
      Written host endpoint bytes os ⟨.error fault, endpoint, os'⟩
  | broken (e : IoError) (os' : σ) (connected : endpoint.isConnected = true)
      (breaks : endpoint.WriteBreaks host bytes os e) :
      Written host endpoint bytes os ⟨.error (.ofWrite e), endpoint.cut, os'⟩

/-- What a read can lead to. -/
inductive ReadFrom (host : Host σ) (endpoint : Endpoint) (room : Nat) (os : σ) :
    Outcome σ Endpoint ByteArray → Prop
  | given (bytes : ByteArray) (os' : σ) (connected : endpoint.isConnected = true)
      (goes_on : ¬ endpoint.SeesEnd host room os) :
      ReadFrom host endpoint room os ⟨.ok bytes, endpoint, os'⟩
  | unconnected (fault : Fault) (lost : endpoint.isConnected = false) :
      ReadFrom host endpoint room os ⟨.error fault, endpoint, os⟩
  | refused (fault : Fault) (other : ¬ fault.IsTransfer) (idle : endpoint.stream? = none) :
      ReadFrom host endpoint room os ⟨.error fault, endpoint, os⟩
  | ended (os' : σ) (connected : endpoint.isConnected = true)
      (sees : endpoint.SeesEnd host room os) :
      ReadFrom host endpoint room os ⟨.ok ByteArray.empty, endpoint.cut, os'⟩
  | broken (e : IoError) (os' : σ) (connected : endpoint.isConnected = true)
      (breaks : endpoint.ReadBreaks host room os e) :
      ReadFrom host endpoint room os ⟨.error (.ofRead e), endpoint.cut, os'⟩

private theorem isConnected_of_stream? {endpoint : Endpoint} {h : Handle}
    (carried : endpoint.stream? = some h) : endpoint.isConnected = true := by
  cases endpoint with
  | tcpClient client => exact Option.isSome_iff_exists.mpr ⟨h, carried⟩
  | udpClient client => cases carried
  | listener l =>
    rw [stream?] at carried
    split at carried
    · exact Option.isSome_iff_exists.mpr ⟨h, carried⟩
    · cases carried
  | serialLine line => exact Option.isSome_iff_exists.mpr ⟨h, carried⟩

private theorem exists_stream?_of_ready {l : Listener} (ready : l.noClient? = none) :
    ∃ h, l.client = some h ∧ (listener l).stream? = some h := by
  obtain ⟨-, occupied⟩ := Listener.noClient?_eq_none_iff.mp ready
  obtain ⟨h, held⟩ := Option.isSome_iff_exists.mp occupied
  exact ⟨h, held, by rw [stream?, if_pos ready, held]⟩

private theorem not_seesEnd_of_stream? {host : Host σ} {endpoint : Endpoint} {h : Handle}
    {room : Nat} {os : σ} (carried : endpoint.stream? = some h)
    (goes_on : ∀ bytes, ((host.stream h).read room os).1 = .ok bytes → bytes.size = 0 → room = 0) :
    ¬ endpoint.SeesEnd host room os := by
  rintro ⟨-, h', bytes, carried', given, nothing, asked⟩
  rw [carried, Option.some.injEq] at carried'
  rw [← carried'] at given
  exact asked (goes_on bytes given nothing)

@[simp] theorem isConnected_cut (endpoint : Endpoint) : endpoint.cut.isConnected = false := by
  cases endpoint <;> rfl

private theorem written_stream {host : Host σ} {endpoint : Endpoint} {h : Handle}
    (carried : endpoint.stream? = some h) {put : Option Handle → Endpoint}
    (kept : put (some h) = endpoint) (lost : put none = endpoint.cut) (bytes : ByteArray) (os : σ) :
    Written host endpoint bytes os ((host.writeFully (some h) bytes os).inState put) := by
  have connected := isConnected_of_stream? carried
  rcases host.toChannels.writeFully_some h bytes os with
    ⟨sent, os', wrote⟩ | ⟨e, os', failed, wrote⟩
  · rw [wrote, Outcome.inState, kept]
    exact .sent sent os' connected
  · rw [wrote, Outcome.inState, lost]
    exact .broken e os' connected (Or.inl ⟨h, carried, failed⟩)

private theorem written_udpClient (host : Host σ) (client : UdpClient) (bytes : ByteArray)
    (os : σ) :
    Written host (.udpClient client) bytes os ((client.write host bytes os).inState udpClient) := by
  unfold UdpClient.write
  split
  · next fault missing =>
    obtain ⟨detail, rfl⟩ := SocketSettings.detail_of_missing missing
    exact .refused _ (Fault.not_isTransfer_missingConfiguration detail)
  · next no_socket =>
    exact .unconnected _ (by simp [isConnected, UdpClient.isConnected, no_socket])
  · next h present bound =>
    have connected : (Endpoint.udpClient client).isConnected = true :=
      Option.isSome_iff_exists.mpr ⟨h, bound⟩
    split
    · next large =>
      exact .oversized ⟨rfl, (SocketSettings.missing?_eq_none_iff _).mp present, connected, large⟩
    · next fits =>
      split
      · next fault os' failed =>
        exact .unresolved fault os' connected (SocketSettings.isOpening_of_destination failed)
      · next address os' found =>
        split
        · next sent os'' taken => exact .sent sent os'' connected
        · next e os'' failed =>
          refine .broken e _ connected (Or.inr ⟨client, h, address, os', rfl, bound, ?_, found, ?_⟩)
          · omega
          · rw [failed]

theorem written (host : Host σ) (endpoint : Endpoint) (bytes : ByteArray) (os : σ) :
    Written host endpoint bytes os (endpoint.write host bytes os) := by
  cases endpoint with
  | tcpClient client =>
    simp only [write, TcpClient.write]
    cases held : client.stream with
    | none =>
      have same : ({ client with stream := none } : TcpClient) = client := by rw [← held]
      simp only [Channels.writeFully, Outcome.inState, same]
      exact .unconnected _ (by simp [isConnected, TcpClient.isConnected, held])
    | some h =>
      have carried : (tcpClient client).stream? = some h := held
      rw [Outcome.inState_inState]
      refine written_stream carried ?_ rfl bytes os
      rw [← held]
  | udpClient client => exact written_udpClient host client bytes os
  | listener l =>
    simp only [write, Listener.write]
    cases ready : l.noClient? with
    | some fault => exact .refused fault (Listener.not_isTransfer_of_noClient ready)
    | none =>
      obtain ⟨h, held, carried⟩ := exists_stream?_of_ready ready
      dsimp only
      rw [held]
      rw [Outcome.inState_inState]
      refine written_stream carried ?_ rfl bytes os
      rw [← held]
  | serialLine line =>
    simp only [write, SerialLine.write]
    cases held : line.port with
    | none =>
      have same : ({ line with port := none } : SerialLine) = line := by rw [← held]
      simp only [Channels.writeFully, Outcome.inState, same]
      exact .unconnected _ (by simp [isConnected, SerialLine.isConnected, held])
    | some h =>
      have carried : (serialLine line).stream? = some h := held
      rw [Outcome.inState_inState]
      refine written_stream carried ?_ rfl bytes os
      rw [← held]

private theorem readFrom_receive {host : Host σ} {endpoint : Endpoint} {h : Handle}
    (carried : endpoint.stream? = some h)
    (connection : endpoint.kind = .tcpClient ∨ endpoint.kind = .listener)
    {put : Option Handle → Endpoint} (kept : put (some h) = endpoint)
    (lost : put none = endpoint.cut) (how : Shutdown) (room : Nat) (os : σ) :
    ReadFrom host endpoint room os ((host.receive how (some h) room os).inState put) := by
  have connected := isConnected_of_stream? carried
  have attempted := host.toChannels.attempted h room os
  unfold Host.receive
  generalize host.readOnce (some h) room os = outcome at attempted
  cases attempted with
  | data os' given goes_on =>
    simp only [Outcome.inState, kept]
    refine .given _ os' connected (not_seesEnd_of_stream? carried ?_)
    intro bytes' given' nothing
    rw [given, Except.ok.injEq] at given'
    exact goes_on (by rw [given', nothing])
  | wouldBlock os' failed =>
    simp only [Outcome.inState, kept]
    refine .given _ os' connected (not_seesEnd_of_stream? carried ?_)
    intro bytes' given' nothing
    rw [failed] at given'
    cases given'
  | @closed bytes os' given nothing asked =>
    simp only [Outcome.inState, lost]
    exact .ended _ connected ⟨connection, h, bytes, carried, given, nothing, asked⟩
  | failed os' failed =>
    simp only [Outcome.inState, lost]
    exact .broken _ os' connected ⟨h, carried, failed⟩

private theorem readFrom_serialLine (host : Host σ) (line : SerialLine) (room : Nat) (os : σ) :
    ReadFrom host (.serialLine line) room os ((line.read host room os).inState serialLine) := by
  have endless : ¬ (serialLine line).SeesEnd host room os := by
    rintro ⟨connection | connection, -⟩ <;> cases connection
  unfold SerialLine.read
  cases held : line.port with
  | none =>
    have same : ({ line with port := none } : SerialLine) = line := by rw [← held]
    simp only [Channels.readOnce, Outcome.inState, same]
    exact .unconnected _ (by simp [isConnected, SerialLine.isConnected, held])
  | some h =>
    have carried : (serialLine line).stream? = some h := held
    have connected := isConnected_of_stream? carried
    have same : ({ line with port := some h } : SerialLine) = line := by rw [← held]
    have attempted := host.toChannels.attempted h room os
    generalize host.readOnce (some h) room os = outcome at attempted
    cases attempted with
    | data os' given goes_on =>
      simp only [Outcome.inState, same]
      exact .given _ os' connected endless
    | wouldBlock os' failed =>
      simp only [Outcome.inState, same]
      exact .given _ os' connected endless
    | closed os' given nothing asked =>
      simp only [Outcome.inState, same]
      exact .given _ os' connected endless
    | failed os' failed => exact .broken _ os' connected ⟨h, carried, failed⟩

theorem readFrom (host : Host σ) (endpoint : Endpoint) (room : Nat) (os : σ) :
    ReadFrom host endpoint room os (endpoint.read host room os) := by
  cases endpoint with
  | tcpClient client =>
    simp only [read, TcpClient.read_eq_receive]
    cases held : client.stream with
    | none =>
      have same : ({ client with stream := none } : TcpClient) = client := by rw [← held]
      simp only [Host.receive, Channels.readOnce, Outcome.inState, same]
      exact .unconnected _ (by simp [isConnected, TcpClient.isConnected, held])
    | some h =>
      have carried : (tcpClient client).stream? = some h := held
      rw [Outcome.inState_inState]
      refine readFrom_receive carried (Or.inl rfl) ?_ rfl .write room os
      rw [← held]
  | udpClient client =>
    refine .refused _ ?_ rfl
    rintro ⟨detail, same | same⟩ <;> cases same
  | listener l =>
    simp only [read]
    cases ready : l.noClient? with
    | some fault =>
      rw [Listener.read_of_noClient ready]
      refine .refused fault (Listener.not_isTransfer_of_noClient ready) ?_
      rw [stream?, ready]
      rfl
    | none =>
      obtain ⟨h, held, carried⟩ := exists_stream?_of_ready ready
      rw [Listener.read_eq_receive host ready, held]
      rw [Outcome.inState_inState]
      refine readFrom_receive carried (Or.inr rfl) ?_ rfl .both room os
      rw [← held]
  | serialLine line => exact readFrom_serialLine host line room os

end Endpoint

end InstrumentLink
