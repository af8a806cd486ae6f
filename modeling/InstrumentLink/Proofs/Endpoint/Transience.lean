import InstrumentLink.Proofs.Endpoint.Traffic
import InstrumentLink.Proofs.Stream.Offers
import InstrumentLink.Stream.Script

/-!
# Transient errors

A transient error only says to try again later. A read that meets one reads nothing and keeps the
connection. A write of a stream either gets all its bytes out or gives the connection up: it makes
an interrupted offer again, and every other error costs the connection, also one that is transient.
-/

namespace InstrumentLink

variable {σ : Type}

private theorem Channels.readOnce_of_transient {channels : Channels σ} {h : Handle} {room : Nat}
    {os : σ} {e : IoError} (failed : ((channels.stream h).read room os).1 = .error e)
    (transient : e.isTransient = true) :
    (channels.readOnce (some h) room os).answer = .ok .wouldBlock ∧
      (channels.readOnce (some h) room os).state = some h := by
  cases attempt : (channels.stream h).read room os with
  | mk answer os' =>
    rw [attempt] at failed
    cases failed
    simp only [readOnce, attempt, if_pos transient, and_self]

private theorem Host.receive_of_transient {host : Host σ} {h : Handle} {room : Nat} {os : σ}
    {e : IoError} (failed : ((host.stream h).read room os).1 = .error e)
    (transient : e.isTransient = true) (how : Shutdown) :
    (host.receive how (some h) room os).answer = .ok ByteArray.empty ∧
      (host.receive how (some h) room os).state = some h := by
  obtain ⟨answer_eq, state_eq⟩ := Channels.readOnce_of_transient failed transient
  simp only [receive, answer_eq, state_eq, and_self]

namespace Endpoint

theorem read_of_transient {host : Host σ} {endpoint : Endpoint} {room : Nat} {os : σ} {e : IoError}
    (breaks : endpoint.ReadBreaks host room os e) (transient : e.isTransient = true) :
    (endpoint.read host room os).answer = .ok ByteArray.empty ∧
      (endpoint.read host room os).state = endpoint := by
  obtain ⟨h, carried, failed⟩ := breaks
  cases endpoint with
  | tcpClient client =>
    obtain ⟨settings, stream, blocking⟩ := client
    cases carried
    obtain ⟨answer_eq, state_eq⟩ := Host.receive_of_transient failed transient .write
    simp only [read, TcpClient.read_eq_receive, Outcome.inState, answer_eq, state_eq, and_self]
  | udpClient client => cases carried
  | listener l =>
    obtain ⟨port, socket, client, blocking⟩ := l
    rw [stream?] at carried
    split at carried
    · next ready =>
      cases carried
      obtain ⟨answer_eq, state_eq⟩ := Host.receive_of_transient failed transient .both
      simp only [read, Listener.read_eq_receive host ready, Outcome.inState, answer_eq, state_eq,
        and_self]
    · cases carried
  | serialLine line =>
    obtain ⟨settings, applied, port, armed, blocking⟩ := line
    cases carried
    obtain ⟨answer_eq, state_eq⟩ := Channels.readOnce_of_transient failed transient
    simp only [read, SerialLine.read, Outcome.inState, answer_eq, state_eq, and_self]

/-- A write through a stream comes to an offer that the host answers in this way. -/
def WriteMeets (host : Host σ) (endpoint : Endpoint) (bytes : ByteArray) (os : σ)
    (answer : Except IoError Nat) : Prop :=
  ∃ h left between, endpoint.stream? = some h ∧ (host.stream h).Offers bytes os left between ∧
    ((host.stream h).write left between).1 = answer

def SendBreaks (host : Host σ) (endpoint : Endpoint) (bytes : ByteArray) (os : σ) (e : IoError) :
    Prop :=
  ∃ client h address os', endpoint = .udpClient client ∧ client.socket = some h ∧
    client.settings.destination host os = (.ok address, os') ∧
    (host.sendTo h bytes address os').1 = .error e

private theorem writeBreaks_cases {host : Host σ} {endpoint : Endpoint} {bytes : ByteArray} {os : σ}
    {e : IoError} (breaks : endpoint.WriteBreaks host bytes os e) :
    (∃ answer, endpoint.WriteMeets host bytes os answer ∧ ByteStream.Stops answer e) ∨
      endpoint.SendBreaks host bytes os e := by
  rcases breaks with ⟨h, carried, failed⟩ | ⟨client, h, address, os', same, bound, -, found, failed⟩
  · obtain ⟨left, between, offers, stops⟩ := ByteStream.exists_stop_of_writeAll failed
    exact Or.inl ⟨_, ⟨h, left, between, carried, offers, rfl⟩, stops⟩
  · exact Or.inr ⟨client, h, address, os', same, bound, found, failed⟩

private theorem write_of_stop {host : Host σ} {endpoint : Endpoint} {bytes : ByteArray} {os : σ}
    {answer : Except IoError Nat} {e : IoError} (meets : endpoint.WriteMeets host bytes os answer)
    (stops : ByteStream.Stops answer e) :
    (endpoint.write host bytes os).answer = .error (.ofWrite e) ∧
      (endpoint.write host bytes os).state = endpoint.cut := by
  obtain ⟨h, left, between, carried, offers, rfl⟩ := meets
  have failed := ByteStream.writeAll_of_stop offers stops 0
  have lost : (host.writeFully (some h) bytes os).answer = .error (.ofWrite e) ∧
      (host.writeFully (some h) bytes os).state = none := by
    cases attempt : (host.stream h).writeAll bytes 0 os with
    | mk answer os' =>
      rw [attempt] at failed
      cases failed
      simp only [Channels.writeFully, attempt, and_self]
  obtain ⟨answer_eq, state_eq⟩ := lost
  cases endpoint with
  | tcpClient client =>
    have held : client.stream = some h := carried
    simp only [write, TcpClient.write, held, Outcome.inState, answer_eq, state_eq, cut, and_self]
  | udpClient client => cases carried
  | listener l =>
    rw [stream?] at carried
    split at carried
    · next ready =>
      simp only [write, Listener.write, ready, carried, Outcome.inState, answer_eq, state_eq, cut,
        and_self]
    · cases carried
  | serialLine line =>
    have held : line.port = some h := carried
    simp only [write, SerialLine.write, held, Outcome.inState, answer_eq, state_eq, cut, and_self]

/-- What transient errors and others cost a connected endpoint. -/
structure BearsErrors (host : Host σ) (endpoint : Endpoint) (os : σ) : Prop where
  read_transient : ∀ room e, endpoint.ReadBreaks host room os e → e.isTransient = true →
    (endpoint.read host room os).answer = .ok ByteArray.empty ∧
      (endpoint.read host room os).state = endpoint
  /-- A read gives a handle up at the end of the stream, and after an error that is not
  transient. -/
  read_loses : ∀ room, (endpoint.read host room os).state ≠ endpoint →
    (endpoint.SeesEnd host room os ∧ (endpoint.read host room os).answer = .ok ByteArray.empty) ∨
      ∃ e, endpoint.ReadBreaks host room os e ∧ e.isTransient = false ∧
        (endpoint.read host room os).answer = .error (.ofRead e)
  read_fails : endpoint.isConnected = true → ∀ room detail,
    (endpoint.read host room os).answer = .error (.readFailure detail) →
      ∃ e, endpoint.ReadBreaks host room os e ∧ e.isTransient = false ∧ e.text = detail
  /-- A stream write is stopped by every error but an interruption, and by an offer of which nothing
  is taken. -/
  write_stops : ∀ bytes answer e, endpoint.WriteMeets host bytes os answer →
    ByteStream.Stops answer e →
      (endpoint.write host bytes os).answer = .error (.ofWrite e) ∧
        (endpoint.write host bytes os).state = endpoint.cut
  /-- A write gives a handle up only after such an answer, or after a datagram that was not sent. -/
  write_loses : ∀ bytes, (endpoint.write host bytes os).state ≠ endpoint → ∃ e,
    (endpoint.write host bytes os).answer = .error (.ofWrite e) ∧
      (endpoint.write host bytes os).state = endpoint.cut ∧
      ((∃ answer, endpoint.WriteMeets host bytes os answer ∧ ByteStream.Stops answer e) ∨
        endpoint.SendBreaks host bytes os e)
  /-- A write failure comes with the loss of the handle, but for a datagram that is too large. -/
  write_fails : endpoint.isConnected = true → ∀ bytes detail,
    (endpoint.write host bytes os).answer = .error (.writeFailure detail) →
      (endpoint.write host bytes os).state = endpoint.cut ∨ endpoint.Oversizes bytes

/-- Whatever the host answers, no transient error costs a connection while reading, and no
interruption while writing a stream. -/
theorem bearsErrors (host : Host σ) (endpoint : Endpoint) (os : σ) :
    BearsErrors host endpoint os where
  read_transient := fun _ _ breaks transient => read_of_transient breaks transient
  read_loses := by
    intro room lost
    -- the outcome is generalised, and with it what is known of transient errors
    have transient := fun e (breaks : endpoint.ReadBreaks host room os e) =>
      read_of_transient breaks
    have led := endpoint.readFrom host room os
    generalize endpoint.read host room os = outcome at led lost transient
    cases led with
    | given bytes os' connected goes_on => exact absurd rfl lost
    | unconnected fault lost' => exact absurd rfl lost
    | refused fault other idle => exact absurd rfl lost
    | ended os' connected sees => exact Or.inl ⟨sees, rfl⟩
    | broken e os' connected breaks =>
      refine Or.inr ⟨e, breaks, ?_, rfl⟩
      rw [← Bool.not_eq_true]
      intro again
      exact lost (transient e breaks again).2
  read_fails := by
    intro connected room detail failed
    have transient := fun e (breaks : endpoint.ReadBreaks host room os e) =>
      read_of_transient breaks
    have led := endpoint.readFrom host room os
    generalize endpoint.read host room os = outcome at led failed transient
    cases led with
    | given bytes os' connected goes_on => cases failed
    | unconnected fault lost => simp [connected] at lost
    | refused fault other idle =>
      cases failed
      exact absurd ⟨detail, Or.inl rfl⟩ other
    | ended os' connected sees => cases failed
    | broken e os' connected breaks =>
      refine ⟨e, breaks, ?_, Fault.readFailure.inj (Except.error.inj failed)⟩
      rw [← Bool.not_eq_true]
      intro again
      have kept := (transient e breaks again).1
      cases kept
  write_stops := fun _ _ _ meets stops => write_of_stop meets stops
  write_loses := by
    intro bytes lost
    have led := endpoint.written host bytes os
    generalize endpoint.write host bytes os = outcome at led lost
    cases led with
    | broken e os' connected breaks => exact ⟨e, rfl, rfl, writeBreaks_cases breaks⟩
    | _ => exact absurd rfl lost
  write_fails := by
    intro connected bytes detail failed
    have led := endpoint.written host bytes os
    generalize endpoint.write host bytes os = outcome at led failed
    cases led with
    | sent count os' connected => cases failed
    | unconnected fault lost => simp [connected] at lost
    | refused fault other =>
      cases failed
      exact absurd ⟨detail, Or.inr rfl⟩ other
    | oversized large => exact Or.inr large
    | unresolved fault os' connected opening =>
      cases failed
      exact absurd ⟨detail, Or.inr rfl⟩ opening.not_isTransfer
    | broken e os' connected breaks => exact Or.inl rfl

end Endpoint

/-- The host that has these streams and grants no other request. -/
def Host.ofChannels (channels : Channels σ) : Host σ where
  toChannels := channels
  lookup := fun _ os => (.error .noAddress, os)
  connect := fun _ os => (.error .noAddress, os)
  listen := fun _ os => (.error .noAddress, os)
  accept := fun _ os => (.error .noAddress, os)
  bindDatagram := fun os => (.error .noAddress, os)
  sendTo := fun _ _ _ os => (.error .noAddress, os)
  openLine := fun _ _ os => (.error .noAddress, os)
  setBlocking := fun _ _ os => (.error .noAddress, os)
  setTimeout := fun _ _ os => (.error .noAddress, os)
  shutdown := fun _ _ os => os
  setBreak := fun _ os => (.error .noAddress, os)
  clearBreak := fun _ os => (.error .noAddress, os)
  pause := fun _ os => os
  localPort := fun _ _ => .error .noAddress
  peer := fun _ _ => .error .noAddress

/-- A write does not bear every transient error: a stream that has taken five bytes of six, and has
no room for the last one now, is given up. -/
theorem Endpoint.not_write_bears_transient :
    ¬ ∀ (endpoint : Endpoint) (bytes : ByteArray) (script : Script) (e : IoError),
        e.isTransient = true →
          endpoint.WriteMeets (.ofChannels Script.channels) bytes script (.error e) →
            (endpoint.write (.ofChannels Script.channels) bytes script).state = endpoint := by
  intro bears
  let client : Endpoint := .tcpClient { stream := some ⟨0⟩ }
  let bytes : ByteArray := ⟨#[0, 1, 2, 3, 4, 5]⟩
  let script : Script := { writes := [.accept 5, .fail (.ofNumber 11)] }
  have meets : client.WriteMeets (.ofChannels Script.channels) bytes script
      (.error (.ofNumber 11)) :=
    ⟨⟨0⟩, _, _, rfl, .after_taken (by decide) rfl (.first (by decide)), rfl⟩
  have kept := bears client bytes script (.ofNumber 11) rfl meets
  have cut := (write_of_stop meets (.failed (by decide))).2
  have connected : client.isConnected = true := rfl
  rw [← kept, cut, isConnected_cut] at connected
  cases connected

end InstrumentLink
