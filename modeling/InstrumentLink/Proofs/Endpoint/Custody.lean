import InstrumentLink.Proofs.Endpoint.Steps
import InstrumentLink.Proofs.Host.Custody

namespace InstrumentLink

variable {σ : Type}

/-- How many handles an endpoint of a kind can have: a listener one that listens and one client. -/
def EndpointKind.capacity : EndpointKind → Nat
  | .listener => 2
  | _ => 1

theorem Endpoint.length_handles_le (endpoint : Endpoint) :
    endpoint.handles.length ≤ endpoint.kind.capacity := by
  have at_most_one : ∀ held : Option Handle, held.toList.length ≤ 1 := by
    intro held
    cases held <;> simp
  cases endpoint with
  | tcpClient client => exact at_most_one client.stream
  | udpClient client => exact at_most_one client.socket
  | listener l =>
    have listening := at_most_one l.socket
    have accepted := at_most_one l.client
    simp only [handles, List.length_append, kind, EndpointKind.capacity]
    omega
  | serialLine line => exact at_most_one line.port

namespace Host.Respects

variable {host : Host σ} {custody : Custody σ} (respects : host.Respects custody)

include respects

private theorem openStream (settings : SocketSettings) (blocking : Bool) (os : σ) :
    custody.Exchanges [] (granted (TcpClient.openStream host settings blocking os).1) os
      (TcpClient.openStream host settings blocking os).2 := by
  have resolved := respects.resolve settings os
  unfold TcpClient.openStream
  split
  · next fault os' answered => exact keep_of_answered resolved answered
  · next addresses os' answered =>
    rw [answered] at resolved
    have connected := respects.withMode blocking
      (resolved.trans (respects.connectAny .noAddress os' addresses))
    split
    · next h os'' opened =>
      rw [opened] at connected
      exact connected
    · next e os'' failed =>
      rw [failed] at connected
      exact connected

private theorem openSocket (settings : SocketSettings) (blocking : Bool) (os : σ) :
    custody.Exchanges [] (granted (UdpClient.openSocket host settings blocking os).1) os
      (UdpClient.openSocket host settings blocking os).2 := by
  have looked_up := respects.destination settings os
  unfold UdpClient.openSocket
  split
  · next fault os' answered => exact keep_of_answered looked_up answered
  · next address os' answered =>
    rw [answered] at looked_up
    have bound := respects.withMode blocking
      (looked_up.trans (respects.request (.bindDatagram os')))
    split
    · next h os'' opened =>
      rw [opened] at bound
      exact bound
    · next e os'' failed =>
      rw [failed] at bound
      exact bound

theorem disconnectClient (l : Listener) (os : σ) :
    custody.Exchanges (Endpoint.listener l).handles
      (Endpoint.listener (l.disconnectClient host os).1).handles os
      (l.disconnectClient host os).2 :=
  (respects.endHeld .both l.client os).after l.socket.toList

private theorem disconnectListener (l : Listener) (os : σ) :
    custody.Exchanges (Endpoint.listener l).handles [] os (l.disconnect host os).2 := by
  have ended := respects.disconnectClient l os
  have closed := respects.closeHeld l.socket (l.disconnectClient host os).2
  simp only [Endpoint.handles, Listener.disconnectClient, Option.toList_none, List.append_nil]
    at ended
  exact ended.trans closed

theorem disconnect (endpoint : Endpoint) (os : σ) :
    custody.Exchanges endpoint.handles [] os (endpoint.disconnect host os).2 := by
  cases endpoint with
  | tcpClient client => exact respects.endHeld .write client.stream os
  | udpClient client => exact respects.closeHeld client.socket os
  | listener l => exact respects.disconnectListener l os
  | serialLine line => exact respects.closeHeld line.port os

theorem release (endpoint : Endpoint) (os : σ) :
    custody.Exchanges endpoint.handles [] os (endpoint.release host os) := by
  cases endpoint with
  | tcpClient client => exact respects.closeHeld client.stream os
  | udpClient client => exact respects.closeHeld client.socket os
  | listener l =>
    have closed := (respects.closeHeld l.socket os).before l.client.toList
    exact closed.trans (respects.closeHeld l.client _)
  | serialLine line => exact respects.closeHeld line.port os

theorem setEndpointBlocking (endpoint : Endpoint) (blocking : Bool) (os : σ) :
    custody.Exchanges [] [] os (endpoint.setBlocking host blocking os).2 := by
  cases endpoint with
  | tcpClient client => exact respects.setHeldBlocking client.stream blocking os
  | udpClient client => exact respects.setHeldBlocking client.socket blocking os
  | listener l =>
    exact (respects.setHeldBlocking l.socket blocking os).trans
      (respects.setHeldBlocking l.client blocking _)
  | serialLine line => exact respects.setHeldTimeout line.port (.ofBlocking blocking) os

private theorem bringUp_tcpClient (client : TcpClient) (os : σ) :
    custody.Exchanges client.stream.toList (client.bringUp host os).state.stream.toList os
      (client.bringUp host os).host := by
  unfold TcpClient.bringUp
  split
  · exact custody.exchanges_refl _ os
  · dsimp only [TcpClient.disconnect]
    have opened := (respects.endHeld .write client.stream os).trans
      (respects.openStream client.settings client.blocking _)
    split
    · next h os' answered => exact of_answered opened answered
    · next fault os' answered => exact of_answered opened answered

private theorem bringUp_udpClient (client : UdpClient) (os : σ) :
    custody.Exchanges client.socket.toList (client.bringUp host os).state.socket.toList os
      (client.bringUp host os).host := by
  unfold UdpClient.bringUp
  split
  · exact custody.exchanges_refl _ os
  · dsimp only [UdpClient.disconnect]
    have opened := (respects.closeHeld client.socket os).trans
      (respects.openSocket client.settings client.blocking _)
    split
    · next h os' answered => exact of_answered opened answered
    · next fault os' answered => exact of_answered opened answered

private theorem bringUp_listener (l : Listener) (os : σ) :
    custody.Exchanges (Endpoint.listener l).handles
      (Endpoint.listener (l.bringUp host os).state).handles os (l.bringUp host os).host := by
  unfold Listener.bringUp
  split
  · exact custody.exchanges_refl _ os
  · next port present =>
    have ended := respects.disconnectListener l os
    dsimp only [Listener.disconnect, Listener.disconnectClient] at ended ⊢
    have opened := respects.withMode l.blocking (ended.trans (respects.request (.listen port _)))
    split
    · next e os' answered => exact of_answered opened answered
    · next h os' answered =>
      rw [answered] at opened
      split
      · -- a socket on another port than the one asked for is closed again
        exact opened.trans (respects.request (.close h os'))
      · exact opened

private theorem bringUp_serialLine (line : SerialLine) (os : σ) :
    custody.Exchanges line.port.toList (line.bringUp host os).state.port.toList os
      (line.bringUp host os).host := by
  unfold SerialLine.bringUp
  split
  · exact custody.exchanges_refl _ os
  · dsimp only [SerialLine.disconnect, SerialLine.timeout]
    have opened := (respects.closeHeld line.port os).trans
      (respects.request (.openLine line.settings (.ofBlocking line.blocking) _))
    split
    · next h os' answered => exact of_answered opened answered
    · next e os' answered => exact of_answered opened answered

/-- Bringing an endpoint up closes its old handles before it opens a new one, and keeps none that
it could not use. -/
theorem bringUp (endpoint : Endpoint) (os : σ) :
    custody.Exchanges endpoint.handles (endpoint.bringUp host os).state.handles os
      (endpoint.bringUp host os).host := by
  cases endpoint with
  | tcpClient client => exact respects.bringUp_tcpClient client os
  | udpClient client => exact respects.bringUp_udpClient client os
  | listener l => exact respects.bringUp_listener l os
  | serialLine line => exact respects.bringUp_serialLine line os

theorem acceptClient (l : Listener) (os : σ) :
    custody.Exchanges (Endpoint.listener l).handles
      (Endpoint.listener (l.accept host os).state).handles os (l.accept host os).host := by
  obtain ⟨port, socket, client, blocking⟩ := l
  match socket, client with
  | none, _ => exact custody.exchanges_refl _ os
  | some socket, some client => exact custody.exchanges_refl _ os
  | some socket, none =>
    have taken := respects.request (.accept socket os)
    unfold Listener.accept
    dsimp only
    split
    · next e os' answered =>
      rw [answered] at taken
      split <;> exact taken.after [socket]
    · next h os' answered =>
      rw [answered] at taken
      have opened := respects.withMode blocking taken
      split
      · next h' os'' changed =>
        rw [changed] at opened
        exact opened.after [socket]
      · next e os'' changed =>
        rw [changed] at opened
        exact opened.after [socket]

theorem attach (endpoint : Endpoint) (os : σ) :
    custody.Exchanges endpoint.handles (endpoint.attach host os).state.handles os
      (endpoint.attach host os).host := by
  cases endpoint with
  | listener l => exact respects.acceptClient l os
  | tcpClient client => exact respects.bringUp (.tcpClient client) os
  | udpClient client => exact respects.bringUp (.udpClient client) os
  | serialLine line => exact respects.bringUp (.serialLine line) os

private theorem write_udpClient (client : UdpClient) (bytes : ByteArray) (os : σ) :
    custody.Exchanges client.socket.toList (client.write host bytes os).state.socket.toList os
      (client.write host bytes os).host := by
  unfold UdpClient.write
  split
  · exact custody.exchanges_refl _ os
  · exact custody.exchanges_refl _ os
  · next h _ held =>
    split
    · exact custody.exchanges_refl _ os
    · have looked_up := (respects.destination client.settings os).keep client.socket.toList
      split
      · next fault os' answered => exact keep_of_answered looked_up answered
      · next address os' answered =>
        rw [answered] at looked_up
        have sent := looked_up.trans ((respects.request (.sendTo h bytes address os')).keep _)
        split
        · next count os'' answered => exact keep_of_answered sent answered
        · next e os'' answered =>
          rw [answered, held] at sent
          rw [held]
          exact sent.trans (respects.request (.close h os''))

theorem writeEndpoint (endpoint : Endpoint) (bytes : ByteArray) (os : σ) :
    custody.Exchanges endpoint.handles (endpoint.write host bytes os).state.handles os
      (endpoint.write host bytes os).host := by
  cases endpoint with
  | tcpClient client => exact respects.writeFully client.stream bytes os
  | udpClient client => exact respects.write_udpClient client bytes os
  | listener l =>
    simp only [Endpoint.write, Listener.write, Outcome.host_inState, Outcome.state_inState]
    split
    · exact custody.exchanges_refl _ os
    · exact (respects.writeFully l.client bytes os).after l.socket.toList
  | serialLine line => exact respects.writeFully line.port bytes os

private theorem receive (how : Shutdown) (held : Option Handle) (room : Nat) (os : σ) :
    custody.Exchanges held.toList (host.receive how held room os).state.toList os
      (host.receive how held room os).host := by
  have received := respects.readOnce held room os
  simp only [Host.receive]
  split
  · exact received
  · exact received
  · exact received
  · exact received.trans (respects.endHeld how _ _)

theorem readEndpoint (endpoint : Endpoint) (room : Nat) (os : σ) :
    custody.Exchanges endpoint.handles (endpoint.read host room os).state.handles os
      (endpoint.read host room os).host := by
  cases endpoint with
  | tcpClient client =>
    simp only [Endpoint.read, TcpClient.read_eq_receive, Outcome.host_inState,
      Outcome.state_inState]
    exact respects.receive .write client.stream room os
  | udpClient client => exact custody.exchanges_refl _ os
  | listener l =>
    cases ready : l.noClient? with
    | some fault =>
      simp only [Endpoint.read, Listener.read, ready, Outcome.host_inState, Outcome.state_inState]
      exact custody.exchanges_refl _ os
    | none =>
      simp only [Endpoint.read, Listener.read_eq_receive host ready, Outcome.host_inState,
        Outcome.state_inState]
      exact (respects.receive .both l.client room os).after l.socket.toList
  | serialLine line =>
    have received := respects.readOnce line.port room os
    simp only [Endpoint.read, SerialLine.read, Outcome.host_inState, Outcome.state_inState]
    split <;> exact received

theorem sendBreak (line : SerialLine) (milliseconds : Nat) (os : σ) :
    custody.Exchanges [] [] os (line.sendBreak host milliseconds os).2 := by
  unfold SerialLine.sendBreak
  split
  · exact custody.exchanges_refl _ os
  · next h _ =>
    have entered := respects.request (.setBreak h os)
    split
    · next e os' answered => exact keep_of_answered entered answered
    · next os' answered =>
      rw [answered] at entered
      have paused := respects.request (.pause milliseconds os')
      have left := entered.trans (paused.trans (respects.request (.clearBreak h _)))
      split
      · next e os'' answered => exact keep_of_answered left answered
      · next os'' answered => exact keep_of_answered left answered

theorem apply (setting : Setting) (endpoint : Endpoint) (os : σ) :
    custody.Exchanges [] [] os (setting.apply host endpoint os).2 := by
  cases setting with
  | blocking blocking => exact respects.setEndpointBlocking endpoint blocking os
  | _ => cases endpoint <;> exact custody.exchanges_refl _ os

theorem applySettings (settings : List Setting) (endpoint : Endpoint) (os : σ) :
    custody.Exchanges endpoint.handles (applySettings host settings endpoint os).1.handles os
      (applySettings host settings endpoint os).2 := by
  induction settings generalizing endpoint os with
  | nil => exact custody.exchanges_refl _ os
  | cons setting rest ih =>
    have retuned := Endpoint.retuned_apply host setting endpoint os
    have first := (respects.apply setting endpoint os).keep endpoint.handles
    have later := ih (setting.apply host endpoint os).1 (setting.apply host endpoint os).2
    rw [retuned.handles_eq] at later
    exact first.trans later

theorem reopenIfChanged (before after : Endpoint) (os : σ) :
    custody.Exchanges after.handles (before.reopenIfChanged host after os).state.handles os
      (before.reopenIfChanged host after os).host := by
  unfold Endpoint.reopenIfChanged
  split
  · exact custody.exchanges_refl _ os
  · have ended := respects.disconnect after os
    have nothing := after.handles_down
    rw [← Endpoint.disconnect_fst host after os] at nothing
    dsimp only
    split
    · have reopened := respects.bringUp (after.disconnect host os).1 (after.disconnect host os).2
      rw [nothing] at reopened
      exact ended.trans reopened
    · rw [nothing]
      exact ended

theorem steps {endpoint after : Endpoint} {os os' : σ} (steps : endpoint.Steps host os after os') :
    custody.Exchanges endpoint.handles after.handles os os' := by
  cases steps with
  | tuned tunes =>
    cases tunes with
    | @settled settings after between changed =>
      have called := respects.applySettings settings endpoint os
      rw [changed] at called
      exact called.trans (respects.reopenIfChanged endpoint after between)
    | blocking mode =>
      rw [Endpoint.setBlocking_fst, (endpoint.retuned_withBlocking mode).handles_eq]
      exact (respects.setEndpointBlocking endpoint mode os).keep _
  | broughtUp configured => exact respects.bringUp endpoint os
  | disconnected =>
    rw [Endpoint.disconnect_fst, Endpoint.handles_down]
    exact respects.disconnect endpoint os
  | wrote bytes => exact respects.writeEndpoint endpoint bytes os
  | received room => exact respects.readEndpoint endpoint room os
  | accepted l same =>
    rw [same]
    exact respects.acceptClient l os
  | dropped l same =>
    rw [same]
    exact respects.disconnectClient l os
  | broke line same milliseconds => exact (respects.sendBreak line milliseconds os).keep _

end Host.Respects

end InstrumentLink
