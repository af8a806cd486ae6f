import Mathlib.Data.List.Forall2
import InstrumentLink.Endpoint.UdpClient
import InstrumentLink.Loopback.Host
import InstrumentLink.Proofs.Host.Posted

/-!
# Where datagrams go

A datagram client keeps no destination. Each write looks the configured host up and sends one
datagram to the first address that a datagram socket can reach, so what left during a run went to
where the configuration pointed at that moment. A write that fails has sent nothing, and only a send
that the host refused costs the socket.
-/

namespace InstrumentLink

variable {σ : Type}

/-- Where datagrams for the settings go now: to the first IPv4 address of the host name. -/
def SocketSettings.LeadsTo (settings : SocketSettings) (host : Host σ) (os : σ)
    (address : SocketAddress) : Prop :=
  ∃ addresses, (host.lookup settings.hostname os).1 = .ok addresses ∧
    addresses.find? (·.isV4) = some address.ip ∧ address.port = settings.port

/-- Choosing a destination is looking the host name up. It comes to where the settings lead, if they
lead anywhere. -/
inductive SocketSettings.Located (settings : SocketSettings) (host : Host σ) (os : σ) :
    Except Fault SocketAddress × σ → Prop
  | found {address : SocketAddress} (leads : settings.LeadsTo host os address) :
      Located settings host os (.ok address, (host.lookup settings.hostname os).2)
  | nowhere (detail : String) (none_leads : ∀ address, ¬settings.LeadsTo host os address) :
      Located settings host os
        (.error (.hostResolution detail), (host.lookup settings.hostname os).2)

namespace SocketSettings

variable (settings : SocketSettings) (host : Host σ) (os : σ)

private theorem find?_atPort (addresses : List IpAddress) (port : UInt16) :
    (addresses.map fun ip => (⟨ip, port⟩ : SocketAddress)).find? (·.ip.isV4) =
      (addresses.find? (·.isV4)).map fun ip => ⟨ip, port⟩ := by
  rw [List.find?_map]
  rfl

private theorem located_destination : settings.Located host os (settings.destination host os) := by
  have not_leads {answer : Except IoError (List IpAddress)}
      (answered : (host.lookup settings.hostname os).1 = answer)
      (none_v4 : ∀ addresses, answer = .ok addresses → addresses.find? (·.isV4) = none)
      (address : SocketAddress) : ¬settings.LeadsTo host os address := by
    rintro ⟨addresses, looked_up, first, -⟩
    rw [none_v4 addresses (answered.symm.trans looked_up)] at first
    cases first
  unfold destination resolve
  cases looked : host.lookup settings.hostname os with
  | mk answer os' =>
    have answered : (host.lookup settings.hostname os).1 = answer := by rw [looked]
    have after : os' = (host.lookup settings.hostname os).2 := by rw [looked]
    cases answer with
    | error e =>
      rw [after]
      exact .nowhere _ (not_leads answered nofun)
    | ok addresses =>
      cases addresses with
      | nil =>
        rw [after]
        refine .nowhere _ (not_leads answered ?_)
        rintro _ ⟨⟩
        rfl
      | cons first rest =>
        simp only [find?_atPort]
        cases chosen : (first :: rest).find? (·.isV4) with
        | none =>
          rw [after]
          refine .nowhere _ (not_leads answered ?_)
          rintro _ ⟨⟩
          exact chosen
        | some ip =>
          rw [after]
          exact .found ⟨_, answered, chosen, rfl⟩

private theorem resolve_posted (posted : Posted σ) : settings.resolve host.posted posted =
    Posted.part.pass posted (settings.resolve host posted.os) := by
  have looked : host.posted.lookup settings.hostname posted =
      Posted.part.pass posted (host.lookup settings.hostname posted.os) := rfl
  simp only [resolve, looked]
  generalize host.lookup settings.hostname posted.os = answered
  obtain ⟨e | _ | _, os⟩ := answered <;> rfl

private theorem destination_posted (posted : Posted σ) : settings.destination host.posted posted =
    Posted.part.pass posted (settings.destination host posted.os) := by
  simp only [destination, resolve_posted]
  generalize settings.resolve host posted.os = answered
  obtain ⟨fault | addresses, os⟩ := answered
  · rfl
  · simp only [StatePart.pass]
    split <;> rfl

end SocketSettings

namespace UdpClient

/-- What a write comes to, told by the client and the host at that moment. -/
inductive Posts (host : Host σ) (client : UdpClient) (bytes : ByteArray) (posted : Posted σ) :
    Outcome (Posted σ) UdpClient Nat → Prop
  | noHostname (absent : client.settings.hostname = "") :
      Posts host client bytes posted ⟨.error .missingHostname, client, posted⟩
  | noPort (named : client.settings.hostname ≠ "") (absent : client.settings.port = 0) :
      Posts host client bytes posted ⟨.error .missingPort, client, posted⟩
  | noSocket (configured : client.isConfigured = true) (closed : client.socket = none) :
      Posts host client bytes posted ⟨.error .notInitialized, client, posted⟩
  | tooLarge (configured : client.isConfigured = true) {h : Handle}
      (opened : client.socket = some h) (large : maxDatagramSize < bytes.size) :
      Posts host client bytes posted ⟨.error (.datagramTooLarge bytes.size), client, posted⟩
  | unresolved (configured : client.isConfigured = true) {h : Handle}
      (opened : client.socket = some h) (fits : bytes.size ≤ maxDatagramSize) (detail : String)
      (nowhere : ∀ address, ¬client.settings.LeadsTo host posted.os address) :
      Posts host client bytes posted
        ⟨.error (.hostResolution detail), client,
          posted.withOs (host.lookup client.settings.hostname posted.os).2⟩
  /-- The host refused to send the datagram, which closes the socket. -/
  | refused (configured : client.isConfigured = true) {h : Handle}
      (opened : client.socket = some h) (fits : bytes.size ≤ maxDatagramSize)
      {address : SocketAddress} (leads : client.settings.LeadsTo host posted.os address)
      {e : IoError} {os : σ}
      (failed : host.sendTo h bytes address (host.lookup client.settings.hostname posted.os).2 =
        (.error e, os)) :
      Posts host client bytes posted
        ⟨.error (.ofWrite e), { client with socket := none },
          (posted.withOs os).close h (host.close h os)⟩
  | sent (configured : client.isConfigured = true) {h : Handle}
      (opened : client.socket = some h) (fits : bytes.size ≤ maxDatagramSize)
      {address : SocketAddress} (leads : client.settings.LeadsTo host posted.os address) {os : σ}
      (taken : host.sendTo h bytes address (host.lookup client.settings.hostname posted.os).2 =
        (.ok bytes.size, os)) :
      Posts host client bytes posted
        ⟨.ok bytes.size, client,
          { posted with os, sent := posted.sent ++ [⟨h, bytes, address⟩] }⟩

variable (host : Host σ) (client : UdpClient) (posted : Posted σ)

private theorem posts_write (whole : host.SendsWhole) (bytes : ByteArray) :
    client.Posts host bytes posted (client.write host.posted bytes posted) := by
  unfold write
  cases missing : client.settings.missing? with
  | some fault =>
    unfold SocketSettings.missing? at missing
    split at missing
    · next absent =>
      cases missing
      exact .noHostname absent
    split at missing
    · next named absent =>
      cases missing
      exact .noPort named absent
    · cases missing
  | none =>
    have configured : client.isConfigured = true :=
      client.settings.missing?_eq_none_iff.mp missing
    cases opened : client.socket with
    | none => exact .noSocket configured opened
    | some h =>
      dsimp only
      split
      · next large => exact .tooLarge configured opened large
      · next fits =>
        have small : bytes.size ≤ maxDatagramSize := Nat.le_of_not_lt fits
        rw [SocketSettings.destination_posted]
        have located := client.settings.located_destination host posted.os
        generalize client.settings.destination host posted.os = answered at located
        cases located with
        | nowhere detail none_leads => exact .unresolved configured opened small detail none_leads
        | @found address leads =>
          simp only [StatePart.pass, Posted.part, Host.sendTo_posted, Posted.os_withOs]
          generalize request : host.sendTo h bytes address _ = answered
          obtain ⟨e | count, os⟩ := answered
          · exact .refused configured opened small leads request
          · have sent_whole : count = bytes.size := whole h bytes address _ count (by rw [request])
            subst sent_whole
            exact .sent configured opened small leads request

/-- A call of one of the operations of a datagram client. -/
inductive Operation
  | setHostname (hostname : String)
  | setPort (port : UInt16)
  | setBlocking (blocking : Bool)
  | bringUp
  | disconnect
  | write (bytes : ByteArray)

/-- A write in a run, with the client and the host at that moment. -/
structure Writing (σ : Type) where
  client : UdpClient
  host : σ
  bytes : ByteArray
  answer : Except Fault Nat

namespace Operation

def run (host : Host σ) (operation : Operation) (client : UdpClient) (os : σ) : UdpClient × σ :=
  match operation with
  | setHostname hostname => (client.setHostname hostname, os)
  | setPort port => (client.setPort port, os)
  | setBlocking blocking => client.setBlocking host blocking os
  | bringUp => ((client.bringUp host os).state, (client.bringUp host os).host)
  | disconnect => client.disconnect host os
  | write bytes => ((client.write host bytes os).state, (client.write host bytes os).host)

/-- The settings after an operation, which only its caller changes. -/
def choose (settings : SocketSettings) : Operation → SocketSettings
  | setHostname hostname => { settings with hostname }
  | setPort port => { settings with port }
  | _ => settings

/-- The write that an operation is. -/
def writing? (host : Host σ) (client : UdpClient) (os : σ) : Operation → Option (Writing σ)
  | write bytes => some ⟨client, os, bytes, (client.write host bytes os).answer⟩
  | _ => none

end Operation

/-- Calls operations one after the other. -/
def runAll (host : Host σ) : List Operation → UdpClient → σ → UdpClient × σ
  | [], client, os => (client, os)
  | operation :: rest, client, os =>
      let done := operation.run host client os
      runAll host rest done.1 done.2

/-- The writes in a run, oldest first. -/
def writings (host : Host σ) : List Operation → UdpClient → σ → List (Writing σ)
  | [], _, _ => []
  | operation :: rest, client, os =>
      let done := operation.run host client os
      (operation.writing? host client os).toList ++ writings host rest done.1 done.2

/-- A write was successful, and this is the datagram that it sent. -/
structure Writing.Sent (host : Host σ) (writing : Writing (Posted σ)) (datagram : Datagram) :
    Prop where
  answer_eq : writing.answer = .ok writing.bytes.size
  bytes_eq : datagram.bytes = writing.bytes
  socket_eq : writing.client.socket = some datagram.socket
  leads : writing.client.settings.LeadsTo host writing.host.os datagram.destination

/-- A call that sends nothing comes to what it comes to without a record. -/
structure SendsNothing {α : Type} (posted : Posted σ) (recorded : α × Posted σ) (plain : α × σ) :
    Prop where
  observed : plain = (recorded.1, recorded.2.os)
  silent : recorded.2.sent = posted.sent

private theorem sendsNothing_closeHeld (held : Option Handle) :
    (host.posted.closeHeld held posted).os = host.closeHeld held posted.os ∧
      (host.posted.closeHeld held posted).sent = posted.sent := by
  cases held <;> exact ⟨rfl, rfl⟩

private theorem sendsNothing_openSocket (settings : SocketSettings) (blocking : Bool) :
    SendsNothing posted (openSocket host.posted settings blocking posted)
      (openSocket host settings blocking posted.os) := by
  simp only [openSocket, settings.destination_posted, StatePart.pass, Posted.part]
  generalize settings.destination host posted.os = located
  obtain ⟨fault | address, os⟩ := located
  · exact ⟨rfl, rfl⟩
  · have bound : host.posted.bindDatagram (posted.withOs os) =
        Posted.part.pass (posted.withOs os) (host.bindDatagram os) := rfl
    simp only [bound, Host.withMode, StatePart.pass, Posted.part]
    generalize host.bindDatagram os = opened
    obtain ⟨e | h, os⟩ := opened
    · exact ⟨rfl, rfl⟩
    · have chosen (posted : Posted σ) : host.posted.setBlocking h blocking posted =
          Posted.part.pass posted (host.setBlocking h blocking posted.os) := rfl
      simp only [chosen, StatePart.pass, Posted.part, Posted.os_withOs]
      generalize host.setBlocking h blocking os = chosen
      obtain ⟨e | _, os⟩ := chosen <;> exact ⟨rfl, rfl⟩

private theorem sendsNothing_bringUp :
    SendsNothing posted
      ((client.bringUp host.posted posted).state, (client.bringUp host.posted posted).host)
      ((client.bringUp host posted.os).state, (client.bringUp host posted.os).host) := by
  unfold bringUp
  split
  · exact ⟨rfl, rfl⟩
  · obtain ⟨closed_below, closed_silent⟩ := sendsNothing_closeHeld host posted client.socket
    simp only [disconnect, ← closed_below]
    generalize host.posted.closeHeld client.socket posted = between at closed_silent
    have opened := sendsNothing_openSocket host between client.settings client.blocking
    rw [opened.observed]
    have silent := opened.silent.trans closed_silent
    generalize openSocket host.posted client.settings client.blocking between = answered at silent
    obtain ⟨fault | h, after⟩ := answered <;> exact ⟨rfl, silent⟩

/-- Only a write sends anything. -/
theorem sendsNothing_run {operation : Operation}
    (other : ∀ bytes, operation ≠ .write bytes) :
    SendsNothing posted (operation.run host.posted client posted)
      (operation.run host client posted.os) := by
  cases operation with
  | setHostname | setPort => exact ⟨rfl, rfl⟩
  | setBlocking blocking =>
    simp only [Operation.run, setBlocking]
    cases client.socket <;> exact ⟨rfl, rfl⟩
  | bringUp => exact client.sendsNothing_bringUp host posted
  | disconnect =>
    simp only [Operation.run, disconnect]
    cases client.socket <;> exact ⟨rfl, rfl⟩
  | write bytes => exact absurd rfl (other bytes)

private theorem write_posted (bytes : ByteArray) :
    client.write host bytes posted.os =
      let done := client.write host.posted bytes posted
      ⟨done.answer, done.state, done.host.os⟩ := by
  unfold write
  split
  · rfl
  · rfl
  · split
    · rfl
    · simp only [SocketSettings.destination_posted, StatePart.pass, Posted.part]
      generalize client.settings.destination host posted.os = located
      obtain ⟨fault | address, os⟩ := located
      · rfl
      · simp only [Host.sendTo_posted, Posted.os_withOs]
        generalize host.sendTo _ bytes address os = answered
        obtain ⟨e | count, os⟩ := answered <;> rfl

private theorem run_posted (operation : Operation) :
    operation.run host client posted.os =
      let done := operation.run host.posted client posted
      (done.1, done.2.os) := by
  cases operation with
  | write bytes =>
    simp only [Operation.run, client.write_posted host posted]
  | _ => exact (client.sendsNothing_run host posted (by simp)).observed

theorem runAll_posted (operations : List Operation) :
    runAll host operations client posted.os =
      let done := runAll host.posted operations client posted
      (done.1, done.2.os) := by
  induction operations generalizing client posted with
  | nil => rfl
  | cons operation rest ih =>
    simp only [runAll, client.run_posted host posted operation]
    exact ih _ _

private theorem settings_bringUp (os : σ) :
    (client.bringUp host os).state.settings = client.settings := by
  unfold bringUp
  split
  · rfl
  · dsimp only
    split <;> rfl

private theorem settings_write (bytes : ByteArray) (os : σ) :
    (client.write host bytes os).state.settings = client.settings := by
  unfold write
  split
  · rfl
  · rfl
  · split
    · rfl
    · split
      · rfl
      · split <;> rfl

private theorem settings_run (operation : Operation) (os : σ) :
    (operation.run host client os).1.settings = operation.choose client.settings := by
  cases operation with
  | bringUp => exact client.settings_bringUp host os
  | write bytes => exact client.settings_write host bytes os
  | setHostname | setPort | setBlocking | disconnect => rfl

private theorem settings_runAll (operations : List Operation) (os : σ) :
    (runAll host operations client os).1.settings =
      operations.foldl Operation.choose client.settings := by
  induction operations generalizing client os with
  | nil => rfl
  | cons operation rest ih =>
    rw [runAll, ih, settings_run, List.foldl_cons]

/-- The successful ones of some writes. -/
def successes (writings : List (Writing σ)) : List (Writing σ) :=
  writings.filter (·.answer.isOk)

private theorem Posts.sent_eq {host : Host σ} {client : UdpClient} {posted : Posted σ}
    {bytes : ByteArray} {outcome : Outcome (Posted σ) UdpClient Nat}
    (posts : client.Posts host bytes posted outcome) :
    ∃ left, outcome.host.sent = posted.sent ++ left ∧
      List.Forall₂ (Writing.Sent host) (successes [⟨client, posted, bytes, outcome.answer⟩])
        left := by
  cases posts with
  | sent configured opened fits leads taken =>
    exact ⟨_, rfl, .cons ⟨rfl, rfl, opened, leads⟩ .nil⟩
  | _ => exact ⟨[], (List.append_nil _).symm, .nil⟩

variable {host}

private theorem sent_run (whole : host.SendsWhole) (operation : Operation) :
    ∃ left, (operation.run host.posted client posted).2.sent = posted.sent ++ left ∧
      List.Forall₂ (Writing.Sent host)
        (successes (operation.writing? host.posted client posted).toList) left := by
  cases operation with
  | write bytes => exact (client.posts_write host posted whole bytes).sent_eq
  | _ =>
    refine ⟨[], ?_, .nil⟩
    rw [List.append_nil]
    exact (client.sendsNothing_run host posted (by simp)).silent

private theorem sent_runAll (whole : host.SendsWhole) (operations : List Operation) :
    ∃ left, (runAll host.posted operations client posted).2.sent = posted.sent ++ left ∧
      List.Forall₂ (Writing.Sent host) (successes (writings host.posted operations client posted))
        left := by
  induction operations generalizing client posted with
  | nil => exact ⟨[], (List.append_nil _).symm, .nil⟩
  | cons operation rest ih =>
    obtain ⟨now, sent_now, matched_now⟩ := sent_run client posted whole operation
    obtain ⟨later, sent_later, matched_later⟩ := ih _ _
    refine ⟨now ++ later, ?_, ?_⟩
    · rw [runAll, sent_later, sent_now, List.append_assoc]
    · rw [successes, writings, List.filter_append]
      exact List.rel_append matched_now matched_later

/-- How the writes of a run follow the configuration. -/
structure FollowsSettings (host : Host σ) (client : UdpClient) (posted : Posted σ)
    (operations : List Operation) : Prop where
  /-- The record leaves the run as it is. -/
  observed : runAll host operations client posted.os =
    let run := runAll host.posted operations client posted
    (run.1, run.2.os)
  /-- What left are the datagrams of the successful writes, one for each of them, in their order. -/
  sent : ∃ left, (runAll host.posted operations client posted).2.sent = posted.sent ++ left ∧
    List.Forall₂ (Writing.Sent host) (successes (writings host.posted operations client posted))
      left
  /-- The configuration is the one that was chosen last. -/
  settings_eq : (runAll host.posted operations client posted).1.settings =
    operations.foldl Operation.choose client.settings
  /-- The next write. -/
  posts : ∀ bytes, let run := runAll host.posted operations client posted
    run.1.Posts host bytes run.2 (run.1.write host.posted bytes run.2)
  /-- No other operation sends anything. -/
  silent : ∀ operation : Operation, (∀ bytes, operation ≠ .write bytes) →
    let run := runAll host.posted operations client posted
    (operation.run host.posted run.1 run.2).2.sent = run.2.sent

/-- Whatever the operations before it, a write sends its bytes to where the configuration points at
that moment, or nothing. -/
theorem runAll_followsSettings (host : Host σ) (whole : host.SendsWhole) (client : UdpClient)
    (posted : Posted σ) (operations : List Operation) :
    client.FollowsSettings host posted operations where
  observed := client.runAll_posted host posted operations
  sent := sent_runAll client posted whole operations
  settings_eq := client.settings_runAll host.posted operations posted
  posts := fun bytes => posts_write host _ _ whole bytes
  silent := fun _ other => (sendsNothing_run host _ _ other).silent

private theorem sendsWhole_loopback : Host.SendsWhole Loopback.World.host := by
  intro h bytes address world count answered
  change (world.sendTo h bytes address).1 = .ok count at answered
  unfold Loopback.World.sendTo at answered
  split at answered
  · cases answered
  split at answered
  · cases answered
  split at answered
  · cases answered
  split at answered <;> exact (Except.ok.inj answered).symm

/-- The port is cleared and then set to that of another receiver. Later the host refuses to send,
which costs the socket. -/
theorem followsSettings_between_receivers :
    let client : UdpClient := { settings := { hostname := "localhost", port := 4001 } }
    let posted : Posted Loopback.World := { os := {} }
    let operations : List Operation :=
      [.bringUp, .write ⟨#[1]⟩, .setPort 0, .write ⟨#[2]⟩, .setPort 4002, .write ⟨#[3]⟩,
        .setHostname "127.255.255.255", .write ⟨#[4]⟩, .write ⟨#[5]⟩]
    let run := runAll (Host.posted Loopback.World.host) operations client posted
    Host.SendsWhole Loopback.World.host ∧
      client.FollowsSettings Loopback.World.host posted operations ∧
      run.2.sent = [⟨⟨0⟩, ⟨#[1]⟩, ⟨Loopback.World.loopback, 4001⟩⟩,
        ⟨⟨0⟩, ⟨#[3]⟩, ⟨Loopback.World.loopback, 4002⟩⟩] ∧
      run.1.socket = none ∧ run.2.closed = [⟨0⟩] :=
  ⟨sendsWhole_loopback, runAll_followsSettings _ sendsWhole_loopback _ _ _, rfl, rfl, rfl⟩

end UdpClient

end InstrumentLink
