import InstrumentLink.Identity
import InstrumentLink.Proofs.Endpoint.Transition
import InstrumentLink.Proofs.Host.Keeps
import InstrumentLink.Proofs.Host.Within

/-!
# Ledgers of what was opened

A ledger gives every resource that a host opens a handle of its own, and notes for what it was
opened. The host below answers as it would without a ledger, and sees its own handles: those of the
ledger only name the entries, so that a number which the host uses again stands for one opening.
-/

namespace InstrumentLink

variable {σ : Type}

/-- For what a resource was opened. A socket that needs an address comes with the host name that
was looked up last, and what that led to. -/
inductive Opening
  | stream (resolved : Option (String × List IpAddress)) (address : SocketAddress)
  | listening (port : UInt16)
  /-- A client was accepted from a socket. -/
  | client (socket : Handle)
  | datagram (resolved : Option (String × List IpAddress))
  | line (settings : LineSettings) (timeout : LineTimeout)

/-- A host with a ledger. -/
structure Ledger (σ : Type) where
  os : σ
  /-- The last host name that was looked up, with its addresses. -/
  resolved : Option (String × List IpAddress) := none
  /-- What was opened, and the host's own handle of it, oldest first. -/
  entries : List (Opening × Handle) := []

namespace Ledger

/-- For what a handle was opened. -/
def opening? (ledger : Ledger σ) (h : Handle) : Option Opening :=
  (ledger.entries[h.number]?).map Prod.fst

/-- The host's own handle. -/
def actual (ledger : Ledger σ) (h : Handle) : Handle :=
  ((ledger.entries[h.number]?).map Prod.snd).getD h

def part : StatePart σ (Ledger σ) where
  os := os
  withOs := fun os ledger => { ledger with os }
  actual := actual

/-- The ledger after a host name was looked up. -/
def resolve (ledger : Ledger σ) (hostname : String)
    (answered : Except IoError (List IpAddress) × σ) :
    Except IoError (List IpAddress) × Ledger σ :=
  (answered.1,
    { ledger with
      os := answered.2
      resolved := answered.1.toOption.map fun addresses => (hostname, addresses) })

/-- The ledger after a request to open something. -/
def enter (ledger : Ledger σ) (opening : Opening) (answered : Except IoError Handle × σ) :
    Except IoError Handle × Ledger σ :=
  match answered with
  | (.ok h, os) =>
      (.ok ⟨ledger.entries.length⟩,
        { ledger with os, entries := ledger.entries ++ [(opening, h)] })
  | (.error e, os) => (.error e, { ledger with os })

/-- A later ledger has all entries of an earlier one, under the same handles. -/
def Extends (before after : Ledger σ) : Prop := before.entries <+: after.entries

theorem Extends.refl (ledger : Ledger σ) : ledger.Extends ledger := List.prefix_rfl

theorem Extends.trans {first second third : Ledger σ} (grown : first.Extends second)
    (again : second.Extends third) : first.Extends third :=
  List.IsPrefix.trans grown again

private theorem Extends.entry_eq {before after : Ledger σ} (grown : before.Extends after)
    {h : Handle} (known : (before.opening? h).isSome) :
    after.entries[h.number]? = before.entries[h.number]? := by
  obtain ⟨more, entries_eq⟩ := grown
  rw [opening?, Option.isSome_map, isSome_getElem?] at known
  rw [← entries_eq, List.getElem?_append_left known]

theorem Extends.opening?_eq {before after : Ledger σ} (grown : before.Extends after) {h : Handle}
    {opening : Opening} (noted : before.opening? h = some opening) :
    after.opening? h = some opening := by
  rw [opening?, grown.entry_eq (by rw [noted]; rfl)]
  exact noted

theorem Extends.actual_eq {before after : Ledger σ} (grown : before.Extends after) {h : Handle}
    (known : (before.opening? h).isSome) : after.actual h = before.actual h := by
  rw [actual, grown.entry_eq known]
  rfl

theorem extends_enter (ledger : Ledger σ) (opening : Opening)
    (answered : Except IoError Handle × σ) : ledger.Extends (ledger.enter opening answered).2 := by
  unfold enter
  split
  · exact List.prefix_append _ _
  · exact List.prefix_rfl

theorem opening?_of_enter {ledger ledger' : Ledger σ} {opening : Opening}
    {answered : Except IoError Handle × σ} {h : Handle}
    (entered : ledger.enter opening answered = (.ok h, ledger')) :
    ledger'.opening? h = some opening := by
  unfold enter at entered
  split at entered
  · cases entered
    simp [opening?]
  · cases entered

private theorem resolved_of_enter_error {ledger ledger' : Ledger σ} {opening : Opening}
    {answered : Except IoError Handle × σ} {e : IoError}
    (refused : ledger.enter opening answered = (.error e, ledger')) :
    ledger'.resolved = ledger.resolved := by
  unfold enter at refused
  split at refused
  · cases refused
  · cases refused
    rfl

end Ledger

/-- The host with a ledger of what it opens. -/
def Host.ledger (host : Host σ) : Host (Ledger σ) :=
  { host.within Ledger.part with
    lookup := fun hostname ledger => ledger.resolve hostname (host.lookup hostname ledger.os)
    connect := fun address ledger =>
      ledger.enter (.stream ledger.resolved address) (host.connect address ledger.os)
    listen := fun port ledger => ledger.enter (.listening port) (host.listen port ledger.os)
    accept := fun h ledger => ledger.enter (.client h) (host.accept (ledger.actual h) ledger.os)
    bindDatagram := fun ledger =>
      ledger.enter (.datagram ledger.resolved) (host.bindDatagram ledger.os)
    openLine := fun settings timeout ledger =>
      ledger.enter (.line settings timeout) (host.openLine settings timeout ledger.os) }

/-- No request takes anything out of the ledger. -/
theorem Host.keeps_extends (host : Host σ) : host.ledger.Keeps Ledger.Extends where
  refl := Ledger.Extends.refl
  trans := Ledger.Extends.trans
  request := by
    intro given taken ledger ledger' request
    cases request with
    | connect | listen | accept | bindDatagram | openLine => exact ledger.extends_enter _ _
    | _ => exact List.prefix_rfl

namespace Ledger

/-- Whether a handle stands for a resource that was opened for an identity. -/
def OpenedFor (ledger : Ledger σ) (h : Handle) : Identity → Prop
  | .tcpClient settings =>
      ∃ addresses, ∃ ip ∈ addresses,
        ledger.opening? h =
          some (.stream (some (settings.hostname, addresses)) ⟨ip, settings.port⟩)
  | .udpClient settings =>
      ∃ addresses, ledger.opening? h = some (.datagram (some (settings.hostname, addresses)))
  | .listener port => ∃ number, port = some number ∧ ledger.opening? h = some (.listening number)
  | .serialLine settings => ∃ timeout, ledger.opening? h = some (.line settings timeout)

theorem OpenedFor.mono {before after : Ledger σ} {h : Handle} {identity : Identity}
    (opened : before.OpenedFor h identity) (grown : before.Extends after) :
    after.OpenedFor h identity := by
  cases identity with
  | tcpClient settings =>
    obtain ⟨addresses, ip, mem, noted⟩ := opened
    exact ⟨addresses, ip, mem, grown.opening?_eq noted⟩
  | udpClient settings =>
    obtain ⟨addresses, noted⟩ := opened
    exact ⟨addresses, grown.opening?_eq noted⟩
  | listener port =>
    obtain ⟨number, port_eq, noted⟩ := opened
    exact ⟨number, port_eq, grown.opening?_eq noted⟩
  | serialLine settings =>
    obtain ⟨timeout, noted⟩ := opened
    exact ⟨timeout, grown.opening?_eq noted⟩

end Ledger

section Opened

variable (host : Host σ) {ledger ledger' : Ledger σ} {h : Handle}

private theorem resolved_of_resolve {settings : SocketSettings} {addresses : List SocketAddress}
    (resolved : settings.resolve host.ledger ledger = (.ok addresses, ledger')) :
    ∃ ips, ledger'.resolved = some (settings.hostname, ips) ∧
      addresses = ips.map fun ip => ⟨ip, settings.port⟩ := by
  unfold SocketSettings.resolve at resolved
  split at resolved
  · cases resolved
  · cases resolved
  · next ips between _ answered =>
    cases resolved
    have answer : (host.lookup settings.hostname ledger.os).1 = .ok ips :=
      congrArg Prod.fst answered
    have left := congrArg (fun answered => answered.2.resolved) answered
    refine ⟨ips, ?_, rfl⟩
    rw [← left]
    simp [Host.ledger, Ledger.resolve, answer, Except.toOption]

private theorem opening?_of_connectAny {failed : IoError} {addresses : List SocketAddress}
    (connected : host.ledger.connectAny failed ledger addresses = (.ok h, ledger')) :
    ∃ address ∈ addresses, ledger'.opening? h = some (.stream ledger.resolved address) := by
  induction addresses generalizing failed ledger with
  | nil => cases connected
  | cons address rest ih =>
    unfold Host.connectAny at connected
    split at connected
    · next h' between answered =>
      cases connected
      exact ⟨address, List.mem_cons_self, Ledger.opening?_of_enter answered⟩
    · next e between answered =>
      obtain ⟨other, mem, noted⟩ := ih connected
      refine ⟨other, List.mem_cons_of_mem _ mem, ?_⟩
      rw [noted, Ledger.resolved_of_enter_error answered]

private theorem openedFor_of_openStream {settings : SocketSettings} {blocking : Bool}
    (opened : TcpClient.openStream host.ledger settings blocking ledger = (.ok h, ledger')) :
    ledger'.OpenedFor h (.tcpClient settings) := by
  unfold TcpClient.openStream at opened
  split at opened
  · cases opened
  · next addresses between answered =>
    obtain ⟨ips, resolved, addresses_eq⟩ := resolved_of_resolve host answered
    split at opened
    · next h' last chosen =>
      cases opened
      obtain ⟨before, connected, grown⟩ := host.keeps_extends.withMode_of_ok chosen
      obtain ⟨address, mem, noted⟩ := opening?_of_connectAny host connected
      rw [addresses_eq] at mem
      obtain ⟨ip, mem_ips, rfl⟩ := List.mem_map.mp mem
      rw [resolved] at noted
      exact ⟨ips, ip, mem_ips, grown.opening?_eq noted⟩
    · cases opened

private theorem openedFor_of_openSocket {settings : SocketSettings} {blocking : Bool}
    (opened : UdpClient.openSocket host.ledger settings blocking ledger = (.ok h, ledger')) :
    ledger'.OpenedFor h (.udpClient settings) := by
  unfold UdpClient.openSocket SocketSettings.destination at opened
  split at opened
  · cases opened
  · next address between looked_up =>
    split at looked_up
    · cases looked_up
    · next addresses resolved_at answered =>
      obtain ⟨ips, resolved, -⟩ := resolved_of_resolve host answered
      split at looked_up
      · cases looked_up
        split at opened
        · next h' last chosen =>
          cases opened
          obtain ⟨before, bound, grown⟩ := host.keeps_extends.withMode_of_ok chosen
          have noted := Ledger.opening?_of_enter bound
          rw [resolved] at noted
          exact ⟨ips, grown.opening?_eq noted⟩
        · cases opened
      · cases looked_up

/-- A handle that an endpoint is given was opened for what the endpoint is configured to be. -/
theorem openedFor_of_opens {endpoint : Endpoint}
    (opens : endpoint.Opens host.ledger ledger h ledger') :
    ledger'.OpenedFor h endpoint.identity := by
  cases endpoint with
  | tcpClient client => exact openedFor_of_openStream host opens
  | udpClient client => exact openedFor_of_openSocket host opens
  | listener l =>
    obtain ⟨port, present, chosen⟩ := opens
    obtain ⟨before, listening, grown⟩ := host.keeps_extends.withMode_of_ok chosen
    exact ⟨port, present, grown.opening?_eq (Ledger.opening?_of_enter listening)⟩
  | serialLine line => exact ⟨line.timeout, Ledger.opening?_of_enter opens⟩

end Opened

end InstrumentLink
