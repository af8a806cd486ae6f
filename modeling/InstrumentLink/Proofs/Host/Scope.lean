import InstrumentLink.Proofs.Host.Watched

namespace InstrumentLink

variable {σ : Type}

theorem Ledger.Extends.isSome_opening? {before after : Ledger σ} (grown : before.Extends after)
    {h : Handle} (known : (before.opening? h).isSome) : (after.opening? h).isSome := by
  obtain ⟨opening, noted⟩ := Option.isSome_iff_exists.mp known
  rw [grown.opening?_eq noted]
  rfl

theorem Ledger.Extends.opening?_eq_none {before after : Ledger σ} (grown : before.Extends after)
    {h : Handle} (new : after.opening? h = none) : before.opening? h = none := by
  rw [← Option.not_isSome_iff_eq_none] at new ⊢
  exact fun known => new (grown.isSome_opening? known)

theorem Ledger.opening?_eq_none_of_enter {ledger ledger' : Ledger σ} {opening : Opening}
    {answered : Except IoError Handle × σ} {h : Handle}
    (entered : ledger.enter opening answered = (.ok h, ledger')) : ledger.opening? h = none := by
  unfold enter at entered
  split at entered
  · cases entered
    simp [opening?]
  · cases entered

namespace Watched

/-- What is held is one of some handles of one's own, or was opened since the start. What was open
at the start and not one's own still is. -/
def scope (start : Watched σ) (own : List Handle) : Custody (Watched σ) where
  Holds := fun watched held =>
    start.ledger.Extends watched.ledger ∧
      (∀ h ∈ held, h ∈ own ∨ start.ledger.opening? h = none) ∧
      ∀ h, start.IsOpen h → h ∉ own → watched.IsOpen h
  perm := fun same ⟨grown, bounded, still⟩ =>
    ⟨grown, fun h mem => bounded h (same.mem_iff.mpr mem), still⟩

variable (start : Watched σ) (own : List Handle)

theorem scope_holds : (start.scope own).Holds start own :=
  ⟨Ledger.Extends.refl _, fun _ mem => Or.inl mem, fun _ opened _ => opened⟩

private theorem scope_of_extends (watched : Watched σ) {ledger : Ledger σ}
    (grown : watched.ledger.Extends ledger) :
    (start.scope own).Exchanges [] [] watched { watched with ledger } := by
  rintro others ⟨before, bounded, still⟩
  refine ⟨before.trans grown, bounded, fun h opened other => ?_⟩
  obtain ⟨known, unclosed⟩ := still h opened other
  exact ⟨grown.isSome_opening? known, unclosed⟩

private theorem scope_enter (watched : Watched σ) (opening : Opening)
    (answered : Except IoError Handle × σ) :
    (start.scope own).Exchanges [] (granted (watched.ledger.enter opening answered).1) watched
      (part.pass watched (watched.ledger.enter opening answered)).2 := by
  intro others holds
  obtain ⟨grown, bounded, still⟩ :=
    scope_of_extends start own watched (watched.ledger.extends_enter opening answered) others holds
  refine ⟨grown, fun h mem => ?_, still⟩
  rcases List.mem_append.mp mem with given | other
  · -- the handle is new to the ledger, so it was new at the start
    right
    cases entered : watched.ledger.enter opening answered with
    | mk answer ledger' =>
      rw [entered] at given
      cases answer with
      | error e => cases given
      | ok h' =>
        rw [List.mem_singleton.mp given]
        exact holds.1.opening?_eq_none (Ledger.opening?_eq_none_of_enter entered)
  · exact bounded h other

end Watched

/-- Requests keep to the scope of whoever makes them. -/
theorem Host.respects_scope (host : Host σ) (start : Watched σ) (own : List Handle) :
    host.watched.Respects (start.scope own) where
  request := by
    intro given taken watched watched' request
    cases request with
    | close h =>
      rintro others ⟨grown, bounded, still⟩
      refine ⟨grown, fun h' mem => bounded h' (List.mem_append_right _ mem), ?_⟩
      intro h' opened other
      obtain ⟨known, unclosed⟩ := still h' opened other
      refine ⟨known, fun closed => ?_⟩
      rcases List.mem_append.mp closed with earlier | now
      · exact unclosed earlier
      · -- what is closed now is held, so it is one's own or was not open at the start
        rw [List.mem_singleton.mp now] at opened other
        rcases bounded h (List.mem_append_left _ List.mem_cons_self) with mine | new
        · exact other mine
        · rw [Watched.IsOpen, new] at opened
          exact Bool.false_ne_true opened.1
    | connect | listen | accept | bindDatagram | openLine =>
      exact Watched.scope_enter start own watched _ _
    | _ => exact Watched.scope_of_extends start own watched List.prefix_rfl

/-! ### The ledger under the record -/

/-- An answer with the ledger that comes with it. -/
private def Watched.below {α : Type} (answered : α × Watched σ) : α × Ledger σ :=
  (answered.1, answered.2.ledger)

section Below

open Watched

variable (host : Host σ) (watched : Watched σ)

private theorem below_withMode (blocking : Bool) (opened : Except IoError Handle × Watched σ) :
    below (host.watched.withMode blocking opened) =
      host.ledger.withMode blocking (below opened) := by
  obtain ⟨e | h, between⟩ := opened
  · rfl
  · have chosen : host.watched.setBlocking h blocking between =
        part.pass between (host.ledger.setBlocking h blocking between.ledger) := rfl
    simp only [Host.withMode, chosen, Watched.below, StatePart.pass, Watched.part]
    generalize host.ledger.setBlocking h blocking between.ledger = answered
    obtain ⟨e | _, ledger⟩ := answered <;> rfl

private theorem below_connectAny (failed : IoError) (addresses : List SocketAddress) :
    below (host.watched.connectAny failed watched addresses) =
      host.ledger.connectAny failed watched.ledger addresses := by
  induction addresses generalizing failed watched with
  | nil => rfl
  | cons address rest ih =>
    have tried : host.watched.connect address watched =
        part.pass watched (host.ledger.connect address watched.ledger) := rfl
    simp only [Host.connectAny, tried, StatePart.pass, Watched.part]
    generalize host.ledger.connect address watched.ledger = answered
    obtain ⟨e | h, ledger⟩ := answered
    · exact ih _ e
    · rfl

private theorem below_resolve (settings : SocketSettings) :
    below (settings.resolve host.watched watched) =
      settings.resolve host.ledger watched.ledger := by
  have looked_up : host.watched.lookup settings.hostname watched =
      part.pass watched (host.ledger.lookup settings.hostname watched.ledger) := rfl
  simp only [SocketSettings.resolve, looked_up, StatePart.pass, Watched.part]
  generalize host.ledger.lookup settings.hostname watched.ledger = answered
  obtain ⟨e | addresses, ledger⟩ := answered
  · rfl
  · cases addresses <;> rfl

private theorem below_destination (settings : SocketSettings) :
    below (settings.destination host.watched watched) =
      settings.destination host.ledger watched.ledger := by
  unfold SocketSettings.destination
  rw [← below_resolve]
  generalize settings.resolve host.watched watched = answered
  obtain ⟨fault | addresses, between⟩ := answered
  · rfl
  · simp only [below]
    split <;> rfl

private theorem below_openStream (settings : SocketSettings) (blocking : Bool) :
    below (TcpClient.openStream host.watched settings blocking watched) =
      TcpClient.openStream host.ledger settings blocking watched.ledger := by
  unfold TcpClient.openStream
  rw [← below_resolve]
  generalize settings.resolve host.watched watched = answered
  obtain ⟨fault | addresses, between⟩ := answered
  · rfl
  · simp only [below]
    rw [← below_connectAny, ← below_withMode]
    generalize host.watched.withMode blocking _ = chosen
    obtain ⟨e | h, after⟩ := chosen <;> rfl

private theorem below_openSocket (settings : SocketSettings) (blocking : Bool) :
    below (UdpClient.openSocket host.watched settings blocking watched) =
      UdpClient.openSocket host.ledger settings blocking watched.ledger := by
  unfold UdpClient.openSocket
  rw [← below_destination]
  generalize settings.destination host.watched watched = answered
  obtain ⟨fault | address, between⟩ := answered
  · rfl
  · have bound : below (host.watched.bindDatagram between) =
        host.ledger.bindDatagram between.ledger := rfl
    simp only [below]
    rw [← bound, ← below_withMode]
    generalize host.watched.withMode blocking _ = chosen
    obtain ⟨e | h, after⟩ := chosen <;> rfl

end Below

variable {host : Host σ} {watched watched' : Watched σ} {h : Handle} {endpoint : Endpoint}

private theorem opens_ledger (opens : endpoint.Opens host.watched watched h watched') :
    endpoint.Opens host.ledger watched.ledger h watched'.ledger := by
  cases endpoint with
  | tcpClient client =>
    rw [Endpoint.Opens, ← below_openStream, show TcpClient.openStream _ _ _ _ = _ from opens]
    rfl
  | udpClient client =>
    rw [Endpoint.Opens, ← below_openSocket, show UdpClient.openSocket _ _ _ _ = _ from opens]
    rfl
  | listener l =>
    obtain ⟨port, present, chosen⟩ := opens
    refine ⟨port, present, ?_⟩
    have listening : Watched.below (host.watched.listen port watched) =
        host.ledger.listen port watched.ledger := rfl
    rw [← listening, ← below_withMode, chosen]
    rfl
  | serialLine line => exact congrArg Watched.below opens

theorem openedFor_of_opens_watched (opens : endpoint.Opens host.watched watched h watched') :
    watched'.ledger.OpenedFor h endpoint.identity :=
  openedFor_of_opens host (opens_ledger opens)

end InstrumentLink
