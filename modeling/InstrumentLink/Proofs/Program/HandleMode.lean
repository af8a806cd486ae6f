import InstrumentLink.Proofs.Host.Attuned
import InstrumentLink.Proofs.Program.Acting
import InstrumentLink.Proofs.Program.Ownership

/-! # No action touches the mode of a handle that its endpoint does not have -/

namespace InstrumentLink

variable {σ : Type}

namespace Host

variable (host : Host σ) {h : Handle} {attuned : Attuned σ}

private theorem withMode_ignoring (known : attuned.Knows h)
    {opened : Except IoError Handle × Attuned σ}
    (exchange : Attuned.custody.Exchanges [] (granted opened.1) attuned opened.2)
    (blocking : Bool) :
    (host.attuned.ignoring h).withMode blocking opened = host.attuned.withMode blocking opened := by
  obtain ⟨answer, os⟩ := opened
  cases answer with
  | error e => rfl
  | ok own =>
    -- what has just been opened is not `h`, so its mode is chosen after all
    have apart := (Attuned.ne_of_exchanges known exchange rfl).symm
    simp only [withMode, ignoring, if_neg apart]

private theorem connectAny_ignoring (host : Host σ) (h : Handle) (failed : IoError) (os : σ)
    (addresses : List SocketAddress) :
    (host.ignoring h).connectAny failed os addresses = host.connectAny failed os addresses := by
  induction addresses generalizing failed os with
  | nil => rfl
  | cons address rest ih =>
    simp only [connectAny, ignoring]
    split
    · rfl
    · exact ih _ _

private theorem blocking_of_withMode {blocking : Bool} {opened : Except IoError Handle × Attuned σ}
    {after : Attuned σ} (chosen : host.attuned.withMode blocking opened = (.ok h, after)) :
    after.blocking h = some blocking := by
  unfold withMode at chosen
  split at chosen
  · cases chosen
  · next own before =>
    split at chosen
    · next os answered =>
      cases chosen
      simp only [attuned, Attuned.chooseBlocking] at answered
      split at answered
      · cases answered
        exact Function.update_self _ _ _
      · cases answered
    · cases chosen

end Host

section Ignoring

variable (host : Host σ) {h : Handle} {attuned : Attuned σ} (known : attuned.Knows h)

include known

private theorem TcpClient.openStream_ignoring (settings : SocketSettings) (blocking : Bool) :
    openStream (host.attuned.ignoring h) settings blocking attuned =
      openStream host.attuned settings blocking attuned := by
  have resolved := host.respects_attuned.resolve settings attuned
  have same : settings.resolve (host.attuned.ignoring h) attuned =
      settings.resolve host.attuned attuned := rfl
  simp only [openStream, Host.connectAny_ignoring, same]
  split
  · rfl
  · next addresses between answered =>
    rw [answered] at resolved
    have connected := resolved.trans
      (host.respects_attuned.connectAny .noAddress between addresses)
    rw [host.withMode_ignoring known connected]

private theorem UdpClient.openSocket_ignoring (settings : SocketSettings) (blocking : Bool) :
    openSocket (host.attuned.ignoring h) settings blocking attuned =
      openSocket host.attuned settings blocking attuned := by
  have looked_up := host.respects_attuned.destination settings attuned
  have same : settings.destination (host.attuned.ignoring h) attuned =
      settings.destination host.attuned attuned := rfl
  simp only [openSocket, same]
  split
  · rfl
  · next address between answered =>
    rw [answered] at looked_up
    have bound := looked_up.trans (host.respects_attuned.request (.bindDatagram between))
    have same : (host.attuned.ignoring h).bindDatagram between =
        host.attuned.bindDatagram between := rfl
    rw [same, host.withMode_ignoring known bound]

private theorem Listener.accept_ignoring (l : Listener) :
    l.accept (host.attuned.ignoring h) attuned = l.accept host.attuned attuned := by
  unfold accept
  split
  · rfl
  · rfl
  · next socket _ _ =>
    have taken := host.respects_attuned.request (.accept socket attuned)
    have same : (host.attuned.ignoring h).accept socket attuned =
        host.attuned.accept socket attuned := rfl
    rw [same]
    split
    · rfl
    · next own between answered =>
      rw [answered] at taken
      rw [host.withMode_ignoring known taken]

namespace Endpoint

private theorem bringUp_ignoring (endpoint : Endpoint) :
    endpoint.bringUp (host.attuned.ignoring h) attuned = endpoint.bringUp host.attuned attuned := by
  -- the old handles are given up first, and `h`, which may be one of them, is still known then
  have ended := ((host.keeps_ignoring h).respects attuned).disconnect endpoint attuned
  have still_known := known.mono ((host.keeps_ignoring h).of_exchanges ended).opened
  cases endpoint with
  | tcpClient client =>
    have connected : TcpClient.openStream (host.attuned.ignoring h) client.settings client.blocking
        ((host.attuned.ignoring h).endHeld .write client.stream attuned) =
          TcpClient.openStream host.attuned client.settings client.blocking
            (host.attuned.endHeld .write client.stream attuned) :=
      TcpClient.openStream_ignoring host still_known client.settings client.blocking
    simp only [bringUp, TcpClient.bringUp, TcpClient.disconnect, connected]
  | udpClient client =>
    have bound : UdpClient.openSocket (host.attuned.ignoring h) client.settings client.blocking
        ((host.attuned.ignoring h).closeHeld client.socket attuned) =
          UdpClient.openSocket host.attuned client.settings client.blocking
            (host.attuned.closeHeld client.socket attuned) :=
      UdpClient.openSocket_ignoring host still_known client.settings client.blocking
    simp only [bringUp, UdpClient.bringUp, UdpClient.disconnect, bound]
  | listener l =>
    simp only [bringUp, Listener.bringUp]
    split
    · rfl
    · next port present =>
      have listening := host.respects_attuned.request
        (.listen port (l.disconnect host.attuned attuned).2)
      have chosen : (host.attuned.ignoring h).withMode l.blocking
          ((host.attuned.ignoring h).listen port
            (l.disconnect (host.attuned.ignoring h) attuned).2) =
            host.attuned.withMode l.blocking
              (host.attuned.listen port (l.disconnect host.attuned attuned).2) :=
        host.withMode_ignoring still_known listening l.blocking
      simp only [Listener.disconnect, Listener.disconnectClient] at chosen ⊢
      rw [chosen]
      rfl
  -- a line gets its timeout with the request that opens it
  | serialLine line => rfl

private theorem attach_ignoring (endpoint : Endpoint) :
    endpoint.attach (host.attuned.ignoring h) attuned = endpoint.attach host.attuned attuned := by
  cases endpoint with
  | listener l => exact congrArg (Outcome.inState · listener) (l.accept_ignoring host known)
  | tcpClient client => exact bringUp_ignoring host known (.tcpClient client)
  | udpClient client => exact bringUp_ignoring host known (.udpClient client)
  | serialLine line => exact bringUp_ignoring host known (.serialLine line)

end Endpoint

end Ignoring

section Apart

variable (host : Host σ) {h : Handle}

private theorem Host.setHeldBlocking_ignoring {held : Option Handle} (apart : h ∉ held.toList)
    (blocking : Bool) (os : σ) :
    (host.ignoring h).setHeldBlocking held blocking os = host.setHeldBlocking held blocking os := by
  cases held with
  | none => rfl
  | some own =>
    have ne : h ≠ own := by simpa using apart
    simp only [setHeldBlocking, ignoring, if_neg ne]

private theorem Host.setHeldTimeout_ignoring {held : Option Handle} (apart : h ∉ held.toList)
    (timeout : LineTimeout) (os : σ) :
    (host.ignoring h).setHeldTimeout held timeout os = host.setHeldTimeout held timeout os := by
  cases held with
  | none => rfl
  | some own =>
    have ne : h ≠ own := by simpa using apart
    simp only [setHeldTimeout, ignoring, if_neg ne]

private theorem Endpoint.setBlocking_ignoring {endpoint : Endpoint} (apart : h ∉ endpoint.handles)
    (blocking : Bool) (os : σ) :
    endpoint.setBlocking (host.ignoring h) blocking os = endpoint.setBlocking host blocking os := by
  cases endpoint with
  | tcpClient client =>
    simp only [setBlocking, TcpClient.setBlocking, host.setHeldBlocking_ignoring apart]
  | udpClient client =>
    simp only [setBlocking, UdpClient.setBlocking, host.setHeldBlocking_ignoring apart]
  | listener l =>
    obtain ⟨socket, client⟩ := not_or.mp (List.mem_append.not.mp apart)
    simp only [setBlocking, Listener.setBlocking, host.setHeldBlocking_ignoring socket,
      host.setHeldBlocking_ignoring client]
  | serialLine line =>
    simp only [setBlocking, SerialLine.setBlocking, host.setHeldTimeout_ignoring apart]

end Apart

namespace Endpoint

section Action

variable (host : Host σ) {action : Action} {endpoint : Endpoint} {h : Handle} {attuned : Attuned σ}

private theorem Action.run_ignoring (known : attuned.Knows h)
    (apart : h ∉ endpoint.handles ∨ action.flag? = none) :
    action.run (host.attuned.ignoring h) endpoint attuned =
      action.run host.attuned endpoint attuned := by
  cases action with
  | operate operation =>
    cases operation with
    | set setting =>
      cases setting with
      | blocking mode =>
        have foreign := apart.resolve_right (Option.some_ne_none mode)
        exact endpoint.setBlocking_ignoring host.attuned foreign mode attuned
      | _ => cases endpoint <;> rfl
    | bringUp => simp only [run, Operation.run, bringUp_ignoring host known]
    | attach => simp only [run, Operation.run, attach_ignoring host known]
    | _ => cases endpoint <;> rfl
  | replace identity mode => cases endpoint <;> rfl

/-- An action leaves the modes of handles that the endpoint does not have, and those of its own
unless it chooses one. -/
theorem Action.leavesMode (known : attuned.Knows h)
    (apart : h ∉ endpoint.handles ∨ action.flag? = none) :
    Attuned.LeavesMode h attuned (action.run host.attuned endpoint attuned).2 := by
  have keeps := host.keeps_ignoring h
  rw [← run_ignoring host known apart]
  exact keeps.of_exchanges ((keeps.respects attuned).act action endpoint attuned)

end Action

/-- Every handle of an endpoint is in the mode that the flag says. -/
def InMode (endpoint : Endpoint) (attuned : Attuned σ) : Prop :=
  ∀ h ∈ endpoint.handles, attuned.HasMode endpoint.kind endpoint.blocking h

section InMode

variable {endpoint : Endpoint} {attuned attuned' : Attuned σ}

theorem inMode_of_bare (bare : endpoint.handles = []) : endpoint.InMode attuned := by
  intro h mem
  rw [bare] at mem
  cases mem

theorem InMode.left (in_mode : endpoint.InMode attuned)
    (known : ∀ h ∈ endpoint.handles, attuned.Knows h)
    (leaves : ∀ h ∈ endpoint.handles, Attuned.LeavesMode h attuned attuned') :
    endpoint.InMode attuned' :=
  fun h mem => (leaves h mem).hasMode (known h mem) (in_mode h mem)

private theorem InMode.cut (in_mode : endpoint.InMode attuned) : endpoint.cut.InMode attuned := by
  cases endpoint with
  | listener l =>
    intro h mem
    have own : h ∈ l.socket.toList := by simpa [handles, Endpoint.cut] using mem
    exact in_mode h (List.mem_append_left _ own)
  | _ => exact inMode_of_bare rfl

private theorem InMode.retuned (in_mode : endpoint.InMode attuned) {after : Endpoint}
    (retuned : endpoint.Retuned after) (flag : after.blocking = endpoint.blocking) :
    after.InMode attuned := by
  unfold InMode
  rw [retuned.handles_eq, retuned.kind_eq, flag]
  exact in_mode

end InMode

end Endpoint

namespace Host.SetsModes

variable {host : Host σ} (sets : host.SetsModes)

include sets

private theorem blocking_setBlocking (h : Handle) (mode : Bool) (attuned : Attuned σ) :
    (host.attuned.setBlocking h mode attuned).2.blocking =
      Function.update attuned.blocking h (some mode) := by
  have told := sets.setBlocking (attuned.ledger.actual h) mode attuned.ledger.os
  cases answered : host.setBlocking (attuned.ledger.actual h) mode attuned.ledger.os with
  | mk answer os =>
    rw [answered] at told
    cases told
    have asked : host.attuned.setBlocking h mode attuned =
        attuned.chooseBlocking h mode (Ledger.part.pass attuned.ledger
          (host.setBlocking (attuned.ledger.actual h) mode attuned.ledger.os)) := rfl
    rw [asked, answered]
    rfl

private theorem timeout_setTimeout (h : Handle) (timeout : LineTimeout) (attuned : Attuned σ) :
    (host.attuned.setTimeout h timeout attuned).2.timeout =
      Function.update attuned.timeout h (some timeout) := by
  have told := sets.setTimeout (attuned.ledger.actual h) timeout attuned.ledger.os
  cases answered : host.setTimeout (attuned.ledger.actual h) timeout attuned.ledger.os with
  | mk answer os =>
    rw [answered] at told
    cases told
    have asked : host.attuned.setTimeout h timeout attuned =
        attuned.chooseTimeout h timeout (Ledger.part.pass attuned.ledger
          (host.setTimeout (attuned.ledger.actual h) timeout attuned.ledger.os)) := rfl
    rw [asked, answered]
    rfl

private theorem blocking_setHeldBlocking {held : Option Handle} {mode : Bool} {attuned : Attuned σ}
    {h : Handle} (told : h ∈ held.toList ∨ attuned.blocking h = some mode) :
    (host.attuned.setHeldBlocking held mode attuned).blocking h = some mode := by
  cases held with
  | none => exact told.resolve_left List.not_mem_nil
  | some own =>
    have chosen := congrFun (sets.blocking_setBlocking own mode attuned) h
    by_cases same : h = own
    · rw [same, Function.update_self] at chosen
      rw [same]
      exact chosen
    · rw [Function.update_of_ne same] at chosen
      exact chosen.trans (told.resolve_left (by simpa using same))

private theorem inMode_setBlocking (endpoint : Endpoint) (mode : Bool) (attuned : Attuned σ) :
    (endpoint.setBlocking host.attuned mode attuned).1.InMode
      (endpoint.setBlocking host.attuned mode attuned).2 := by
  intro h mem
  cases endpoint with
  | tcpClient client => exact sets.blocking_setHeldBlocking (Or.inl mem)
  | udpClient client => exact sets.blocking_setHeldBlocking (Or.inl mem)
  | listener l =>
    -- the socket is told before the client
    rcases List.mem_append.mp mem with socket | client
    · exact sets.blocking_setHeldBlocking (Or.inr (sets.blocking_setHeldBlocking (Or.inl socket)))
    · exact sets.blocking_setHeldBlocking (Or.inl client)
  | serialLine line =>
    have held : line.port = some h := Option.mem_toList.mp mem
    have chosen := congrFun (sets.timeout_setTimeout h (.ofBlocking mode) attuned) h
    rw [Function.update_self] at chosen
    simp only [Endpoint.setBlocking, SerialLine.setBlocking, held]
    exact chosen

end Host.SetsModes

private theorem Listener.blocking_of_accept (host : Host σ) (l : Listener) (attuned : Attuned σ) :
    (l.accept host.attuned attuned).state = l ∨ ∃ client,
      (l.accept host.attuned attuned).state = { l with client := some client } ∧
        (l.accept host.attuned attuned).host.blocking client = some l.blocking := by
  unfold accept
  split
  · exact Or.inl rfl
  · exact Or.inl rfl
  · split
    · split <;> exact Or.inl rfl
    · split
      · next chosen => exact Or.inr ⟨_, rfl, host.blocking_of_withMode chosen⟩
      · exact Or.inl rfl

namespace Endpoint

private theorem hasMode_of_opens {host : Host σ} {endpoint : Endpoint} {h : Handle}
    {attuned after : Attuned σ} (opens : endpoint.Opens host.attuned attuned h after) :
    after.HasMode endpoint.kind endpoint.blocking h := by
  cases endpoint with
  | tcpClient client =>
    simp only [Opens, TcpClient.openStream] at opens
    split at opens
    · cases opens
    · split at opens
      · next chosen =>
        cases opens
        exact host.blocking_of_withMode chosen
      · cases opens
  | udpClient client =>
    simp only [Opens, UdpClient.openSocket] at opens
    split at opens
    · cases opens
    · split at opens
      · next chosen =>
        cases opens
        exact host.blocking_of_withMode chosen
      · cases opens
  | listener l =>
    obtain ⟨port, -, chosen⟩ := opens
    exact host.blocking_of_withMode chosen
  | serialLine line =>
    simp only [Opens, Host.attuned, Attuned.enter] at opens
    split at opens
    · cases opens
      exact Function.update_self _ _ _
    · cases opens

section Act

variable {host : Host σ} {endpoint : Endpoint} {attuned : Attuned σ}

private theorem InMode.bringUp (in_mode : endpoint.InMode attuned) :
    (endpoint.bringUp host.attuned attuned).state.InMode
      (endpoint.bringUp host.attuned attuned).host := by
  have led := endpoint.broughtUp host.attuned attuned
  generalize endpoint.bringUp host.attuned attuned = outcome at led
  cases led with
  | refused detail lacking => exact in_mode
  | opened h before after complete opens =>
    intro h' mem
    rw [handles_opened, List.mem_singleton] at mem
    rw [mem, kind_eq, identity_opened, ← kind_eq, blocking_opened]
    exact hasMode_of_opens opens
  | failed fault after complete opening => exact inMode_of_bare endpoint.handles_down
  | disarmed after complete serial => exact inMode_of_bare (handles_disarmed serial)

private theorem InMode.operate (in_mode : endpoint.InMode attuned) (sets : host.SetsModes)
    (known : ∀ h ∈ endpoint.handles, attuned.Knows h) (operation : Operation) :
    (operation.run host.attuned endpoint attuned).state.InMode
      (operation.run host.attuned endpoint attuned).host := by
  -- only a setter chooses a mode for handles that are there already
  have left : ∀ operation : Operation, (Action.operate operation).flag? = none →
      endpoint.InMode (operation.run host.attuned endpoint attuned).host := fun _ plain =>
    in_mode.left known fun h mem => Action.leavesMode host (known h mem) (Or.inr plain)
  cases operation with
  | set setting =>
    cases chosen : setting.flag? with
    | none =>
      have flag := blocking_apply host.attuned setting endpoint attuned
      rw [chosen, Option.getD_none] at flag
      exact (left (.set setting) chosen).retuned
        (retuned_apply host.attuned setting endpoint attuned)
        flag
    | some mode =>
      cases setting with
      | blocking _ => exact sets.inMode_setBlocking endpoint _ attuned
      | _ => cases chosen
  | bringUp => exact in_mode.bringUp
  | attach =>
    have stays := left .attach rfl
    cases endpoint with
    | listener l =>
      rcases l.blocking_of_accept host attuned with same | ⟨client, state_eq, mode⟩
      · rw [Operation.run, Outcome.state_withAnswer, attach, Outcome.state_inState, same]
        exact stays
      · rw [Operation.run, Outcome.state_withAnswer, attach, Outcome.state_inState, state_eq]
        intro h mem
        rcases List.mem_append.mp mem with socket | own
        · exact stays h (List.mem_append_left _ socket)
        · cases List.mem_singleton.mp own
          exact mode
    | tcpClient client => exact in_mode.bringUp
    | udpClient client => exact in_mode.bringUp
    | serialLine line => exact in_mode.bringUp
  | disconnect =>
    rw [Operation.run, disconnect_fst]
    exact inMode_of_bare endpoint.handles_down
  | dropClient =>
    have stays := left .dropClient rfl
    cases endpoint with
    | listener l => exact stays.cut
    | _ => exact stays
  | write bytes =>
    have stays := left (.write bytes) rfl
    exact endpoint.state_write_of (P := (·.InMode _)) host.attuned bytes attuned stays stays.cut
  | read room =>
    have stays := left (.read room) rfl
    exact endpoint.state_read_of (P := (·.InMode _)) host.attuned room attuned stays stays.cut
  | sendBreak milliseconds =>
    have stays := left (.sendBreak milliseconds) rfl
    cases endpoint <;> exact stays

theorem InMode.act (in_mode : endpoint.InMode attuned) (sets : host.SetsModes)
    (known : ∀ h ∈ endpoint.handles, attuned.Knows h) (action : Action) :
    (action.run host.attuned endpoint attuned).1.InMode
      (action.run host.attuned endpoint attuned).2 := by
  cases action with
  | operate operation => exact in_mode.operate sets known operation
  | replace identity mode => exact inMode_of_bare (handles_new identity mode)

end Act

end Endpoint

end InstrumentLink
