import InstrumentLink.SocketSettings

/-!
# Custody of handles

An account says which handles may be held in a state of a host. Requests exchange handles: opening
gives one, closing takes one, the others leave everything as it is. What else is held never matters
to an exchange, so exchanges follow each other and stand beside each other, and what is shown for
the requests holds for every operation made of them.
-/

namespace InstrumentLink

variable {σ : Type}

/-- An account of the handles that are held in each state of a host, in any order. -/
structure Custody (σ : Type) where
  Holds : σ → List Handle → Prop
  perm : ∀ {os held held'}, held.Perm held' → Holds os held → Holds os held'

/-- The handle that an opening request has given. -/
def granted {ε : Type} : Except ε Handle → List Handle
  | .ok h => [h]
  | .error _ => []

namespace Custody

/-- Some handles are held no more and others are instead, whatever else is held. -/
def Exchanges (custody : Custody σ) (given taken : List Handle) (os os' : σ) : Prop :=
  ∀ others, custody.Holds os (given ++ others) → custody.Holds os' (taken ++ others)

variable {custody : Custody σ} {given taken : List Handle} {os os' : σ}

theorem exchanges_refl (held : List Handle) (os : σ) : custody.Exchanges held held os os :=
  fun _ holds => holds

theorem Exchanges.trans {last : List Handle} {os'' : σ}
    (first : custody.Exchanges given taken os os') (later : custody.Exchanges taken last os' os'') :
    custody.Exchanges given last os os'' :=
  fun others holds => later others (first others holds)

theorem exchanges_of_perm (same : given.Perm taken) (os : σ) :
    custody.Exchanges given taken os os :=
  fun others holds => custody.perm (same.append_right others) holds

/-- Handles that an exchange does not touch stand behind those that it does. -/
theorem Exchanges.before (exchange : custody.Exchanges given taken os os') (more : List Handle) :
    custody.Exchanges (given ++ more) (taken ++ more) os os' := by
  intro others holds
  rw [List.append_assoc] at holds ⊢
  exact exchange (more ++ others) holds

theorem Exchanges.after (exchange : custody.Exchanges given taken os os') (more : List Handle) :
    custody.Exchanges (more ++ given) (more ++ taken) os os' :=
  ((exchanges_of_perm List.perm_append_comm os).trans (exchange.before more)).trans
    (exchanges_of_perm List.perm_append_comm os')

theorem Exchanges.keep (exchange : custody.Exchanges [] [] os os') (held : List Handle) :
    custody.Exchanges held held os os' :=
  exchange.before held

end Custody

/-- A request of a host, with the handle that it closes, the handle that it opens, and the states
before and after. -/
inductive Host.Request (host : Host σ) : List Handle → List Handle → σ → σ → Prop
  | close (h : Handle) (os : σ) : Request host [h] [] os (host.close h os)
  | connect (address : SocketAddress) (os : σ) :
      Request host [] (granted (host.connect address os).1) os (host.connect address os).2
  | listen (port : UInt16) (os : σ) :
      Request host [] (granted (host.listen port os).1) os (host.listen port os).2
  | accept (h : Handle) (os : σ) :
      Request host [] (granted (host.accept h os).1) os (host.accept h os).2
  | bindDatagram (os : σ) :
      Request host [] (granted (host.bindDatagram os).1) os (host.bindDatagram os).2
  | openLine (settings : LineSettings) (timeout : LineTimeout) (os : σ) :
      Request host [] (granted (host.openLine settings timeout os).1) os
        (host.openLine settings timeout os).2
  | write (h : Handle) (bytes : ByteArray) (os : σ) :
      Request host [] [] os ((host.stream h).write bytes os).2
  | read (h : Handle) (room : Nat) (os : σ) :
      Request host [] [] os ((host.stream h).read room os).2
  | lookup (hostname : String) (os : σ) : Request host [] [] os (host.lookup hostname os).2
  | sendTo (h : Handle) (bytes : ByteArray) (address : SocketAddress) (os : σ) :
      Request host [] [] os (host.sendTo h bytes address os).2
  | setBlocking (h : Handle) (blocking : Bool) (os : σ) :
      Request host [] [] os (host.setBlocking h blocking os).2
  | setTimeout (h : Handle) (timeout : LineTimeout) (os : σ) :
      Request host [] [] os (host.setTimeout h timeout os).2
  | shutdown (h : Handle) (how : Shutdown) (os : σ) : Request host [] [] os (host.shutdown h how os)
  | setBreak (h : Handle) (os : σ) : Request host [] [] os (host.setBreak h os).2
  | clearBreak (h : Handle) (os : σ) : Request host [] [] os (host.clearBreak h os).2
  | pause (milliseconds : Nat) (os : σ) : Request host [] [] os (host.pause milliseconds os)

/-- Requests keep an account: opening adds the new handle, closing removes the old one, and nothing
else changes what is held. -/
structure Host.Respects (host : Host σ) (custody : Custody σ) : Prop where
  request : ∀ {given taken os os'}, host.Request given taken os os' →
    custody.Exchanges given taken os os'

namespace Host.Respects

variable {host : Host σ} {custody : Custody σ} (respects : host.Respects custody)

theorem of_answered {ε : Type} {given : List Handle} {os os' : σ} {request : Except ε Handle × σ}
    {answer : Except ε Handle} (exchange : custody.Exchanges given (granted request.1) os request.2)
    (answered : request = (answer, os')) : custody.Exchanges given (granted answer) os os' := by
  rw [answered] at exchange
  exact exchange

theorem keep_of_answered {α : Type} {held : List Handle} {os os' : σ} {request : α × σ} {a : α}
    (exchange : custody.Exchanges held held os request.2) (answered : request = (a, os')) :
    custody.Exchanges held held os os' := by
  rw [answered] at exchange
  exact exchange

include respects

private theorem writeAll (h : Handle) (rest : ByteArray) (sent : Nat) (os : σ) :
    custody.Exchanges [] [] os ((host.stream h).writeAll rest sent os).2 := by
  apply (host.stream h).writeAll_keeps (P := custody.Exchanges [] [] os)
  · intro bytes between reached
    exact reached.trans (respects.request (.write h bytes between))
  · exact custody.exchanges_refl [] os

theorem writeFully (held : Option Handle) (bytes : ByteArray) (os : σ) :
    custody.Exchanges held.toList (host.writeFully held bytes os).state.toList os
      (host.writeFully held bytes os).host := by
  unfold Channels.writeFully
  split
  · exact custody.exchanges_refl [] os
  · next h =>
    have wrote := (respects.writeAll h bytes 0 os).keep [h]
    split
    · next sent os' answered => exact keep_of_answered wrote answered
    · next e os' answered =>
      exact (keep_of_answered wrote answered).trans (respects.request (.close h os'))

theorem readOnce (held : Option Handle) (room : Nat) (os : σ) :
    custody.Exchanges held.toList (host.readOnce held room os).state.toList os
      (host.readOnce held room os).host := by
  unfold Channels.readOnce
  split
  · exact custody.exchanges_refl [] os
  · next h =>
    have received := (respects.request (.read h room os)).keep [h]
    split
    · next bytes os' answered =>
      rw [answered] at received
      split <;> exact received
    · next e os' answered =>
      rw [answered] at received
      split
      · exact received
      · exact received.trans (respects.request (.close h os'))

theorem closeHeld (held : Option Handle) (os : σ) :
    custody.Exchanges held.toList [] os (host.closeHeld held os) := by
  cases held with
  | none => exact custody.exchanges_refl [] os
  | some h => exact respects.request (.close h os)

theorem endHeld (how : Shutdown) (held : Option Handle) (os : σ) :
    custody.Exchanges held.toList [] os (host.endHeld how held os) := by
  cases held with
  | none => exact custody.exchanges_refl [] os
  | some h =>
    exact ((respects.request (.shutdown h how os)).keep [h]).trans (respects.request (.close h _))

theorem setHeldBlocking (held : Option Handle) (blocking : Bool) (os : σ) :
    custody.Exchanges [] [] os (host.setHeldBlocking held blocking os) := by
  cases held with
  | none => exact custody.exchanges_refl [] os
  | some h => exact respects.request (.setBlocking h blocking os)

theorem setHeldTimeout (held : Option Handle) (timeout : LineTimeout) (os : σ) :
    custody.Exchanges [] [] os (host.setHeldTimeout held timeout os) := by
  cases held with
  | none => exact custody.exchanges_refl [] os
  | some h => exact respects.request (.setTimeout h timeout os)

/-- A socket that cannot be put into its mode is closed, so nothing was given after all. -/
theorem withMode (blocking : Bool) {given : List Handle} {os : σ}
    {opened : Except IoError Handle × σ}
    (exchange : custody.Exchanges given (granted opened.1) os opened.2) :
    custody.Exchanges given (granted (host.withMode blocking opened).1) os
      (host.withMode blocking opened).2 := by
  unfold Host.withMode
  split
  · exact exchange
  · next h os' =>
    have changed : custody.Exchanges given [h] os (host.setBlocking h blocking os').2 :=
      exchange.trans ((respects.request (.setBlocking h blocking os')).keep [h])
    split
    · next os'' answered =>
      rw [answered] at changed
      exact changed
    · next e os'' answered =>
      rw [answered] at changed
      exact changed.trans (respects.request (.close h os''))

theorem connectAny (failed : IoError) (os : σ) (addresses : List SocketAddress) :
    custody.Exchanges [] (granted (host.connectAny failed os addresses).1) os
      (host.connectAny failed os addresses).2 := by
  induction addresses generalizing failed os with
  | nil => exact custody.exchanges_refl [] os
  | cons address rest ih =>
    have tried := respects.request (.connect address os)
    unfold Host.connectAny
    split
    · next h os' answered => exact of_answered tried answered
    · next e os' answered =>
      have passed : custody.Exchanges [] [] os os' := of_answered tried answered
      exact passed.trans (ih e os')

theorem resolve (settings : SocketSettings) (os : σ) :
    custody.Exchanges [] [] os (settings.resolve host os).2 := by
  have looked_up := respects.request (.lookup settings.hostname os)
  unfold SocketSettings.resolve
  split
  · next e os' answered => exact keep_of_answered looked_up answered
  · next os' answered => exact keep_of_answered looked_up answered
  · next addresses os' _ answered => exact keep_of_answered looked_up answered

theorem destination (settings : SocketSettings) (os : σ) :
    custody.Exchanges [] [] os (settings.destination host os).2 := by
  have resolved := respects.resolve settings os
  unfold SocketSettings.destination
  split
  · next fault os' answered => exact keep_of_answered resolved answered
  · next addresses os' answered =>
    rw [answered] at resolved
    split <;> exact resolved

end Host.Respects

end InstrumentLink
