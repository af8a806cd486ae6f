import InstrumentLink.Proofs.Host.Scope

/-!
# Sockets that keep their ports

A request of a watched host is a request of the host below, for the host's own handles. The ledger
names each of its entries once, but the host may use a number again. So a port that a handle of the
ledger has is kept because what is open is apart, among the host's own handles too.
-/

namespace InstrumentLink

variable {σ : Type} {host : Host σ}

/-- An opened handle is none of those that are held, and a request changes no port but that of the
handle that it opens or closes. -/
structure Host.PortsStand (host : Host σ) (custody : Custody σ) : Prop where
  respects : host.Respects custody
  nodup : ∀ {os held}, custody.Holds os held → held.Nodup
  localPort_eq : ∀ {given taken os os'}, host.Request given taken os os' →
    ∀ h, h ∉ given → h ∉ taken → host.localPort h os' = host.localPort h os

namespace Host.Request

variable {given taken : List Handle} {watched watched' : Watched σ}

private theorem enter {ledger : Ledger σ} (opening : Opening)
    {answered : Except IoError Handle × σ}
    (request : host.Request [] (granted answered.1) ledger.os answered.2) :
    host.Request [] ((granted (ledger.enter opening answered).1).map
      (ledger.enter opening answered).2.actual) ledger.os (ledger.enter opening answered).2.os := by
  obtain ⟨e | h, os⟩ := answered
  · exact request
  · simpa [Ledger.enter, granted, Ledger.actual] using request

/-- A request of a watched host is one of the host below. -/
theorem below (request : host.watched.Request given taken watched watched') :
    host.Request (given.map watched.ledger.actual) (taken.map watched'.ledger.actual)
      watched.ledger.os watched'.ledger.os := by
  cases request with
  | connect => exact enter _ (.connect ..)
  | listen => exact enter _ (.listen ..)
  | accept => exact enter _ (.accept ..)
  | bindDatagram => exact enter _ (.bindDatagram ..)
  | openLine => exact enter _ (.openLine ..)
  | close => exact .close ..
  | write => exact .write ..
  | read => exact .read ..
  | lookup => exact .lookup ..
  | sendTo => exact .sendTo ..
  | setBlocking => exact .setBlocking ..
  | setTimeout => exact .setTimeout ..
  | shutdown => exact .shutdown ..
  | setBreak => exact .setBreak ..
  | clearBreak => exact .clearBreak ..
  | pause => exact .pause ..

theorem not_mem_taken (request : host.watched.Request given taken watched watched') {h : Handle}
    (known : (watched.ledger.opening? h).isSome) : h ∉ taken := by
  have opened {opening : Opening} {answered : Except IoError Handle × σ} :
      h ∉ granted (watched.ledger.enter opening answered).1 := by
    intro mem
    cases entered : watched.ledger.enter opening answered with
    | mk answer ledger =>
      rw [entered] at mem
      cases answer with
      | error e => cases mem
      | ok own =>
        rw [List.mem_singleton.mp mem, Ledger.opening?_eq_none_of_enter entered] at known
        exact Bool.false_ne_true known
  cases request with
  | connect | listen | accept | bindDatagram | openLine => exact opened
  | _ => exact List.not_mem_nil

end Host.Request

/-- The account of handles that the host below accounts for too, in which a handle has a port for as
long as it is held. -/
def Watched.bound (host : Host σ) (below : Custody σ) (h : Handle) (port : Except IoError UInt16) :
    Custody (Watched σ) where
  Holds := fun watched held =>
    Watched.custody.Holds watched held ∧
      below.Holds watched.ledger.os (held.map watched.ledger.actual) ∧
      (watched.ledger.opening? h).isSome ∧ (h ∈ held → host.watched.localPort h watched = port)
  perm := fun same ⟨accounted, own, known, bound⟩ =>
    ⟨Watched.custody.perm same accounted, below.perm (same.map _) own, known,
      fun mem => bound (same.mem_iff.mpr mem)⟩

private theorem not_mem_map_of_nodup {actual : Handle → Handle} {touched others : List Handle}
    {h : Handle} (nodup : ((touched ++ others).map actual).Nodup) (mem : h ∈ others) :
    actual h ∉ touched.map actual := by
  rw [List.map_append] at nodup
  exact fun touched => List.disjoint_of_nodup_append nodup touched (List.mem_map_of_mem mem)

theorem Host.PortsStand.respects_bound {below : Custody σ} (stands : host.PortsStand below)
    (h : Handle) (port : Except IoError UInt16) :
    host.watched.Respects (Watched.bound host below h port) where
  request := by
    rintro given taken watched watched' request others ⟨accounted, own, known, bound⟩
    have accounts := host.respects_watched.request request others accounted
    have grown := host.keeps_opened.request request
    have same : others.map watched'.ledger.actual = others.map watched.ledger.actual := by
      refine List.map_congr_left fun other mem => grown.actual_eq ?_
      exact ((Watched.isOpen_iff accounted).mpr (List.mem_append_right given mem)).1
    have owns : below.Holds watched'.ledger.os ((taken ++ others).map watched'.ledger.actual) := by
      rw [List.map_append] at own ⊢
      rw [same]
      exact stands.respects.request request.below _ own
    refine ⟨accounts, owns, grown.isSome_opening? known, fun mem => ?_⟩
    -- the handle is not opened by the request, so it is one of the others
    have other := (List.mem_append.mp mem).resolve_left (request.not_mem_taken known)
    have apart := not_mem_map_of_nodup (stands.nodup own) other
    have apart' := not_mem_map_of_nodup (stands.nodup owns) other
    rw [grown.actual_eq known] at apart'
    have stood := stands.localPort_eq request.below _ apart apart'
    change host.localPort (watched'.ledger.actual h) watched'.ledger.os = port
    rw [grown.actual_eq known, stood]
    exact bound (List.mem_append_right given other)

end InstrumentLink
