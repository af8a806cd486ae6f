import InstrumentLink.Host

namespace InstrumentLink

structure SocketSettings where
  hostname : String := ""
  port : UInt16 := 0
deriving DecidableEq, Repr, Inhabited

namespace SocketSettings

/-- Whether both a host name and a port are present. -/
def isConfigured (settings : SocketSettings) : Bool :=
  settings.hostname ≠ "" && settings.port ≠ 0

def missing? (settings : SocketSettings) : Option Fault :=
  if settings.hostname = "" then some .missingHostname
  else if settings.port = 0 then some .missingPort
  else none

def require (settings : SocketSettings) : Except Fault Unit :=
  match settings.missing? with
  | some fault => .error fault
  | none => .ok ()

theorem missing?_eq_none_iff (settings : SocketSettings) :
    settings.missing? = none ↔ settings.isConfigured := by
  unfold missing? isConfigured
  by_cases hostname : settings.hostname = "" <;> by_cases port : settings.port = 0 <;>
    simp [hostname, port]

variable {σ : Type}

/-- The addresses of the configured host, at the configured port. -/
def resolve (host : Host σ) (settings : SocketSettings) (os : σ) :
    Except Fault (List SocketAddress) × σ :=
  match host.lookup settings.hostname os with
  | (.error e, os) => (.error (.lookupFailed settings.hostname e), os)
  | (.ok [], os) => (.error (.hostResolution settings.hostname), os)
  | (.ok addresses, os) => (.ok (addresses.map fun ip => ⟨ip, settings.port⟩), os)

/-- The first address of the configured host that a datagram socket can send to. -/
def destination (host : Host σ) (settings : SocketSettings) (os : σ) :
    Except Fault SocketAddress × σ :=
  match settings.resolve host os with
  | (.error fault, os) => (.error fault, os)
  | (.ok addresses, os) =>
      match addresses.find? (·.ip.isV4) with
      | some address => (.ok address, os)
      | none => (.error (.noDatagramAddress settings.hostname), os)

end SocketSettings

end InstrumentLink
