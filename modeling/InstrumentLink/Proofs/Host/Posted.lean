import InstrumentLink.Proofs.Host.Within

/-! # The datagrams that left and the handles that were closed -/

namespace InstrumentLink

variable {σ : Type}

structure Datagram where
  socket : Handle
  bytes : ByteArray
  destination : SocketAddress

/-- A host with a record of what it sends and closes. -/
structure Posted (σ : Type) where
  os : σ
  /-- The datagrams that left, oldest first. -/
  sent : List Datagram := []
  /-- The handles that were closed, oldest first. -/
  closed : List Handle := []

namespace Posted

/-- The record after the host sent and closed nothing. -/
def withOs (os : σ) (posted : Posted σ) : Posted σ := { posted with os }

@[simp] theorem os_withOs (os : σ) (posted : Posted σ) : (posted.withOs os).os = os := rfl

def part : StatePart σ (Posted σ) where
  os := os
  withOs := withOs

/-- The record after a request to send a datagram. -/
def send (posted : Posted σ) (datagram : Datagram) (answer : Except IoError Nat × σ) :
    Except IoError Nat × Posted σ :=
  match answer with
  | (.ok count, os) => (.ok count, { posted with os, sent := posted.sent ++ [datagram] })
  | (.error e, os) => (.error e, { posted with os })

/-- The record after a handle was closed. -/
def close (posted : Posted σ) (h : Handle) (os : σ) : Posted σ :=
  { posted with os, closed := posted.closed ++ [h] }

end Posted

/-- The host with a record of the datagrams that it sends. -/
def Host.posted (host : Host σ) : Host (Posted σ) :=
  { host.within Posted.part with
    close := fun h posted => posted.close h (host.close h posted.os)
    sendTo := fun h bytes address posted =>
      posted.send ⟨h, bytes, address⟩ (host.sendTo h bytes address posted.os) }

theorem Host.sendTo_posted (host : Host σ) (h : Handle) (bytes : ByteArray)
    (address : SocketAddress) (posted : Posted σ) :
    host.posted.sendTo h bytes address posted =
      posted.send ⟨h, bytes, address⟩ (host.sendTo h bytes address posted.os) := rfl

/-- A datagram is sent as a whole or not at all. -/
def Host.SendsWhole (host : Host σ) : Prop :=
  ∀ h bytes address os count, (host.sendTo h bytes address os).1 = .ok count → count = bytes.size

end InstrumentLink
