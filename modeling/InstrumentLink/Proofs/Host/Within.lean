import InstrumentLink.Host

namespace InstrumentLink

variable {σ ρ α : Type}

/-- The state of a host as a part of a larger one, which may have names of its own for handles. -/
structure StatePart (σ ρ : Type) where
  os : ρ → σ
  withOs : σ → ρ → ρ
  /-- The host's own handle. -/
  actual : ρ → Handle → Handle := fun _ h => h
  os_withOs : ∀ below whole, os (withOs below whole) = below := by exact fun _ _ => rfl
  actual_withOs : ∀ below whole, actual (withOs below whole) = actual whole := by
    exact fun _ _ => rfl

/-- An answer of the host, with the other parts of the state as they were. -/
def StatePart.pass (part : StatePart σ ρ) (whole : ρ) (answered : α × σ) : α × ρ :=
  (answered.1, part.withOs answered.2 whole)

def Channels.streamWithin (channels : Channels σ) (part : StatePart σ ρ) (h : Handle) :
    ByteStream ρ where
  write := fun bytes whole =>
    part.pass whole ((channels.stream (part.actual whole h)).write bytes (part.os whole))
  read := fun room whole =>
    part.pass whole ((channels.stream (part.actual whole h)).read room (part.os whole))
  patience := fun whole => (channels.stream (part.actual whole h)).patience (part.os whole)
  accepted_le := fun bytes whole =>
    (channels.stream (part.actual whole h)).accepted_le bytes (part.os whole)
  received_le := fun room whole =>
    (channels.stream (part.actual whole h)).received_le room (part.os whole)
  patience_lt := by
    intro bytes whole e failed again
    simp only [StatePart.pass, part.os_withOs, part.actual_withOs]
    exact (channels.stream (part.actual whole h)).patience_lt bytes (part.os whole) e failed again

/-- The host as a part of a larger state. Every request leaves the other parts alone. -/
def Host.within (host : Host σ) (part : StatePart σ ρ) : Host ρ where
  stream := host.streamWithin part
  close := fun h whole => part.withOs (host.close (part.actual whole h) (part.os whole)) whole
  lookup := fun hostname whole => part.pass whole (host.lookup hostname (part.os whole))
  connect := fun address whole => part.pass whole (host.connect address (part.os whole))
  listen := fun port whole => part.pass whole (host.listen port (part.os whole))
  accept := fun h whole => part.pass whole (host.accept (part.actual whole h) (part.os whole))
  bindDatagram := fun whole => part.pass whole (host.bindDatagram (part.os whole))
  sendTo := fun h bytes address whole =>
    part.pass whole (host.sendTo (part.actual whole h) bytes address (part.os whole))
  openLine := fun settings timeout whole =>
    part.pass whole (host.openLine settings timeout (part.os whole))
  setBlocking := fun h blocking whole =>
    part.pass whole (host.setBlocking (part.actual whole h) blocking (part.os whole))
  setTimeout := fun h timeout whole =>
    part.pass whole (host.setTimeout (part.actual whole h) timeout (part.os whole))
  shutdown := fun h how whole =>
    part.withOs (host.shutdown (part.actual whole h) how (part.os whole)) whole
  setBreak := fun h whole =>
    part.pass whole (host.setBreak (part.actual whole h) (part.os whole))
  clearBreak := fun h whole =>
    part.pass whole (host.clearBreak (part.actual whole h) (part.os whole))
  pause := fun milliseconds whole =>
    part.withOs (host.pause milliseconds (part.os whole)) whole
  localPort := fun h whole => host.localPort (part.actual whole h) (part.os whole)
  peer := fun h whole => host.peer (part.actual whole h) (part.os whole)

end InstrumentLink
