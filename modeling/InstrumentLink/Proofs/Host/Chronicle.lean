import InstrumentLink.Endpoint.SerialLine
import InstrumentLink.Proofs.Host.Within
import InstrumentLink.Proofs.Stream.Delivery

/-! # What happens to a line, noted in order -/

namespace InstrumentLink

variable {σ ε α : Type}

/-- What can happen to a line. -/
inductive LineEvent
  /-- A device was chosen. -/
  | named (devicePath : String)
  /-- A baud rate was chosen and not refused. -/
  | rated (baudRate : UInt32)
  | opened (settings : LineSettings) (h : Handle)
  /-- The device could not be opened. -/
  | failed (settings : LineSettings)

/-- How an attempt to open a line ended. -/
def LineEvent.ofOpening (settings : LineSettings) : Except IoError Handle → LineEvent
  | .ok h => opened settings h
  | .error _ => failed settings

/-- A host with a chronicle. -/
structure Chronicle (σ : Type) where
  os : σ
  /-- What happened so far, oldest first. -/
  events : List LineEvent := []

namespace Chronicle

def part : StatePart σ (Chronicle σ) where
  os := os
  withOs := fun os chronicle => { chronicle with os }

/-- The chronicle after an attempt to open a line. -/
def enter (chronicle : Chronicle σ) (settings : LineSettings)
    (answered : Except IoError Handle × σ) : Except IoError Handle × Chronicle σ :=
  (answered.1,
    { os := answered.2, events := chronicle.events ++ [.ofOpening settings answered.1] })

/-- The chronicle after an operation that is of no interest. -/
def carry (chronicle : Chronicle σ) (outcome : Outcome σ ε α) : Outcome (Chronicle σ) ε α :=
  ⟨outcome.answer, outcome.state, { chronicle with os := outcome.host }⟩

def note (chronicle : Chronicle σ) (events : List LineEvent) : Chronicle σ :=
  { chronicle with events := chronicle.events ++ events }

end Chronicle

/-- The host with a chronicle of the lines that it opens, or fails to. -/
def Host.chronicled (host : Host σ) : Host (Chronicle σ) :=
  { host.within Chronicle.part with
    openLine := fun settings timeout chronicle =>
      chronicle.enter settings (host.openLine settings timeout chronicle.os) }

namespace Host

variable (host : Host σ) (held : Option Handle) (chronicle : Chronicle σ)

theorem openLine_chronicled (settings : LineSettings) (timeout : LineTimeout) :
    host.chronicled.openLine settings timeout chronicle =
      chronicle.enter settings (host.openLine settings timeout chronicle.os) := rfl

theorem closeHeld_chronicled : host.chronicled.closeHeld held chronicle =
    { chronicle with os := host.closeHeld held chronicle.os } := by
  cases held <;> rfl

theorem setHeldTimeout_chronicled (timeout : LineTimeout) :
    host.chronicled.setHeldTimeout held timeout chronicle =
      { chronicle with os := host.setHeldTimeout held timeout chronicle.os } := by
  cases held <;> rfl

private theorem chronicled_follow :
    host.chronicled.toChannels.Follow host.toChannels Chronicle.os where
  stream := fun _ _ _ => Or.inr ⟨rfl, rfl⟩
  close := fun _ _ => rfl

private theorem events_writeFully (bytes : ByteArray) :
    (host.chronicled.writeFully held bytes chronicle).host.events = chronicle.events := by
  cases held with
  | none => rfl
  | some h =>
    have kept : ((host.chronicled.stream h).writeAll bytes 0 chronicle).2.events =
        chronicle.events :=
      (host.chronicled.stream h).writeAll_keeps
        (P := fun later => later.events = chronicle.events) (fun _ _ same => same) bytes 0 rfl
    cases loop : (host.chronicled.stream h).writeAll bytes 0 chronicle with
    | mk answer after =>
      rw [loop] at kept
      cases answer with
      | ok sent =>
        rw [host.chronicled.writeFully_of_ok h bytes chronicle loop]
        exact kept
      | error e =>
        rw [host.chronicled.writeFully_of_error h bytes chronicle loop]
        exact kept

theorem writeFully_chronicled (bytes : ByteArray) :
    host.chronicled.writeFully held bytes chronicle =
      chronicle.carry (host.writeFully held bytes chronicle.os) := by
  have below := Channels.writeFully_of_follow host.chronicled_follow held bytes chronicle
  have same := host.events_writeFully held chronicle bytes
  rw [← below, Chronicle.carry, ← same]

theorem readOnce_chronicled (room : Nat) :
    host.chronicled.readOnce held room chronicle =
      chronicle.carry (host.readOnce held room chronicle.os) := by
  cases held with
  | none => rfl
  | some h =>
    have asked : (host.chronicled.stream h).read room chronicle =
        Chronicle.part.pass chronicle ((host.stream h).read room chronicle.os) := rfl
    simp only [Channels.readOnce, asked, StatePart.pass, Chronicle.part]
    generalize (host.stream h).read room chronicle.os = answered
    obtain ⟨bytes | e, os⟩ := answered
    all_goals
      dsimp only
      split <;> rfl

end Host

end InstrumentLink
