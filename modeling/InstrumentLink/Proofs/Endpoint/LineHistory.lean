import InstrumentLink.Proofs.Endpoint.Receive
import InstrumentLink.Proofs.Endpoint.Setting
import InstrumentLink.Proofs.Host.Chronicle

/-!
# What a line remembers

A line keeps a flag, the settings that were applied last, and a handle. Each of them is set by its
own events, so what a line remembers is a matter of which event came last: the flag is cleared by an
opening that failed until the line is armed again, and the applied settings are those of the last
opening that succeeded. One operation can make six kinds of moves, and each move keeps this.
-/

namespace InstrumentLink

variable {σ : Type}

namespace LineEvent

/-- Whether a line can be opened again after the event. -/
def Rearms : LineEvent → Prop
  | named _ | opened _ _ => True
  | rated _ | failed _ => False

def opening? : LineEvent → Option (LineSettings × Handle)
  | opened settings h => some (settings, h)
  | _ => none

def rate? : LineEvent → Option UInt32
  | rated baudRate => some baudRate
  | _ => none

/-- An opening failed, and the line was not armed again since. -/
def Disarmed (events : List LineEvent) : Prop :=
  ∃ before settings later, events = before ++ failed settings :: later ∧
    ∀ event ∈ later, ¬event.Rearms

/-- The last opening that succeeded: the settings and the handle that it gave. -/
def lastOpening? (events : List LineEvent) : Option (LineSettings × Handle) :=
  (events.filterMap opening?).getLast?

/-- The baud rate that was chosen last. -/
def lastRate? (events : List LineEvent) : Option UInt32 := (events.filterMap rate?).getLast?

private theorem not_disarmed_nil : ¬Disarmed [] := by
  rintro ⟨before, settings, later, split, -⟩
  exact absurd split (by simp)

private theorem disarmed_append_iff (events : List LineEvent) (event : LineEvent) :
    Disarmed (events ++ [event]) ↔
      (∃ settings, event = failed settings) ∨ Disarmed events ∧ ¬event.Rearms := by
  constructor
  · rintro ⟨before, settings, later, split, quiet⟩
    rcases List.eq_nil_or_concat later with rfl | ⟨front, last, rfl⟩
    · obtain ⟨-, same⟩ := List.append_inj' split rfl
      exact Or.inl ⟨settings, List.singleton_inj.mp same⟩
    · rw [List.concat_eq_append, ← List.cons_append, ← List.append_assoc] at split
      obtain ⟨rfl, same⟩ := List.append_inj' split rfl
      obtain rfl := List.singleton_inj.mp same
      refine Or.inr ⟨⟨before, settings, front, rfl, ?_⟩, quiet event (by simp)⟩
      exact fun earlier mem => quiet earlier (by simp [mem])
  · rintro (⟨settings, rfl⟩ | ⟨⟨before, settings, later, rfl, quiet⟩, still⟩)
    · exact ⟨events, settings, [], rfl, by simp⟩
    · refine ⟨before, settings, later ++ [event], by simp, ?_⟩
      intro other mem
      rcases List.mem_append.mp mem with earlier | last
      · exact quiet other earlier
      · rw [List.mem_singleton.mp last]
        exact still

private theorem lastOpening?_append (events : List LineEvent) (event : LineEvent) :
    lastOpening? (events ++ [event]) = event.opening?.or (lastOpening? events) := by
  rw [lastOpening?, lastOpening?, List.filterMap_append, List.getLast?_append]
  cases event <;> rfl

private theorem lastRate?_append (events : List LineEvent) (event : LineEvent) :
    lastRate? (events ++ [event]) = event.rate?.or (lastRate? events) := by
  rw [lastRate?, lastRate?, List.filterMap_append, List.getLast?_append]
  cases event <;> rfl

end LineEvent

namespace SerialLine

/-- A call of one of the operations of a line. -/
inductive Operation
  | setDevicePath (devicePath : String)
  | set (setting : LineSetting)
  | setBlocking (blocking : Bool)
  | bringUp
  | disconnect
  | write (bytes : ByteArray)
  | read (room : Nat)
  | sendBreak (milliseconds : Nat)

namespace Operation

def run (host : Host σ) (operation : Operation) (line : SerialLine) (os : σ) : SerialLine × σ :=
  match operation with
  | setDevicePath devicePath => (line.setDevicePath devicePath, os)
  | set setting => (setting.apply line, os)
  | setBlocking blocking => line.setBlocking host blocking os
  | bringUp => ((line.bringUp host os).state, (line.bringUp host os).host)
  | disconnect => line.disconnect host os
  | write bytes => ((line.write host bytes os).state, (line.write host bytes os).host)
  | read room => ((line.read host room os).state, (line.read host room os).host)
  | sendBreak milliseconds => (line, (line.sendBreak host milliseconds os).2)

/-- What the caller of an operation knows to have happened. -/
def choices (line : SerialLine) : Operation → List LineEvent
  | setDevicePath devicePath => [.named devicePath]
  | set (.baudRate rate) => if (line.setBaudRate rate).1 then [.rated rate] else []
  | _ => []

/-- Calls an operation and continues the chronicle. -/
def record (host : Host σ) (operation : Operation) (line : SerialLine) (chronicle : Chronicle σ) :
    SerialLine × Chronicle σ :=
  let done := operation.run host.chronicled line chronicle
  (done.1, done.2.note (operation.choices line))

end Operation

/-- Calls operations one after the other. -/
def runAll (host : Host σ) : List Operation → SerialLine → σ → SerialLine × σ
  | [], line, os => (line, os)
  | operation :: rest, line, os =>
      let done := operation.run host line os
      runAll host rest done.1 done.2

/-- Calls operations one after the other and continues the chronicle. -/
def recordAll (host : Host σ) :
    List Operation → SerialLine → Chronicle σ → SerialLine × Chronicle σ
  | [], line, chronicle => (line, chronicle)
  | operation :: rest, line, chronicle =>
      let done := operation.record host line chronicle
      recordAll host rest done.1 done.2

/-- What an operation can do to a line, with the events that go with it. -/
inductive Moves (line : SerialLine) : List LineEvent → SerialLine → Prop
  | named (devicePath : String) : Moves line [.named devicePath] (line.setDevicePath devicePath)
  | rated (baudRate : UInt32) (standard : baudRate ∈ standardBaudRates) :
      Moves line [.rated baudRate] { line with settings := { line.settings with baudRate } }
  /-- Nothing happened that a line remembers, though its handle may have been given up. -/
  | unmarked (settings : LineSettings) (blocking : Bool) (port : Option Handle)
      (same_path : settings.devicePath = line.settings.devicePath)
      (same_rate : settings.baudRate = line.settings.baudRate)
      (kept : port = line.port ∨ port = none) :
      Moves line [] { line with settings, blocking, port }
  | opened (h : Handle) :
      Moves line [.opened line.settings h]
        { line with applied := some line.settings, port := some h, armed := true }
  | failed : Moves line [.failed line.settings] { line with port := none, armed := false }

variable (host : Host σ) (line : SerialLine) (chronicle : Chronicle σ)

private theorem moves_refl : line.Moves [] line :=
  .unmarked line.settings line.blocking line.port rfl rfl (Or.inl rfl)

/-- Bringing a line up refuses a line without a device, opens it, or fails to. -/
inductive Attempted : Outcome (Chronicle σ) SerialLine Bool → Prop
  | refused (missing : line.settings.devicePath = "") :
      Attempted ⟨.error .missingDevicePath, line, chronicle⟩
  | opened (named : line.settings.devicePath ≠ "") (h : Handle) (os : σ) :
      Attempted
        ⟨.ok true, { line with applied := some line.settings, port := some h, armed := true },
        { os, events := chronicle.events ++ [.opened line.settings h] }⟩
  | failed (named : line.settings.devicePath ≠ "") (os : σ) :
      Attempted ⟨.ok false, { line with port := none, armed := false },
        { os, events := chronicle.events ++ [.failed line.settings] }⟩

private theorem attempted_bringUp :
    line.Attempted chronicle (line.bringUp host.chronicled chronicle) := by
  unfold bringUp
  split
  · next missing => exact .refused missing
  · next named =>
    simp only [disconnect, host.closeHeld_chronicled, host.openLine_chronicled, Chronicle.enter]
    generalize host.openLine line.settings _ _ = answered
    obtain ⟨e | h, os⟩ := answered
    · exact .failed named os
    · exact .opened named h os

private theorem bringUp_chronicled :
    let done := line.bringUp host.chronicled chronicle
    line.bringUp host chronicle.os = ⟨done.answer, done.state, done.host.os⟩ := by
  unfold bringUp
  split
  · rfl
  · simp only [disconnect, host.closeHeld_chronicled, host.openLine_chronicled, Chronicle.enter,
      timeout]
    generalize host.openLine line.settings _ _ = answered
    obtain ⟨e | h, os⟩ := answered <;> rfl

private theorem sendBreak_chronicled (milliseconds : Nat) :
    line.sendBreak host.chronicled milliseconds chronicle =
      Chronicle.part.pass chronicle (line.sendBreak host milliseconds chronicle.os) := by
  unfold sendBreak
  cases line.port with
  | none => rfl
  | some h =>
    have begins : host.chronicled.setBreak h chronicle =
        Chronicle.part.pass chronicle (host.setBreak h chronicle.os) := rfl
    have ends (os : σ) : host.chronicled.clearBreak h
          (host.chronicled.pause milliseconds { chronicle with os }) =
        Chronicle.part.pass chronicle (host.clearBreak h (host.pause milliseconds os)) := rfl
    simp only [begins, StatePart.pass, Chronicle.part]
    generalize host.setBreak h chronicle.os = begun
    obtain ⟨e | _, os⟩ := begun
    · rfl
    · dsimp only
      rw [ends os, StatePart.pass, Chronicle.part]
      generalize host.clearBreak h _ = ended
      obtain ⟨e | _, os⟩ := ended <;> rfl

private theorem write_chronicled (bytes : ByteArray) :
    line.write host.chronicled bytes chronicle =
      chronicle.carry (line.write host bytes chronicle.os) := by
  rw [write, host.writeFully_chronicled]
  rfl

private theorem read_chronicled (room : Nat) :
    line.read host.chronicled room chronicle =
      chronicle.carry (line.read host room chronicle.os) := by
  simp only [read, host.readOnce_chronicled, Chronicle.carry]
  split <;> rfl

/-- Only a line that is brought up asks the host to open something. -/
theorem run_chronicled {operation : Operation} (other : operation ≠ .bringUp) :
    operation.run host.chronicled line chronicle =
      Chronicle.part.pass chronicle (operation.run host line chronicle.os) := by
  cases operation with
  | bringUp => exact absurd rfl other
  | setDevicePath | set => rfl
  | setBlocking blocking =>
    simp only [Operation.run, setBlocking, host.setHeldTimeout_chronicled]
    rfl
  | disconnect =>
    simp only [Operation.run, disconnect, host.closeHeld_chronicled]
    rfl
  | write bytes =>
    simp only [Operation.run, line.write_chronicled]
    rfl
  | read room =>
    simp only [Operation.run, line.read_chronicled]
    rfl
  | sendBreak milliseconds =>
    simp only [Operation.run, line.sendBreak_chronicled]
    rfl

private theorem run_recorded (operation : Operation) :
    operation.run host line chronicle.os =
      let done := operation.record host line chronicle
      (done.1, done.2.os) := by
  by_cases brings_up : operation = .bringUp
  · subst brings_up
    simp only [Operation.run, Operation.record, line.bringUp_chronicled host chronicle]
    rfl
  · simp only [Operation.record, line.run_chronicled host chronicle brings_up]
    rfl

theorem runAll_recorded (operations : List Operation) :
    runAll host operations line chronicle.os =
      let done := recordAll host operations line chronicle
      (done.1, done.2.os) := by
  induction operations generalizing line chronicle with
  | nil => rfl
  | cons operation rest ih =>
    simp only [runAll, recordAll, line.run_recorded host chronicle operation]
    exact ih _ _

private theorem state_read (line : SerialLine) (room : Nat) (os : σ) :
    (line.read host room os).state =
      { line with port := (host.readOnce line.port room os).state } := by
  unfold read
  dsimp only
  split <;> rfl

private theorem moves_of_port {port : Option Handle} (kept : port = line.port ∨ port = none) :
    line.Moves [] { line with port } :=
  .unmarked line.settings line.blocking port rfl rfl kept

private theorem moves_set (setting : LineSetting) :
    line.Moves (Operation.choices line (.set setting)) (setting.apply line) := by
  have unmarked (settings : LineSettings)
      (same_path : settings.devicePath = line.settings.devicePath)
      (same_rate : settings.baudRate = line.settings.baudRate) :
      line.Moves [] { line with settings } :=
    .unmarked settings line.blocking line.port same_path same_rate (Or.inl rfl)
  cases setting with
  | baudRate baudRate =>
    simp only [Operation.choices, LineSetting.apply, setBaudRate]
    by_cases standard : baudRate ∈ standardBaudRates
    · simp only [if_pos standard]
      exact .rated baudRate standard
    · simp only [if_neg standard]
      exact line.moves_refl
  | parity parity => exact unmarked { line.settings with parity } rfl rfl
  | dataBits dataBits => exact unmarked { line.settings with dataBits } rfl rfl
  | stopBits stopBits => exact unmarked { line.settings with stopBits } rfl rfl
  | flowControl flowControl => exact unmarked { line.settings with flowControl } rfl rfl

private theorem moves_run {operation : Operation} (other : operation ≠ .bringUp) (os : σ) :
    line.Moves (operation.choices line) (operation.run host line os).1 := by
  cases operation with
  | bringUp => exact absurd rfl other
  | setDevicePath devicePath => exact .named devicePath
  | set setting => exact line.moves_set setting
  | setBlocking blocking =>
    exact .unmarked line.settings blocking line.port rfl rfl (Or.inl rfl)
  | disconnect => exact line.moves_of_port (Or.inr rfl)
  | write bytes => exact line.moves_of_port (host.state_writeFully line.port bytes os)
  | read room =>
    simp only [Operation.run, state_read]
    exact line.moves_of_port (host.state_readOnce line.port room os)
  | sendBreak milliseconds => exact line.moves_refl

private theorem record_moves (operation : Operation) :
    ∃ noted, (operation.record host line chronicle).2.events = chronicle.events ++ noted ∧
      line.Moves noted (operation.record host line chronicle).1 := by
  by_cases brings_up : operation = .bringUp
  · subst brings_up
    have attempted := line.attempted_bringUp host chronicle
    simp only [Operation.record, Operation.run, Operation.choices, Chronicle.note, List.append_nil]
    generalize line.bringUp host.chronicled chronicle = done at attempted
    cases attempted with
    | refused missing => exact ⟨[], (List.append_nil _).symm, line.moves_refl⟩
    | opened named h os => exact ⟨[.opened line.settings h], rfl, .opened h⟩
    | failed named os => exact ⟨[.failed line.settings], rfl, .failed⟩
  · refine ⟨operation.choices line, ?_, ?_⟩ <;>
      simp only [Operation.record, line.run_chronicled host chronicle brings_up]
    · rfl
    · exact line.moves_run host brings_up chronicle.os

/-- What a line that was built with some settings remembers of the events since. -/
structure Remembers (built : LineSettings) (line : SerialLine) (events : List LineEvent) :
    Prop where
  armed_iff : line.armed = true ↔ ¬LineEvent.Disarmed events
  applied_eq : line.applied = (LineEvent.lastOpening? events).map Prod.fst
  /-- The handle of an open line is the one that it was opened with last. -/
  opened_last : ∀ h, line.port = some h →
    ∃ settings, LineEvent.lastOpening? events = some (settings, h)
  baudRate_eq : line.settings.baudRate = (LineEvent.lastRate? events).getD built.baudRate
  standard : ∀ rate, LineEvent.lastRate? events = some rate → rate ∈ standardBaudRates

variable {host line}

private theorem remembers_built (settings : LineSettings) (blocking : Bool) :
    Remembers settings { settings, blocking } [] where
  armed_iff := iff_of_true rfl LineEvent.not_disarmed_nil
  applied_eq := rfl
  opened_last := fun _ held => absurd held (by simp)
  baudRate_eq := rfl
  standard := fun _ chosen => absurd chosen (by simp [LineEvent.lastRate?])

/-- No move makes the line and its events disagree. -/
theorem Remembers.moves {built : LineSettings} {events noted : List LineEvent} {after : SerialLine}
    (remembers : Remembers built line events) (moves : line.Moves noted after) :
    Remembers built after (events ++ noted) := by
  cases moves with
  | named devicePath =>
    constructor
    case armed_iff =>
      rw [LineEvent.disarmed_append_iff]
      simp [setDevicePath, LineEvent.Rearms]
    all_goals simp only [LineEvent.lastOpening?_append, LineEvent.lastRate?_append]
    case applied_eq => exact remembers.applied_eq
    case opened_last => exact remembers.opened_last
    case baudRate_eq => exact remembers.baudRate_eq
    case standard => exact remembers.standard
  | rated baudRate standard =>
    constructor
    case armed_iff =>
      rw [LineEvent.disarmed_append_iff]
      simpa [LineEvent.Rearms] using remembers.armed_iff
    all_goals simp only [LineEvent.lastOpening?_append, LineEvent.lastRate?_append]
    case applied_eq => exact remembers.applied_eq
    case opened_last => exact remembers.opened_last
    case baudRate_eq => rfl
    case standard =>
      rintro rate ⟨⟩
      exact standard
  | unmarked settings blocking port same_path same_rate kept =>
    rw [List.append_nil]
    refine ⟨remembers.armed_iff, remembers.applied_eq, ?_, ?_, remembers.standard⟩
    · rintro h held
      rcases kept with rfl | rfl
      · exact remembers.opened_last h held
      · cases held
    · exact same_rate.trans remembers.baudRate_eq
  | opened h =>
    constructor
    case armed_iff =>
      rw [LineEvent.disarmed_append_iff]
      simp [LineEvent.Rearms]
    all_goals simp only [LineEvent.lastOpening?_append, LineEvent.lastRate?_append]
    case applied_eq => rfl
    case opened_last =>
      rintro _ ⟨⟩
      exact ⟨line.settings, rfl⟩
    case baudRate_eq => exact remembers.baudRate_eq
    case standard => exact remembers.standard
  | failed =>
    constructor
    case armed_iff =>
      rw [LineEvent.disarmed_append_iff]
      simp
    all_goals simp only [LineEvent.lastOpening?_append, LineEvent.lastRate?_append]
    case applied_eq => exact remembers.applied_eq
    case opened_last =>
      rintro _ ⟨⟩
    case baudRate_eq => exact remembers.baudRate_eq
    case standard => exact remembers.standard

private theorem Remembers.recordAll {built : LineSettings} {chronicle : Chronicle σ}
    (remembers : Remembers built line chronicle.events) (operations : List Operation) :
    let run := recordAll host operations line chronicle
    Remembers built run.1 run.2.events := by
  induction operations generalizing line chronicle with
  | nil => exact remembers
  | cons operation rest ih =>
    obtain ⟨noted, events_eq, moves⟩ := line.record_moves host chronicle operation
    apply ih
    rw [events_eq]
    exact remembers.moves moves

/-- What a line shows of the events since it was built. -/
structure FollowsHistory (host : Host σ) (built : LineSettings) (line : SerialLine)
    (chronicle : Chronicle σ) : Prop where
  isConfigured_iff : line.isConfigured = true ↔
    line.settings.devicePath ≠ "" ∧ ¬LineEvent.Disarmed chronicle.events
  applied_eq : line.applied = (LineEvent.lastOpening? chronicle.events).map Prod.fst
  /-- An open line was opened with the settings that were applied last. -/
  opened_with : ∀ h, line.port = some h → ∃ settings,
    LineEvent.lastOpening? chronicle.events = some (settings, h) ∧ line.applied = some settings
  baudRate_eq :
    line.settings.baudRate = (LineEvent.lastRate? chronicle.events).getD built.baudRate
  standard : ∀ rate, LineEvent.lastRate? chronicle.events = some rate → rate ∈ standardBaudRates
  /-- An opening is an attempt of the host to open the line with the settings of the moment. -/
  attempted : line.Attempted chronicle (line.bringUp host.chronicled chronicle)
  /-- No other operation is an opening. -/
  quiet : ∀ operation : Operation, operation ≠ .bringUp →
    (operation.run host.chronicled line chronicle).2.events = chronicle.events

/-- After any operations on a line, its flag, its applied settings and its baud rate are those that
the events call for. -/
theorem recordAll_followsHistory (host : Host σ) (built : LineSettings) (blocking : Bool) (os : σ)
    (operations : List Operation) :
    let run := recordAll host operations { settings := built, blocking } { os }
    runAll host operations { settings := built, blocking } os = (run.1, run.2.os) ∧
      FollowsHistory host built run.1 run.2 := by
  intro run
  have start : Remembers built { settings := built, blocking } ({ os } : Chronicle σ).events :=
    remembers_built built blocking
  have remembers : Remembers built run.1 run.2.events := start.recordAll operations
  refine ⟨runAll_recorded host _ { os } operations, ?_⟩
  constructor
  case isConfigured_iff =>
    rw [isConfigured, Bool.and_eq_true, remembers.armed_iff, and_comm]
    simp
  case applied_eq => exact remembers.applied_eq
  case opened_with =>
    intro h held
    obtain ⟨settings, last⟩ := remembers.opened_last h held
    refine ⟨settings, last, ?_⟩
    rw [remembers.applied_eq, last]
    rfl
  case baudRate_eq => exact remembers.baudRate_eq
  case standard => exact remembers.standard
  case attempted => exact run.1.attempted_bringUp host run.2
  case quiet =>
    intro operation other
    rw [run.1.run_chronicled host run.2 other]
    rfl

end SerialLine

end InstrumentLink
