import InstrumentLink.Host

/-!
# Serial lines

A line that cannot be opened raises no fault. It disarms itself instead, so that it no longer
counts as configured until it is given a device again or opens after all.
-/

namespace InstrumentLink

structure SerialLine where
  settings : LineSettings := {}
  /-- The settings that the last successful opening applied. -/
  applied : Option LineSettings := none
  port : Option Handle := none
  /-- Cleared when the device cannot be opened. -/
  armed : Bool := true
  blocking : Bool := false
deriving DecidableEq, Repr, Inhabited

namespace SerialLine

variable {σ : Type}

/-- A copy with the configuration only. -/
def template (line : SerialLine) : SerialLine :=
  { settings := line.settings, blocking := line.blocking }

/-- Whether there is a device, and the last attempt to open it did not fail. -/
def isConfigured (line : SerialLine) : Bool :=
  line.armed && line.settings.devicePath ≠ ""

def isConnected (line : SerialLine) : Bool := line.port.isSome

/-- Changes the device and arms the line again. -/
def setDevicePath (line : SerialLine) (devicePath : String) : SerialLine :=
  { line with settings := { line.settings with devicePath }, armed := true }

/-- Selects a standard baud rate; any other one is refused and changes nothing. -/
def setBaudRate (line : SerialLine) (baudRate : UInt32) : Bool × SerialLine :=
  if baudRate ∈ standardBaudRates then
    (true, { line with settings := { line.settings with baudRate } })
  else (false, line)

def setParity (line : SerialLine) (parity : Parity) : SerialLine :=
  { line with settings := { line.settings with parity } }

def setDataBits (line : SerialLine) (dataBits : DataBits) : SerialLine :=
  { line with settings := { line.settings with dataBits } }

def setStopBits (line : SerialLine) (stopBits : StopBits) : SerialLine :=
  { line with settings := { line.settings with stopBits } }

def setFlowControl (line : SerialLine) (flowControl : FlowControl) : SerialLine :=
  { line with settings := { line.settings with flowControl } }

def timeout (line : SerialLine) : LineTimeout := .ofBlocking line.blocking

/-- Chooses the blocking mode, also of an open line. -/
def setBlocking (host : Host σ) (line : SerialLine) (blocking : Bool) (os : σ) : SerialLine × σ :=
  ({ line with blocking }, host.setHeldTimeout line.port (.ofBlocking blocking) os)

def disconnect (host : Host σ) (line : SerialLine) (os : σ) : SerialLine × σ :=
  ({ line with port := none }, host.closeHeld line.port os)

/-- Closes the line of an endpoint that is given up. -/
def release (host : Host σ) (line : SerialLine) (os : σ) : σ :=
  host.closeHeld line.port os

/-- Opens the device anew with every setting. A missing device path is refused before anything
happens; a device that cannot be opened answers `false` and disarms the line. -/
def bringUp (host : Host σ) (line : SerialLine) (os : σ) : Outcome σ SerialLine Bool :=
  if line.settings.devicePath = "" then ⟨.error .missingDevicePath, line, os⟩
  else
    let (line, os) := line.disconnect host os
    match host.openLine line.settings line.timeout os with
    | (.ok h, os) =>
        ⟨.ok true, { line with applied := some line.settings, port := some h, armed := true }, os⟩
    | (.error _, os) => ⟨.ok false, { line with armed := false }, os⟩

/-- Holds the line in the break state for a time; `false` if it is not open or the state cannot be
entered or left. -/
def sendBreak (host : Host σ) (line : SerialLine) (milliseconds : Nat) (os : σ) : Bool × σ :=
  match line.port with
  | none => (false, os)
  | some h =>
      match host.setBreak h os with
      | (.error _, os) => (false, os)
      | (.ok (), os) =>
          match host.clearBreak h (host.pause milliseconds os) with
          | (.error _, os) => (false, os)
          | (.ok (), os) => (true, os)

/-- Writes all bytes; a failure closes the line. -/
def write (host : Host σ) (line : SerialLine) (bytes : ByteArray) (os : σ) :
    Outcome σ SerialLine Nat :=
  (host.writeFully line.port bytes os).inState fun port => { line with port }

/-- Reads once. No bytes mean that there are none now; a line has no end of stream. -/
def read (host : Host σ) (line : SerialLine) (room : Nat) (os : σ) :
    Outcome σ SerialLine ByteArray :=
  let outcome := host.readOnce line.port room os
  let line := { line with port := outcome.state }
  match outcome.answer with
  | .error fault => ⟨.error fault, line, outcome.host⟩
  | .ok (.data bytes) => ⟨.ok bytes, line, outcome.host⟩
  | .ok .wouldBlock => ⟨.ok ByteArray.empty, line, outcome.host⟩
  | .ok .closed => ⟨.ok ByteArray.empty, line, outcome.host⟩

end SerialLine

end InstrumentLink
