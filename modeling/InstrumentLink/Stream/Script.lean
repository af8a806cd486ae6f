import InstrumentLink.Stream

/-!
# Scripted streams

A script lists in advance what a stream answers to each write and each read. It records the bytes
that it took and counts the calls made, so a run over a script shows exactly what the stream
operations do with any answers.
-/

namespace InstrumentLink

inductive WriteAnswer
  /-- Takes at most so many bytes. -/
  | accept (count : Nat)
  | fail (e : IoError)
deriving DecidableEq, Repr

inductive ReadAnswer
  /-- Hands out these bytes, over several reads if the buffers are smaller. -/
  | data (bytes : ByteArray)
  | fail (e : IoError)

/-- The answers still to come, and what has happened so far. -/
structure Script where
  writes : List WriteAnswer := []
  reads : List ReadAnswer := []
  sink : ByteArray := ByteArray.empty
  writeCalls : Nat := 0
  readCalls : Nat := 0

namespace Script

/-- The script after one more write that took a part of what it was offered. -/
def took (script : Script) (bytes : ByteArray) (count : Nat) (writes : List WriteAnswer) : Script :=
  { script with
    writes, sink := script.sink ++ bytes.extract 0 count, writeCalls := script.writeCalls + 1 }

/-- The next write answer; a script that is over takes everything. -/
def write (bytes : ByteArray) (script : Script) : Except IoError Nat × Script :=
  match script.writes with
  | [] => (.ok bytes.size, script.took bytes bytes.size [])
  | .accept count :: later =>
      (.ok (min count bytes.size), script.took bytes (min count bytes.size) later)
  | .fail e :: later => (.error e, script.took bytes 0 later)

def gave (script : Script) (reads : List ReadAnswer) : Script :=
  { script with reads, readCalls := script.readCalls + 1 }

/-- The next read answer. Bytes that do not fit stay at the front; a script that is over has
closed. -/
def read (room : Nat) (script : Script) : Except IoError ByteArray × Script :=
  match script.reads with
  | [] => (.ok ByteArray.empty, script.gave [])
  | .data bytes :: later =>
      let rest := bytes.extract room bytes.size
      (.ok (bytes.extract 0 room),
        script.gave (if rest.size = 0 then later else .data rest :: later))
  | .fail e :: later => (.error e, script.gave later)

theorem write_accepted_le (bytes : ByteArray) (script : Script) (n : Nat)
    (h : (script.write bytes).1 = .ok n) : n ≤ bytes.size := by
  unfold write at h
  split at h
  · exact Nat.le_of_eq (Except.ok.inj h).symm
  · rw [← Except.ok.inj h]
    exact Nat.min_le_right ..
  · cases h

private theorem read_received_le (room : Nat) (script : Script) (bytes : ByteArray)
    (h : (script.read room).1 = .ok bytes) : bytes.size ≤ room := by
  unfold read at h
  split at h
  · rw [← Except.ok.inj h]
    exact Nat.zero_le room
  · rw [← Except.ok.inj h]
    exact size_front_le _ room
  · cases h

private theorem writes_write_lt (bytes : ByteArray) (script : Script) (e : IoError)
    (h : (script.write bytes).1 = .error e) :
    (script.write bytes).2.writes.length < script.writes.length := by
  unfold write at h ⊢
  split at h
  · cases h
  · cases h
  · rename_i later script_eq
    rw [script_eq]
    exact Nat.lt_succ_self _

/-- A script as a stream. Every interruption is an entry of it, so the entries that are left bound
the interruptions to come. -/
def stream : ByteStream Script where
  write := write
  read := read
  patience := fun script => script.writes.length
  accepted_le := write_accepted_le
  received_le := read_received_le
  patience_lt := fun bytes script e h _ => writes_write_lt bytes script e h

/-- A host with a single stream, which every handle stands for. -/
def channels : Channels Script where
  stream := fun _ => stream
  close := fun _ script => script

inductive Call
  | write (bytes : ByteArray)
  | read (room : Nat)

inductive Reply
  | wrote (answer : Except Fault Nat)
  | read (answer : Except Fault Reading)

/-- Makes one call; the second part says what is left of the handle. -/
def call (held : Option Handle) (script : Script) : Call → Reply × Option Handle × Script
  | .write bytes =>
      let outcome := channels.writeFully held bytes script
      (.wrote outcome.answer, outcome.state, outcome.host)
  | .read room =>
      let outcome := channels.readOnce held room script
      (.read outcome.answer, outcome.state, outcome.host)

/-- Makes the calls in order; each reply comes with whether the handle is still there. -/
def run (held : Option Handle) (script : Script) : List Call → List (Reply × Bool) × Script
  | [] => ([], script)
  | c :: rest =>
      let (reply, held, script) := call held script c
      let (replies, script) := run held script rest
      ((reply, held.isSome) :: replies, script)

end Script

end InstrumentLink
