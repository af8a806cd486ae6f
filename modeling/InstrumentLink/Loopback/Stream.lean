import InstrumentLink.Loopback.Wire

namespace InstrumentLink.Loopback.World

def writeStream (world : World) (h : Handle) (streamEnd : StreamEnd) (bytes : ByteArray) :
    Except IoError Nat × World :=
  match streamEnd.peerState with
  | .broken => (.error (.ofNumber 32), world)
  | .reset => (.error (.ofNumber 104), world)
  | .closed =>
      (.ok bytes.size, world.modifyEnd h fun streamEnd => { streamEnd with peerState := .broken })
  | .present =>
      match world.streams.get? streamEnd.peer with
      | none => (.error (.ofNumber 32), world)
      | some peer =>
          let room := inboxCapacity - peer.inbox.size
          if room = 0 then (.error (.ofNumber 11), world)
          else
            (.ok (min room bytes.size),
              world.modifyEnd streamEnd.peer fun peer =>
                { peer with inbox := peer.inbox ++ bytes.extract 0 room })

def writeLine (world : World) (h : Handle) (bytes : ByteArray) : Except IoError Nat × World :=
  match world.wire? h with
  | some (path, wire) =>
      (.ok bytes.size,
        { world with
          wires := world.wires.insert path { wire with toFarEnd := wire.toFarEnd ++ bytes } })
  | none => (.error .hungUp, world)

def write (h : Handle) (bytes : ByteArray) (world : World) : Except IoError Nat × World :=
  match world.streams.get? h with
  | some streamEnd =>
      if bytes.size = 0 then (.ok 0, world) else world.writeStream h streamEnd bytes
  | none => world.writeLine h bytes

/-- What a reader sees at the end of its queue. -/
def readPastEnd : PeerState → Except IoError ByteArray
  | .present => .error (.ofNumber 11)
  | .closed | .broken => .ok ByteArray.empty
  | .reset => .error (.ofNumber 104)

def readStream (world : World) (h : Handle) (streamEnd : StreamEnd) (room : Nat) :
    Except IoError ByteArray × World :=
  if streamEnd.inbox.size = 0 then (readPastEnd streamEnd.peerState, world)
  else
    (.ok (streamEnd.inbox.extract 0 room),
      world.modifyEnd h fun streamEnd =>
        { streamEnd with inbox := streamEnd.inbox.extract room streamEnd.inbox.size })

/-- A line had nothing to read in time. -/
def nothingInTime : IoError where
  condition := .timedOut
  text := "Operation timed out"

def readLine (world : World) (h : Handle) (room : Nat) : Except IoError ByteArray × World :=
  match world.wire? h with
  | none => (.error .hungUp, world)
  | some (path, wire) =>
      if wire.toDevice.size = 0 then (.error nothingInTime, world)
      else
        (.ok (wire.toDevice.extract 0 room),
          { world with
            wires := world.wires.insert path
              { wire with toDevice := wire.toDevice.extract room wire.toDevice.size } })

def read (h : Handle) (room : Nat) (world : World) : Except IoError ByteArray × World :=
  match world.streams.get? h with
  | some streamEnd => world.readStream h streamEnd room
  | none => world.readLine h room

private theorem writeStream_accepted_le (world : World) (h : Handle) (streamEnd : StreamEnd)
    (bytes : ByteArray) (n : Nat)
    (taken : (world.writeStream h streamEnd bytes).1 = .ok n) : n ≤ bytes.size := by
  unfold writeStream at taken
  split at taken
  · cases taken
  · cases taken
  · exact Nat.le_of_eq (Except.ok.inj taken).symm
  · split at taken
    · cases taken
    · dsimp only at taken
      split at taken
      · cases taken
      · rw [← Except.ok.inj taken]
        exact Nat.min_le_right ..

private theorem write_accepted_le (h : Handle) (bytes : ByteArray) (world : World) (n : Nat)
    (taken : (world.write h bytes).1 = .ok n) : n ≤ bytes.size := by
  unfold write at taken
  split at taken
  · split at taken
    · rw [← Except.ok.inj taken]
      exact Nat.zero_le _
    · exact world.writeStream_accepted_le h _ bytes n taken
  · unfold writeLine at taken
    split at taken
    · exact Nat.le_of_eq (Except.ok.inj taken).symm
    · cases taken

private theorem writeStream_not_interrupted (world : World) (h : Handle) (streamEnd : StreamEnd)
    (bytes : ByteArray) (e : IoError)
    (failed : (world.writeStream h streamEnd bytes).1 = .error e) :
    e.condition ≠ .interrupted := by
  unfold writeStream at failed
  split at failed
  · rw [← Except.error.inj failed]
    decide
  · rw [← Except.error.inj failed]
    decide
  · cases failed
  · split at failed
    · rw [← Except.error.inj failed]
      decide
    · dsimp only at failed
      split at failed
      · rw [← Except.error.inj failed]
        decide
      · cases failed

private theorem write_not_interrupted (h : Handle) (bytes : ByteArray) (world : World) (e : IoError)
    (failed : (world.write h bytes).1 = .error e) : e.condition ≠ .interrupted := by
  unfold write at failed
  split at failed
  · split at failed
    · cases failed
    · exact world.writeStream_not_interrupted h _ bytes e failed
  · unfold writeLine at failed
    split at failed
    · cases failed
    · rw [← Except.error.inj failed]
      decide

private theorem read_received_le (h : Handle) (room : Nat) (world : World) (bytes : ByteArray)
    (taken : (world.read h room).1 = .ok bytes) : bytes.size ≤ room := by
  unfold read at taken
  split at taken
  · unfold readStream at taken
    split at taken
    · unfold readPastEnd at taken
      split at taken
      · cases taken
      · rw [← Except.ok.inj taken]
        exact Nat.zero_le room
      · rw [← Except.ok.inj taken]
        exact Nat.zero_le room
      · cases taken
    · rw [← Except.ok.inj taken]
      exact size_front_le _ room
  · unfold readLine at taken
    split at taken
    · cases taken
    · split at taken
      · cases taken
      · rw [← Except.ok.inj taken]
        exact size_front_le _ room

def stream (h : Handle) : ByteStream World where
  write := fun bytes world => world.write h bytes
  read := fun room world => world.read h room
  patience := fun _ => 0
  accepted_le := write_accepted_le h
  received_le := read_received_le h
  patience_lt := fun bytes world e failed again =>
    absurd again (write_not_interrupted h bytes world e failed)

end InstrumentLink.Loopback.World
