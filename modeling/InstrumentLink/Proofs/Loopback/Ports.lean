import InstrumentLink.Loopback.Host
import InstrumentLink.Proofs.Host.Standing
import Mathlib.Data.List.Flatten
import Mathlib.Data.List.Perm.Subperm

/-! # No handle of the host in memory is ever given again -/

namespace InstrumentLink

namespace Table

variable {κ α : Type} [DecidableEq κ] {table : Table κ α} {key : κ} {a : α}

private theorem subperm_of_get? (found : table.get? key = some a) :
    ((key, a) :: (table.erase key).entries).Subperm table.entries := by
  obtain ⟨entry, first, rfl⟩ := Option.map_eq_some_iff.mp found
  have same : entry.1 = key := by simpa using List.find?_some first
  subst same
  refine List.cons_subperm_of_not_mem_of_mem ?_ (List.mem_of_find?_eq_some first)
    List.filter_sublist.subperm
  simp [erase]

private theorem isSome_get?_of_keyOf? {condition : α → Bool}
    (found : table.keyOf? condition = some key) :
    (table.get? key).isSome := by
  obtain ⟨entry, first, rfl⟩ := Option.map_eq_some_iff.mp found
  rw [get?, Option.isSome_map, List.find?_isSome]
  exact ⟨entry, List.mem_of_find?_eq_some first, by simp⟩

end Table

namespace Loopback.World

/-- The connections that were not accepted yet. -/
def waiting (listeners : Table Handle Backlog) : List Handle :=
  listeners.entries.flatMap fun entry => entry.2.pending

private theorem waiting_insert (listeners : Table Handle Backlog) (h : Handle) (backlog : Backlog) :
    (waiting (listeners.insert h backlog)).Perm
      (backlog.pending ++ waiting (listeners.erase h)) := by
  have moved : (listeners.insert h backlog).entries.Perm
      ((h, backlog) :: (listeners.erase h).entries) := List.perm_append_comm
  exact moved.flatMap_right _

private theorem waiting_erase (listeners : Table Handle Backlog) (h : Handle) :
    (waiting (listeners.erase h)).Subperm (waiting listeners) :=
  (List.filter_sublist.flatMap _).subperm

private theorem pending_subperm {listeners : Table Handle Backlog} {h : Handle} {backlog : Backlog}
    (found : listeners.get? h = some backlog) :
    (backlog.pending ++ waiting (listeners.erase h)).Subperm (waiting listeners) := by
  obtain ⟨entries, same, part⟩ := Table.subperm_of_get? found
  exact ⟨_, same.flatMap_right _, part.flatMap _⟩

/-- What waits or is held is apart, and was opened before. -/
def custody : Custody World where
  Holds := fun world held =>
    (waiting world.listeners ++ held).Nodup ∧
      ∀ h ∈ waiting world.listeners ++ held, h.number < world.nextHandle
  perm := fun same ⟨nodup, before⟩ =>
    have moved := same.append_left _
    ⟨moved.nodup_iff.mp nodup, fun h mem => before h (moved.mem_iff.mpr mem)⟩

/-- What a request does to what is held and to the ports. -/
structure Stands (given taken : List Handle) (world world' : World) : Prop where
  exchange : custody.Exchanges given taken world world'
  localPort_eq : ∀ h, h ∉ given → h ∉ taken → localPort h world' = localPort h world

variable {world world' : World} {given taken : List Handle} {h : Handle}

private theorem exchanges_of_subperm (new : List Handle) (apart : new.Nodup)
    (unused : ∀ h ∈ new, world.nextHandle ≤ h.number ∧ h.number < world'.nextHandle)
    (later : world.nextHandle ≤ world'.nextHandle)
    (moved : (waiting world'.listeners ++ taken).Subperm
      (new ++ (waiting world.listeners ++ given))) :
    custody.Exchanges given taken world world' := by
  rintro others ⟨nodup, before⟩
  rw [← List.append_assoc] at nodup before
  have all := (List.subperm_append_right others).mpr moved
  rw [List.append_assoc new, List.append_assoc] at all
  refine ⟨?_, fun h mem => ?_⟩
  · obtain ⟨part, same, sub⟩ := all
    refine same.nodup_iff.mp (List.Nodup.sublist sub ?_)
    refine List.nodup_append.mpr ⟨apart, nodup, fun h fresh other mem => ?_⟩
    rintro rfl
    exact absurd (before h mem) (Nat.not_lt.mpr (unused h fresh).1)
  · rcases List.mem_append.mp (all.subset mem) with fresh | mem
    · exact (unused h fresh).2
    · exact Nat.lt_of_lt_of_le (before h mem) later

private theorem localPort_of_get?_eq (same : world'.listeners.get? h = world.listeners.get? h) :
    localPort h world' = localPort h world := by
  rw [localPort, localPort, same]

/-- The world has the same listeners, and nothing was opened. -/
structure SameSockets (world world' : World) : Prop where
  listeners_eq : world'.listeners = world.listeners
  nextHandle_eq : world'.nextHandle = world.nextHandle

theorem SameSockets.refl (world : World) : SameSockets world world := ⟨rfl, rfl⟩

theorem SameSockets.trans {world'' : World} (first : SameSockets world world')
    (later : SameSockets world' world'') : SameSockets world world'' :=
  ⟨later.listeners_eq.trans first.listeners_eq, later.nextHandle_eq.trans first.nextHandle_eq⟩

private theorem sameSockets_modifyEnd (world : World) (h : Handle) (f : StreamEnd → StreamEnd) :
    SameSockets world (world.modifyEnd h f) := by
  unfold modifyEnd
  split <;> exact ⟨rfl, rfl⟩

private theorem sameSockets_closeStream (world : World) (h : Handle) (streamEnd : StreamEnd)
    (farewell : PeerState) : SameSockets world (world.closeStream h streamEnd farewell) :=
  (world.sameSockets_modifyEnd streamEnd.peer _).trans ⟨rfl, rfl⟩

private theorem sameSockets_dropPending (world : World) (pending : List Handle) :
    SameSockets world (world.dropPending pending) := by
  induction pending generalizing world with
  | nil => exact .refl world
  | cons h rest ih =>
    unfold dropPending
    split
    · next streamEnd _ => exact (world.sameSockets_closeStream h streamEnd .reset).trans (ih _)
    · exact ih world

private theorem sameSockets_write (world : World) (h : Handle) (bytes : ByteArray) :
    SameSockets world (world.write h bytes).2 := by
  unfold write
  split
  · split
    · exact .refl world
    · unfold writeStream
      split
      · exact .refl world
      · exact .refl world
      · exact world.sameSockets_modifyEnd _ _
      · split
        · exact .refl world
        · dsimp only
          split
          · exact .refl world
          · exact world.sameSockets_modifyEnd _ _
  · unfold writeLine
    split <;> exact ⟨rfl, rfl⟩

private theorem sameSockets_read (world : World) (h : Handle) (room : Nat) :
    SameSockets world (world.read h room).2 := by
  unfold read
  split
  · unfold readStream
    split
    · exact .refl world
    · exact world.sameSockets_modifyEnd _ _
  · unfold readLine
    split
    · exact .refl world
    · split <;> exact ⟨rfl, rfl⟩

private theorem sameSockets_lookup (world : World) (hostname : String) :
    SameSockets world (world.lookup hostname).2 := by
  unfold lookup
  split
  · exact .refl world
  · split
    · exact .refl world
    · split <;> exact .refl world

private theorem sameSockets_sendTo (world : World) (h : Handle) (bytes : ByteArray)
    (address : SocketAddress) : SameSockets world (sendTo h bytes address world).2 := by
  unfold sendTo
  repeat' split
  all_goals exact ⟨rfl, rfl⟩

private theorem sameSockets_breakState (world : World) (h : Handle) :
    SameSockets world (breakState h world).2 := by
  unfold breakState
  split <;> exact .refl world

private theorem stands_of_sameSockets (same : SameSockets world world') :
    Stands [] [] world world' where
  exchange := by
    refine exchanges_of_subperm [] List.nodup_nil (by simp) (Nat.le_of_eq same.2.symm) ?_
    rw [same.listeners_eq]
    exact List.Subperm.refl _
  localPort_eq := fun h _ _ => localPort_of_get?_eq (by rw [same.listeners_eq])

private theorem exchanges_fresh
    (fewer : (waiting world'.listeners).Subperm (waiting world.listeners))
    (next : world'.nextHandle = world.nextHandle + 1) :
    custody.Exchanges [] [⟨world.nextHandle⟩] world world' := by
  refine exchanges_of_subperm [⟨world.nextHandle⟩] (List.nodup_singleton _) ?_ (by omega) ?_
  · intro h mem
    rw [List.mem_singleton.mp mem, next]
    exact ⟨Nat.le_refl _, Nat.lt_succ_self _⟩
  · rw [List.append_nil]
    exact List.perm_append_comm.subperm.trans ((List.subperm_append_left _).mpr fewer)

private theorem stands_fresh (listeners : world'.listeners = world.listeners)
    (next : world'.nextHandle = world.nextHandle + 1) :
    Stands [] [⟨world.nextHandle⟩] world world' where
  exchange := exchanges_fresh (by rw [listeners]) next
  localPort_eq := fun h _ _ => localPort_of_get?_eq (by rw [listeners])

private theorem stands_closed (fewer : (waiting world'.listeners).Subperm (waiting world.listeners))
    (next : world'.nextHandle = world.nextHandle)
    (others : ∀ other, other ≠ h → world'.listeners.get? other = world.listeners.get? other) :
    Stands [h] [] world world' where
  exchange := by
    refine exchanges_of_subperm [] List.nodup_nil (by simp) (Nat.le_of_eq next.symm) ?_
    rw [List.append_nil]
    exact fewer.trans (List.sublist_append_left _ _).subperm
  localPort_eq := fun other apart _ =>
    localPort_of_get?_eq (others other fun same => apart (List.mem_singleton.mpr same))

private theorem localPort_insert {backlog backlog' : Backlog}
    (found : world.listeners.get? h = some backlog)
    (listeners : world'.listeners = world.listeners.insert h backlog')
    (port : backlog'.port = backlog.port) (other : Handle) :
    localPort other world' = localPort other world := by
  by_cases same : other = h
  · subst same
    simp only [localPort, listeners, Table.get?_insert_self, found, port]
  · exact localPort_of_get?_eq (by rw [listeners, Table.get?_insert_of_ne _ _ same])

private theorem stands_connected {backlog : Backlog} (found : world.listeners.get? h = some backlog)
    (listeners : world'.listeners = world.listeners.insert h
      { backlog with pending := backlog.pending ++ [⟨world.nextHandle + 1⟩] })
    (next : world'.nextHandle = world.nextHandle + 2) :
    Stands [] [⟨world.nextHandle⟩] world world' where
  exchange := by
    let near : Handle := ⟨world.nextHandle⟩
    let far : Handle := ⟨world.nextHandle + 1⟩
    refine exchanges_of_subperm [near, far] (by simp [near, far]) ?_ (by omega) ?_
    · intro h mem
      rcases List.mem_pair.mp mem with rfl | rfl <;> simp only [near, far, next] <;> omega
    · have waits := waiting_insert world.listeners h
        { backlog with pending := backlog.pending ++ [far] }
      rw [← listeners] at waits
      have moved : (waiting world'.listeners ++ [near]).Perm
          ([near, far] ++ (backlog.pending ++ waiting (world.listeners.erase h))) :=
        (waits.append_right [near]).trans
          (List.perm_append_comm.trans
            ((List.perm_append_comm.append_right (waiting (world.listeners.erase h))).cons near))
      rw [List.append_nil]
      exact moved.subperm.trans ((List.subperm_append_left _).mpr (pending_subperm found))
  localPort_eq := fun other _ _ => localPort_insert found listeners rfl other

private theorem stands_connect (world : World) (address : SocketAddress) :
    Stands [] (granted (world.connect address).1) world (world.connect address).2 := by
  unfold connect
  split
  · exact stands_of_sameSockets (.refl world)
  · split
    · exact stands_of_sameSockets (.refl world)
    · next listening keyed =>
      obtain ⟨backlog, found⟩ := Option.isSome_iff_exists.mp (Table.isSome_get?_of_keyOf? keyed)
      simp only [freshHandle, freshPort, found, Option.getD_some]
      exact stands_connected found rfl rfl

private theorem stands_listening {port : UInt16}
    (listeners : world'.listeners = world.listeners.insert ⟨world.nextHandle⟩ { port })
    (next : world'.nextHandle = world.nextHandle + 1) :
    Stands [] [⟨world.nextHandle⟩] world world' where
  exchange := by
    refine exchanges_fresh ?_ next
    rw [listeners]
    exact (waiting_insert _ _ _).subperm.trans (waiting_erase world.listeners _)
  localPort_eq := by
    intro other _ apart
    refine localPort_of_get?_eq ?_
    rw [listeners]
    exact world.listeners.get?_insert_of_ne _ fun same => apart (List.mem_singleton.mpr same)

private theorem stands_listen (world : World) (port : UInt16) :
    Stands [] (granted (world.listen port).1) world (world.listen port).2 := by
  unfold listen
  split
  · exact stands_of_sameSockets (.refl world)
  · by_cases chosen : port = 0
    · simp only [chosen, if_true, freshPort, freshHandle]
      exact stands_listening rfl rfl
    · simp only [chosen, if_false, freshHandle]
      exact stands_listening rfl rfl

private theorem stands_accept (world : World) (h : Handle) :
    Stands [] (granted (world.accept h).1) world (world.accept h).2 := by
  unfold accept
  split
  · exact stands_of_sameSockets (.refl world)
  · next backlog found =>
    split
    · exact stands_of_sameSockets (.refl world)
    · next client later pending =>
      refine ⟨?_, fun other _ _ => localPort_insert found (by rfl) (by rfl) other⟩
      refine exchanges_of_subperm [] List.nodup_nil (by simp) (Nat.le_refl _) ?_
      have moved : (waiting (world.listeners.insert h { backlog with pending := later }) ++
          [client]).Perm (backlog.pending ++ waiting (world.listeners.erase h)) := by
        rw [pending]
        exact ((waiting_insert _ h _).append_right [client]).trans List.perm_append_comm
      rw [List.append_nil]
      exact moved.subperm.trans (pending_subperm found)

private theorem stands_openLine (world : World) (settings : LineSettings) (timeout : LineTimeout) :
    Stands [] (granted (openLine settings timeout world).1) world
      (openLine settings timeout world).2 := by
  unfold openLine
  split
  · exact stands_of_sameSockets (.refl world)
  · exact stands_fresh rfl rfl

private theorem stands_close (world : World) (h : Handle) :
    Stands [h] [] world (world.close h) := by
  unfold close
  split
  · next streamEnd _ =>
    have same := world.sameSockets_closeStream h streamEnd streamEnd.farewell
    refine stands_closed ?_ same.nextHandle_eq fun _ _ => by rw [same.listeners_eq]
    rw [same.listeners_eq]
  · next backlog _ _ =>
    have same := sameSockets_dropPending { world with listeners := world.listeners.erase h }
      backlog.pending
    refine stands_closed ?_ same.nextHandle_eq fun other apart => ?_
    · rw [same.listeners_eq]
      exact waiting_erase world.listeners h
    · rw [same.listeners_eq]
      exact world.listeners.get?_erase_of_ne apart
  · exact stands_closed (List.Subperm.refl _) rfl fun _ _ => rfl

private theorem stands_of_request (request : host.Request given taken world world') :
    Stands given taken world world' := by
  cases request with
  | close h => exact world.stands_close h
  | connect address => exact world.stands_connect address
  | listen port => exact world.stands_listen port
  | accept h => exact world.stands_accept h
  | bindDatagram => exact stands_fresh rfl rfl
  | openLine settings timeout => exact world.stands_openLine settings timeout
  | write h bytes => exact stands_of_sameSockets (world.sameSockets_write h bytes)
  | read h room => exact stands_of_sameSockets (world.sameSockets_read h room)
  | lookup hostname => exact stands_of_sameSockets (world.sameSockets_lookup hostname)
  | sendTo h bytes address => exact stands_of_sameSockets (world.sameSockets_sendTo h bytes address)
  | shutdown h how => exact stands_of_sameSockets (world.sameSockets_modifyEnd h _)
  | setBreak h => exact stands_of_sameSockets (world.sameSockets_breakState h)
  | clearBreak h => exact stands_of_sameSockets (world.sameSockets_breakState h)
  | setBlocking | setTimeout | pause => exact stands_of_sameSockets (.refl world)

/-- The host in memory keeps ports. -/
theorem portsStand : host.PortsStand custody where
  respects := ⟨fun request => (stands_of_request request).exchange⟩
  nodup := fun holds => holds.1.of_append_right
  localPort_eq := fun request => (stands_of_request request).localPort_eq

end Loopback.World

end InstrumentLink
