import InstrumentLink.Proofs.Endpoint.SingleClient
import InstrumentLink.Proofs.Loopback.Connection
import Mathlib.Logic.Function.Basic

/-!
# Conversations between a client and a listener

A client and a listener that has accepted it write and read in any order. The host is assumed to
carry bytes in both directions. An invariant says for each direction that what was sent is what was
received, followed by what the pipe holds. So nothing is lost, repeated or put out of order, and a
side that sees the end of the stream has received everything.
-/

namespace InstrumentLink

open Loopback (World)

variable {σ : Type}

inductive Side
  | client
  | server
deriving DecidableEq, Repr

def Side.other : Side → Side
  | client => server
  | server => client

@[simp] theorem Side.other_other (side : Side) : side.other.other = side := by
  cases side <;> rfl

private theorem Side.eq_other_of_ne {side caller : Side} (apart : side ≠ caller) :
    side = caller.other := by
  cases side <;> cases caller <;> first | rfl | exact absurd rfl apart

private theorem Side.other_ne (side : Side) : side.other ≠ side := by
  cases side <;> decide

/-- How a side shuts a connection down before it closes its end. -/
private def Side.manner : Side → Shutdown
  | client => .write
  | server => .both

/-- A client and a listener with a connection between them, and what went through it. -/
structure Conversation (σ : Type) where
  client : TcpClient
  server : Listener
  os : σ
  /-- The bytes that the host has taken from each side. -/
  sent : Side → ByteArray := fun _ => ByteArray.empty
  /-- The bytes that reads have returned to each side. -/
  received : Side → ByteArray := fun _ => ByteArray.empty

namespace Conversation

/-- The handle of a side's end of the connection. -/
def held (now : Conversation σ) : Side → Option Handle
  | .client => now.client.stream
  | .server => now.server.client

/-- The bytes that the host takes from a side in the course of a write. -/
def taken (host : Host σ) (now : Conversation σ) (side : Side) (bytes : ByteArray) : ByteArray :=
  takenBytes (host.transcribed.writeFully (now.held side) bytes { os := now.os }).host.calls

def write (host : Host σ) (now : Conversation σ) (side : Side) (bytes : ByteArray) :
    Except Fault Nat × Conversation σ :=
  let sent := Function.update now.sent side (now.sent side ++ now.taken host side bytes)
  match side with
  | .client =>
      let wrote := now.client.write host bytes now.os
      (wrote.answer, { now with client := wrote.state, os := wrote.host, sent })
  | .server =>
      let wrote := now.server.write host bytes now.os
      (wrote.answer, { now with server := wrote.state, os := wrote.host, sent })

def read (host : Host σ) (now : Conversation σ) (side : Side) (room : Nat) :
    Except Fault ByteArray × Conversation σ :=
  match side with
  | .client =>
      let got := now.client.read host room now.os
      let received := Function.update now.received .client
        (now.received .client ++ returned got.answer)
      (got.answer, { now with client := got.state, os := got.host, received })
  | .server =>
      let got := now.server.read host room now.os
      let received := Function.update now.received .server
        (now.received .server ++ returned got.answer)
      (got.answer, { now with server := got.state, os := got.host, received })

/-- A side ends the connection. -/
def close (host : Host σ) (now : Conversation σ) : Side → Conversation σ
  | .client =>
      { now with
        client := (now.client.disconnect host now.os).1
        os := (now.client.disconnect host now.os).2 }
  | .server =>
      { now with
        server := (now.server.disconnectClient host now.os).1
        os := (now.server.disconnectClient host now.os).2 }

end Conversation

/-- A call that a side makes. -/
inductive Call
  | write (bytes : ByteArray)
  | read (room : Nat)
  | close

namespace Conversation

def call (host : Host σ) (now : Conversation σ) (side : Side) : Call → Conversation σ
  | .write bytes => (now.write host side bytes).2
  | .read room => (now.read host side room).2
  | .close => now.close host side

/-- Carries calls out in order, each by one of the sides. -/
def run (host : Host σ) (now : Conversation σ) : List (Side × Call) → Conversation σ
  | [] => now
  | turn :: rest => run host (now.call host turn.1 turn.2) rest

/-- The conversation after a side was left with a handle, or without one. -/
structure Turned (now : Conversation σ) (side : Side) (held : Option Handle) (os : σ)
    (after : Conversation σ) : Prop where
  own : after.held side = held
  other : after.held side.other = now.held side.other
  os : after.os = os
  listening : after.server.isListening = now.server.isListening

end Conversation

private theorem eq_ok_of_toOption {ε α : Type} {answer : Except ε α} {a : α}
    (given : answer.toOption = some a) : answer = .ok a := by
  cases answer with
  | ok b => exact congrArg Except.ok (Option.some.inj given)
  | error e => cases given

private theorem exists_error_of_toOption {ε α : Type} {answer : Except ε α}
    (nothing : answer.toOption = none) : ∃ e, answer = .error e := by
  cases answer with
  | ok b => cases nothing
  | error e => exact ⟨e, rfl⟩

namespace Conversation

variable (host : Host σ) {now : Conversation σ}

private theorem noClient?_eq (listening : now.server.isListening = true) :
    now.server.noClient? = if now.server.client = none then some .notConnected else none := by
  cases held : now.server.client with
  | none =>
    apply Listener.noClient?_eq_notConnected_iff.mpr
    exact ⟨listening, by rw [Listener.isConnected, held]; rfl⟩
  | some h =>
    apply Listener.noClient?_eq_none_iff.mpr
    exact ⟨listening, by rw [Listener.isConnected, held]; rfl⟩

private theorem turned_write (listening : now.server.isListening = true) (side : Side)
    (bytes : ByteArray) :
    let done := host.writeFully (now.held side) bytes now.os
    now.Turned side done.state done.host (now.write host side bytes).2 ∧
      (now.write host side bytes).1.toOption = done.answer.toOption := by
  cases side with
  | client => exact ⟨⟨rfl, rfl, rfl, rfl⟩, rfl⟩
  | server =>
    have noClient := noClient?_eq listening
    cases held : now.server.client with
    | none =>
      rw [held, if_pos rfl] at noClient
      simp only [write, now.server.write_of_noClient noClient, Conversation.held, held]
      exact ⟨⟨held, rfl, rfl, rfl⟩, rfl⟩
    | some h =>
      rw [held, if_neg (Option.some_ne_none h)] at noClient
      simp only [write, Listener.write, noClient, Conversation.held, held]
      exact ⟨⟨rfl, rfl, rfl, rfl⟩, rfl⟩

private theorem turned_read (listening : now.server.isListening = true) (side : Side) (room : Nat) :
    let done := host.receive side.manner (now.held side) room now.os
    now.Turned side done.state done.host (now.read host side room).2 ∧
      (now.read host side room).1.toOption = done.answer.toOption := by
  cases side with
  | client =>
    simp only [read, TcpClient.read_eq_receive]
    exact ⟨⟨rfl, rfl, rfl, rfl⟩, rfl⟩
  | server =>
    have noClient := noClient?_eq listening
    cases held : now.server.client with
    | none =>
      rw [held, if_pos rfl] at noClient
      simp only [read, now.server.read_of_noClient noClient, Conversation.held, held]
      exact ⟨⟨held, rfl, rfl, rfl⟩, rfl⟩
    | some h =>
      rw [held, if_neg (Option.some_ne_none h)] at noClient
      simp only [read, Listener.read_eq_receive host noClient, Conversation.held, held]
      exact ⟨⟨rfl, rfl, rfl, rfl⟩, rfl⟩

private theorem turned_close (side : Side) :
    now.Turned side none (host.endHeld side.manner (now.held side) now.os)
      (now.close host side) := by
  cases side <;> exact ⟨rfl, rfl, rfl, rfl⟩

private theorem sent_write (side : Side) (bytes : ByteArray) :
    (now.write host side bytes).2.sent =
      Function.update now.sent side (now.sent side ++ now.taken host side bytes) := by
  cases side <;> rfl

private theorem received_write (side : Side) (bytes : ByteArray) :
    (now.write host side bytes).2.received = now.received := by
  cases side <;> rfl

private theorem sent_read (side : Side) (room : Nat) :
    (now.read host side room).2.sent = now.sent := by
  cases side <;> rfl

private theorem received_read (side : Side) (room : Nat) :
    (now.read host side room).2.received =
      Function.update now.received side
        (now.received side ++ returned (now.read host side room).1) := by
  cases side <;> rfl

private theorem sent_close (side : Side) : (now.close host side).sent = now.sent := by
  cases side <;> rfl

private theorem received_close (side : Side) : (now.close host side).received = now.received := by
  cases side <;> rfl

private theorem turned_call (listening : now.server.isListening = true) (side : Side)
    (made : Call) :
    ∃ held os, now.Turned side held os (now.call host side made) ∧
      (held = now.held side ∨ held = none) := by
  cases made with
  | write bytes =>
    obtain ⟨turned, -⟩ := turned_write host listening side bytes
    exact ⟨_, _, turned, host.state_writeFully _ bytes _⟩
  | read room =>
    obtain ⟨turned, -⟩ := turned_read host listening side room
    exact ⟨_, _, turned, host.state_receive _ _ room _⟩
  | close => exact ⟨none, _, turned_close host side, Or.inr rfl⟩

private theorem parted_call (listening : now.server.isListening = true) {side : Side}
    (parted : now.held side = none) (caller : Side) (made : Call) :
    (now.call host caller made).held side = none ∧
      (now.call host caller made).sent side = now.sent side := by
  obtain ⟨held, os, turned, kept⟩ := turned_call host listening caller made
  by_cases same : side = caller
  · subst same
    rw [parted, or_self] at kept
    refine ⟨turned.own.trans kept, ?_⟩
    cases made with
    | write bytes =>
      rw [call, sent_write, Function.update_self, taken, parted]
      exact ByteArray.append_empty
    | read room => rw [call, sent_read]
    | close => rw [call, sent_close]
  · obtain rfl : side = caller.other := Side.eq_other_of_ne same
    refine ⟨turned.other.trans parted, ?_⟩
    cases made with
    | write bytes => rw [call, sent_write, Function.update_of_ne same]
    | read room => rw [call, sent_read]
    | close => rw [call, sent_close]

private theorem sent_run_of_parted (listening : now.server.isListening = true) {side : Side}
    (parted : now.held side = none) (turns : List (Side × Call)) :
    (now.run host turns).sent side = now.sent side := by
  induction turns generalizing now with
  | nil => rfl
  | cons turn rest ih =>
    obtain ⟨held, os, turned, -⟩ := turned_call host listening turn.1 turn.2
    obtain ⟨parted_still, sent_eq⟩ := parted_call host listening parted turn.1 turn.2
    rw [run, ih (turned.listening.trans listening) parted_still, sent_eq]

end Conversation

namespace Conversation

/-- A client is connected to a listener that has accepted it. What waits for a side at first was
written before. -/
structure Joined (ends : Side → Handle) (Holds : Side → Pipe → σ → Prop) (early : Side → ByteArray)
    (start : Conversation σ) : Prop where
  held : ∀ side, start.held side = some (ends side)
  listening : start.server.isListening = true
  fresh : ∀ side, start.sent side = ByteArray.empty ∧ start.received side = ByteArray.empty
  waits : ∀ side, Holds side { waiting := early side } start.os

/-- What holds at every moment of a conversation. -/
structure InOrder (ends : Side → Handle) (Holds : Side → Pipe → σ → Prop)
    (early : Side → ByteArray) (now : Conversation σ) : Prop where
  listening : now.server.isListening = true
  ends : ∀ side, now.held side ≠ none → now.held side = some (ends side)
  flows : ∀ side, Flows (Holds side) (early side ++ now.sent side.other) (now.received side)
    (now.held side.other) (now.held side) now.os

variable {host : Host σ} {ends : Side → Handle} {Holds : Side → Pipe → σ → Prop}
  {early : Side → ByteArray} {now : Conversation σ}

private theorem Joined.inOrder (joined : now.Joined ends Holds early) :
    now.InOrder ends Holds early where
  listening := joined.listening
  ends := fun side _ => joined.held side
  flows := by
    intro side
    refine ⟨{ waiting := early side }, ?_, fun _ => ⟨joined.waits side, fun _ => rfl⟩⟩
    rw [(joined.fresh side.other).1, (joined.fresh side).2, ByteArray.append_empty,
      ByteArray.empty_append]

namespace InOrder

private theorem of_turned (inOrder : now.InOrder ends Holds early) {side : Side}
    {held : Option Handle}
    {os : σ} {after : Conversation σ} (turned : now.Turned side held os after)
    (kept : held = now.held side ∨ held = none)
    (outgoing : Flows (Holds side.other) (early side.other ++ after.sent side)
      (after.received side.other) held (now.held side.other) os)
    (incoming : Flows (Holds side) (early side ++ after.sent side.other) (after.received side)
      (now.held side.other) held os) :
    after.InOrder ends Holds early where
  listening := turned.listening.trans inOrder.listening
  ends := by
    intro other
    by_cases same : other = side
    · subst same
      rw [turned.own]
      rcases kept with kept | lost
      · rw [kept]
        exact inOrder.ends other
      · rw [lost]
        exact fun gone => absurd rfl gone
    · obtain rfl := Side.eq_other_of_ne same
      rw [turned.other]
      exact inOrder.ends side.other
  flows := by
    intro other
    by_cases same : other = side
    · subst same
      rw [turned.own, turned.other, turned.os]
      exact incoming
    · obtain rfl := Side.eq_other_of_ne same
      rw [Side.other_other, turned.own, turned.other, turned.os]
      exact outgoing

variable (carries : ∀ side : Side, host.Carries (ends side.other) (ends side) (Holds side))
  (inOrder : now.InOrder ends Holds early)

include carries inOrder

private theorem write (side : Side) (bytes : ByteArray) :
    (now.write host side bytes).2.InOrder ends Holds early := by
  obtain ⟨turned, -⟩ := turned_write host inOrder.listening side bytes
  have outgoing := inOrder.flows side.other
  have carries_out := carries side.other
  rw [Side.other_other] at outgoing carries_out
  apply inOrder.of_turned turned (host.state_writeFully _ bytes _)
  · rw [sent_write, received_write, Function.update_self, ← ByteArray.append_assoc]
    exact outgoing.write carries_out (inOrder.ends side) bytes
  · rw [sent_write, received_write, Function.update_of_ne side.other_ne]
    exact (inOrder.flows side).write_back (carries side) (inOrder.ends side) bytes

private theorem read (side : Side) (room : Nat) :
    (now.read host side room).2.InOrder ends Holds early := by
  obtain ⟨turned, answer⟩ := turned_read host inOrder.listening side room
  have outgoing := inOrder.flows side.other
  have carries_out := carries side.other
  rw [Side.other_other] at outgoing carries_out
  apply inOrder.of_turned turned (host.state_receive _ _ room _)
  · rw [sent_read, received_read, Function.update_of_ne side.other_ne]
    exact outgoing.read_back carries_out (inOrder.ends side) side.manner room
  · rw [sent_read, received_read, Function.update_self, returned, answer]
    exact ((inOrder.flows side).read (carries side) (inOrder.ends side) side.manner room).1

private theorem close (side : Side) : (now.close host side).InOrder ends Holds early := by
  have outgoing := inOrder.flows side.other
  have carries_out := carries side.other
  rw [Side.other_other] at outgoing carries_out
  apply inOrder.of_turned (turned_close host side) (Or.inr rfl)
  · rw [sent_close, received_close]
    exact outgoing.finish carries_out (inOrder.ends side) side.manner
  · rw [sent_close, received_close]
    exact (inOrder.flows side).leave _

private theorem call (side : Side) (made : Call) :
    (now.call host side made).InOrder ends Holds early := by
  cases made with
  | write bytes => exact inOrder.write carries side bytes
  | read room => exact inOrder.read carries side room
  | close => exact inOrder.close carries side

private theorem run (turns : List (Side × Call)) :
    (now.run host turns).InOrder ends Holds early := by
  induction turns generalizing now with
  | nil => exact inOrder
  | cons turn rest ih => exact ih (inOrder.call carries turn.1 turn.2)

end InOrder

/-- What the bytes of a conversation are like at a moment, for one of the sides. -/
structure Faithful (host : Host σ) (early : ByteArray) (side : Side) (now : Conversation σ) :
    Prop where
  /-- What a side has received is the front of what the other side has sent. -/
  in_order : ∃ rest, early ++ now.sent side.other = now.received side ++ rest
  /-- A write sends all its bytes, or it fails, sends a proper front part of them, and is the last
  one that sends anything. -/
  writes : ∀ bytes,
    let wrote := now.write host side bytes
    (wrote.1 = .ok bytes.size ∧ wrote.2.sent side = now.sent side ++ bytes) ∨
      ∃ fault n, wrote.1 = .error fault ∧ wrote.2.sent side = now.sent side ++ bytes.extract 0 n ∧
        (n < bytes.size ∨ n = 0 ∧ now.held side = none) ∧
        ∀ turns, (wrote.2.run host turns).sent side = wrote.2.sent side
  /-- A side that is disconnected by a read that does not fail has received all that the other side
  has sent, and the other side never sends more. -/
  ends : ∀ room bytes,
    let got := now.read host side room
    got.1 = .ok bytes → got.2.held side = none →
      early ++ got.2.sent side.other = got.2.received side ∧
        ∀ turns, (got.2.run host turns).sent side.other = got.2.sent side.other

private theorem InOrder.writes (inOrder : now.InOrder ends Holds early) (side : Side)
    (bytes : ByteArray) :
    let wrote := now.write host side bytes
    (wrote.1 = .ok bytes.size ∧ wrote.2.sent side = now.sent side ++ bytes) ∨
      ∃ fault n, wrote.1 = .error fault ∧ wrote.2.sent side = now.sent side ++ bytes.extract 0 n ∧
        (n < bytes.size ∨ n = 0 ∧ now.held side = none) ∧
        ∀ turns, (wrote.2.run host turns).sent side = wrote.2.sent side := by
  obtain ⟨turned, answer⟩ := turned_write host inOrder.listening side bytes
  have listening := turned.listening.trans inOrder.listening
  have sent : (now.write host side bytes).2.sent side =
      now.sent side ++ now.taken host side bytes := by
    rw [sent_write, Function.update_self]
  rw [taken] at sent
  intro wrote
  have parts : wrote.2.held side = none →
      ∀ turns, (wrote.2.run host turns).sent side = wrote.2.sent side :=
    sent_run_of_parted host listening
  cases held : now.held side with
  | none =>
    rw [held] at turned answer sent
    obtain ⟨fault, failed⟩ := exists_error_of_toOption answer
    refine Or.inr ⟨fault, 0, failed, ?_, Or.inr ⟨rfl, rfl⟩, parts turned.own⟩
    rw [ByteArray.extract_same]
    exact sent
  | some h =>
    rw [held] at turned answer sent
    have same :=
      Channels.writeFully_of_follow host.transcribed_follow (some h) bytes { os := now.os }
    rw [← same] at turned answer
    rcases host.writeFully_transcribed h bytes now.os with ⟨ok, -, -, all⟩ |
      ⟨detail, n, failed, lost, -, n_lt, front⟩
    · left
      rw [all] at sent
      exact ⟨eq_ok_of_toOption (answer.trans (congrArg Except.toOption ok)), sent⟩
    · right
      rw [front] at sent
      obtain ⟨fault, raised⟩ :=
        exists_error_of_toOption (answer.trans (congrArg Except.toOption failed))
      exact ⟨fault, n, raised, sent, Or.inl n_lt, parts (turned.own.trans lost)⟩

private theorem InOrder.ends_with_all (carries : ∀ side : Side,
      host.Carries (ends side.other) (ends side) (Holds side))
    (inOrder : now.InOrder ends Holds early) (side : Side) (room : Nat) {bytes : ByteArray} :
    let got := now.read host side room
    got.1 = .ok bytes → got.2.held side = none →
      early side ++ got.2.sent side.other = got.2.received side ∧
        ∀ turns, (got.2.run host turns).sent side.other = got.2.sent side.other := by
  intro got ok lost
  obtain ⟨turned, answer⟩ := turned_read host inOrder.listening side room
  have listening := turned.listening.trans inOrder.listening
  obtain ⟨-, ended⟩ := (inOrder.flows side).read (carries side) (inOrder.ends side) side.manner room
  have given := eq_ok_of_toOption (answer.symm.trans (congrArg Except.toOption ok))
  obtain ⟨all, parted⟩ := ended bytes given (turned.own.symm.trans lost)
  refine ⟨?_, sent_run_of_parted host listening (turned.other.trans parted)⟩
  rw [sent_read, received_read, Function.update_self, all, returned, returned, answer]

/-- Over a host that carries bytes in both directions between a client and a listener that has
accepted it, both sides receive what the other one sends, in order and without loss, whatever calls
they make and whatever the host answers. A write that succeeds sends all its bytes, one that fails a
proper front part of them and is the last. A read ends the connection only after everything was
received. -/
theorem faithful_of_joined
    (carries : ∀ side : Side, host.Carries (ends side.other) (ends side) (Holds side))
    {start : Conversation σ} (joined : start.Joined ends Holds early)
    (turns : List (Side × Call)) (side : Side) :
    (start.run host turns).Faithful host (early side) side := by
  have inOrder := joined.inOrder.run carries turns
  obtain ⟨pipe, sent_eq, -⟩ := inOrder.flows side
  exact ⟨⟨pipe.waiting, sent_eq⟩, inOrder.writes side,
    fun room _ => inOrder.ends_with_all carries side room⟩

/-- A client and a listener of the machine in memory, connected through port 5000. -/
def met : Conversation World :=
  let listening := Listener.bringUp World.host { port := some 5000 } ({} : World)
  let connected := TcpClient.bringUp World.host { settings := ⟨"127.0.0.1", 5000⟩ } listening.host
  let accepted := listening.state.accept World.host connected.host
  { client := connected.state, server := accepted.state, os := accepted.host }

def metEnds : Side → Handle
  | .client => ⟨1⟩
  | .server => ⟨2⟩

/-- A client that sends three bytes and leaves; the listener reads them in two parts, and then sees
the end. -/
theorem faithful_until_end :
    let turns := [(.client, .write "abc".toUTF8), (.server, .read 2), (.client, .close),
      (.server, .read 2), (.server, .read 2)]
    let now := met.run World.host turns
    now.received .server = "abc".toUTF8 ∧ now.held .server = none ∧
      now.Faithful World.host ByteArray.empty .server := by
  intro turns now
  have carries : ∀ side : Side, World.host.Carries (metEnds side.other) (metEnds side)
      (World.Piped (metEnds side.other) (metEnds side)) := by
    intro side
    exact World.carries (by cases side <;> decide)
  have joined : met.Joined metEnds (fun side => World.Piped (metEnds side.other) (metEnds side))
      (fun _ => ByteArray.empty) :=
    { held := by
        intro side
        cases side <;> rfl
      listening := rfl
      fresh := fun _ => ⟨rfl, rfl⟩
      waits := by
        intro side
        cases side <;> exact ⟨_, rfl, rfl, rfl, fun _ => ⟨rfl, _, rfl, rfl, rfl⟩⟩ }
  have faithful := faithful_of_joined carries joined turns .server
  -- the host takes all three bytes at once
  have loop : (World.host.stream ⟨1⟩).writeAll "abc".toUTF8 0 met.os =
      (.ok 3, (World.write ⟨1⟩ "abc".toUTF8 met.os).2) := by
    have taken : ((World.host.stream ⟨1⟩).write "abc".toUTF8 met.os).1 = .ok 3 := rfl
    rw [ByteStream.writeAll_of_taken _ _ (by decide) taken, ByteStream.writeAll_of_empty _ _ rfl]
    rfl
  have wrote : met.client.write World.host "abc".toUTF8 met.os =
      ⟨.ok 3, met.client, (World.write ⟨1⟩ "abc".toUTF8 met.os).2⟩ := by
    change (World.host.writeFully (some ⟨1⟩) "abc".toUTF8 met.os).inState _ = _
    rw [World.host.writeFully_of_ok ⟨1⟩ _ met.os loop]
    rfl
  have now_eq : now = run World.host
      { met with
        os := (World.write ⟨1⟩ "abc".toUTF8 met.os).2
        sent := (met.write World.host .client "abc".toUTF8).2.sent } (turns.drop 1) := by
    change run World.host (met.write World.host .client "abc".toUTF8).2 _ = _
    simp only [write, wrote]
    rfl
  refine ⟨?_, ?_, faithful⟩
  · rw [now_eq]
    decide +kernel
  · rw [now_eq]
    decide +kernel

end Conversation

end InstrumentLink
