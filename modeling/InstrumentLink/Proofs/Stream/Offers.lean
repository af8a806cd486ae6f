import InstrumentLink.Stream

namespace InstrumentLink.ByteStream

variable {σ : Type} {stream : ByteStream σ}

/-- A write of all bytes comes to an offer: the bytes that are left then, and the state. -/
inductive Offers (stream : ByteStream σ) : ByteArray → σ → ByteArray → σ → Prop
  | first {rest : ByteArray} {os : σ} (some_left : rest.size ≠ 0) : Offers stream rest os rest os
  | after_taken {rest left : ByteArray} {os between : σ} {n : Nat} (some_left : rest.size ≠ 0)
      (taken : (stream.write rest os).1 = .ok (n + 1))
      (later :
        Offers stream (rest.extract (n + 1) rest.size) (stream.write rest os).2 left between) :
      Offers stream rest os left between
  | after_interrupted {rest left : ByteArray} {os between : σ} {e : IoError}
      (some_left : rest.size ≠ 0) (failed : (stream.write rest os).1 = .error e)
      (again : e.condition = .interrupted)
      (later : Offers stream rest (stream.write rest os).2 left between) :
      Offers stream rest os left between

/-- An answer to an offer that ends the write, as the error that it ends with. -/
inductive Stops : Except IoError Nat → IoError → Prop
  | failed {e : IoError} (final : e.condition ≠ .interrupted) : Stops (.error e) e
  | refused : Stops (.ok 0) .nothingAccepted

theorem exists_stop_of_writeAll {rest : ByteArray} {sent : Nat} {os : σ} {e : IoError}
    (failed : (stream.writeAll rest sent os).1 = .error e) :
    ∃ left between, stream.Offers rest os left between ∧
      Stops (stream.write left between).1 e := by
  -- the loop fails in the first offer, or later on with what it has left then
  induction rest, sent, os using writeAll.induct stream with
  | case1 rest sent os empty =>
    rw [writeAll_of_empty _ sent empty] at failed
    cases failed
  | case2 rest sent os some_left refused =>
    rw [writeAll_of_refused _ sent some_left refused] at failed
    cases failed
    refine ⟨rest, os, .first some_left, ?_⟩
    rw [refused]
    exact .refused
  | case3 rest sent os some_left n taken ih =>
    rw [writeAll_of_taken _ sent some_left taken] at failed
    obtain ⟨left, between, offers, stops⟩ := ih failed
    exact ⟨left, between, .after_taken some_left taken offers, stops⟩
  | case4 rest sent os some_left e' interrupted again ih =>
    rw [writeAll_of_interrupted _ sent some_left interrupted again] at failed
    obtain ⟨left, between, offers, stops⟩ := ih failed
    exact ⟨left, between, .after_interrupted some_left interrupted again offers, stops⟩
  | case5 rest sent os some_left e' broke final =>
    rw [writeAll_of_failed _ sent some_left broke final] at failed
    cases failed
    refine ⟨rest, os, .first some_left, ?_⟩
    rw [broke]
    exact .failed final

theorem writeAll_of_stop {rest left : ByteArray} {os between : σ} {e : IoError}
    (offers : stream.Offers rest os left between) (stops : Stops (stream.write left between).1 e)
    (sent : Nat) : (stream.writeAll rest sent os).1 = .error e := by
  induction offers generalizing sent with
  | @first rest os some_left =>
    generalize answered : (stream.write rest os).1 = answer at stops
    cases stops with
    | failed final => rw [writeAll_of_failed _ sent some_left answered final]
    | refused => rw [writeAll_of_refused _ sent some_left answered]
  | after_taken some_left taken later ih =>
    rw [writeAll_of_taken _ sent some_left taken]
    exact ih stops _
  | after_interrupted some_left failed again later ih =>
    rw [writeAll_of_interrupted _ sent some_left failed again]
    exact ih stops sent

end InstrumentLink.ByteStream
