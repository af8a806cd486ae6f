namespace InstrumentLink

/-- Appends bytes of the pattern, from a position on and around its end, `count` in all. -/
def appendPattern (pattern : ByteArray) : Nat → Nat → ByteArray → ByteArray
  | 0, _, done => done
  | count + 1, position, done =>
      let position := if position < pattern.size then position else 0
      match pattern[position]? with
      | some b => appendPattern pattern count (position + 1) (done.push b)
      | none => done

/-- The pattern repeated to exactly `count` bytes; the empty pattern gives none. -/
def repeatPattern (pattern : ByteArray) (count : Nat) : ByteArray :=
  appendPattern pattern count 0 (ByteArray.emptyWithCapacity count)

end InstrumentLink
