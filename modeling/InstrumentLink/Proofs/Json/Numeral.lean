import Mathlib.Data.Nat.Digits.Defs
import InstrumentLink.Proofs.Json.Number

namespace InstrumentLink.Json

/-- One or more decimal digits. -/
structure Digits where
  first : Fin 10
  rest : List (Fin 10)

namespace Digits

def toList (digits : Digits) : List (Fin 10) := digits.first :: digits.rest

def chars (digits : Digits) : List Char := digits.toList.map fun digit => digit.val.digitChar

/-- The number that the digits write, the most significant one first. -/
def value (digits : Digits) : Nat := Nat.ofDigits 10 (digits.toList.reverse.map Fin.val)

end Digits

/-- The sign that an exponent may have. -/
inductive ExponentSign
  | none
  | plus
  | minus

def ExponentSign.chars : ExponentSign → List Char
  | none => []
  | plus => ['+']
  | minus => ['-']

structure Exponent where
  /-- Whether the mark is the capital letter. -/
  isCapital : Bool
  sign : ExponentSign
  digits : Digits

def Exponent.chars (exponent : Exponent) : List Char :=
  (if exponent.isCapital then 'E' else 'e') :: (exponent.sign.chars ++ exponent.digits.chars)

/-- A number literal in its parts. -/
structure Numeral where
  isNegative : Bool
  integer : Digits
  fraction : Option Digits
  exponent : Option Exponent
  no_leading_zero : integer.first = 0 → integer.rest = []

namespace Numeral

def minusChars : Bool → List Char
  | true => ['-']
  | false => []

def fractionChars : Option Digits → List Char
  | some digits => '.' :: digits.chars
  | none => []

def exponentChars : Option Exponent → List Char
  | some exponent => exponent.chars
  | none => []

def chars (numeral : Numeral) : List Char :=
  minusChars numeral.isNegative ++ (numeral.integer.chars ++
    (fractionChars numeral.fraction ++ exponentChars numeral.exponent))

/-- Neither a sign nor a fraction nor an exponent. -/
def IsPlain (numeral : Numeral) : Prop :=
  numeral.isNegative = false ∧ numeral.fraction = none ∧ numeral.exponent = none

end Numeral

/-! ### Runs of digits -/

private theorem exists_digit_of_isDigit {c : Char} (digit : c.isDigit = true) :
    ∃ d : Fin 10, d.val.digitChar = c := by
  obtain ⟨low, high⟩ := Char.isDigit_iff_toNat.mp digit
  have zero : '0'.toNat = 48 := rfl
  have nine : '9'.toNat = 57 := rfl
  refine ⟨⟨c.toNat - 48, by omega⟩, Char.toNat_inj.mp ?_⟩
  dsimp only
  rw [Nat.toNat_digitChar_of_lt_ten (by omega)]
  omega

private theorem exists_digits_of_isDigit {cs : List Char} (digits : ∀ c ∈ cs, c.isDigit = true) :
    ∃ ds : List (Fin 10), ds.map (fun d => d.val.digitChar) = cs := by
  induction cs with
  | nil => exact ⟨[], rfl⟩
  | cons c rest ih =>
    obtain ⟨first, others⟩ := List.forall_mem_cons.mp digits
    obtain ⟨d, rfl⟩ := exists_digit_of_isDigit first
    obtain ⟨ds, rfl⟩ := ih others
    exact ⟨d :: ds, rfl⟩

private theorem isDigit_digit (d : Fin 10) : d.val.digitChar.isDigit = true := by
  rw [Nat.isDigit_digitChar, decide_eq_true d.isLt]

/-- A text does not go on with a digit. -/
private def EndsDigits (cs : List Char) : Prop := ∀ c rest, cs = c :: rest → c.isDigit = false

private theorem endsDigits_nil : EndsDigits [] := nofun

private theorem endsDigits_cons {c : Char} (other : c.isDigit = false) (rest : List Char) :
    EndsDigits (c :: rest) := by
  rintro _ _ ⟨⟩
  exact other

private theorem Digits.isDigit_of_chars (digits : Digits) {c : Char} {rest : List Char}
    (same : digits.chars = c :: rest) : c.isDigit = true := by
  obtain rfl : digits.first.val.digitChar = c := (List.cons.inj same).1
  exact isDigit_digit digits.first

private theorem afterDigits_chars (digits : Digits) {rest : List Char} (ends : EndsDigits rest) :
    afterDigits (digits.chars ++ rest) = some rest := by
  have all_digits : ∀ c ∈ digits.rest.map (fun d => d.val.digitChar), c.isDigit = true := by
    rw [List.forall_mem_map]
    exact fun d _ => isDigit_digit d
  have stops : rest.dropWhile Char.isDigit = rest := by
    cases rest with
    | nil => rfl
    | cons c cs =>
      rw [List.dropWhile_cons_of_neg]
      exact Bool.eq_false_iff.mp (ends c cs rfl)
  change afterDigits (digits.first.val.digitChar ::
    (digits.rest.map (fun d => d.val.digitChar) ++ rest)) = some rest
  rw [afterDigits, if_pos (isDigit_digit digits.first), List.dropWhile_append_of_pos all_digits,
    stops]

private theorem exists_digits_of_afterDigits {cs rest : List Char}
    (read : afterDigits cs = some rest) :
    ∃ digits : Digits, cs = digits.chars ++ rest := by
  cases cs with
  | nil => cases read
  | cons c cs =>
    rw [afterDigits] at read
    split at read
    · next first =>
      obtain rfl := Option.some.inj read
      obtain ⟨d, rfl⟩ := exists_digit_of_isDigit first
      obtain ⟨ds, taken⟩ := exists_digits_of_isDigit fun c mem =>
        List.mem_takeWhile_imp (p := Char.isDigit) (l := cs) mem
      refine ⟨⟨d, ds⟩, ?_⟩
      rw [Digits.chars, Digits.toList, List.map_cons, taken, List.cons_append,
        List.takeWhile_append_dropWhile]
    · cases read

/-! ### The parts of a literal -/

namespace Numeral

private theorem afterMinus_chars (numeral : Numeral) (rest : List Char) :
    afterMinus (minusChars numeral.isNegative ++ (numeral.integer.chars ++ rest)) =
      numeral.integer.chars ++ rest := by
  cases numeral.isNegative with
  | true => rfl
  | false =>
    change afterMinus (numeral.integer.first.val.digitChar :: _) = _
    rw [afterMinus]
    · rfl
    · intro tail same
      have digit := isDigit_digit numeral.integer.first
      rw [(List.cons.inj same).1] at digit
      cases digit

private theorem afterInteger_chars (numeral : Numeral) {rest : List Char} (ends : EndsDigits rest) :
    afterInteger (numeral.integer.chars ++ rest) = some rest := by
  by_cases zero : numeral.integer.first = 0
  · have alone := numeral.no_leading_zero zero
    rw [Digits.chars, Digits.toList, zero, alone]
    rfl
  · rw [afterInteger]
    · exact afterDigits_chars _ ends
    · intro tail same
      have first : numeral.integer.first.val.digitChar = '0' := (List.cons.inj same).1
      exact zero (Fin.ext (Nat.digitChar_eq_zero.mp first))

private theorem endsDigits_exponentChars (exponent : Option Exponent) :
    EndsDigits (exponentChars exponent) := by
  cases exponent with
  | none => exact endsDigits_nil
  | some exponent =>
    apply endsDigits_cons
    cases exponent.isCapital <;> rfl

private theorem endsDigits_fractionChars (fraction : Option Digits) {rest : List Char}
    (ends : EndsDigits rest) : EndsDigits (fractionChars fraction ++ rest) := by
  cases fraction with
  | none => exact ends
  | some digits => exact endsDigits_cons rfl _

private theorem afterFraction_chars (fraction : Option Digits) (exponent : Option Exponent) :
    afterFraction (fractionChars fraction ++ exponentChars exponent) =
      some (exponentChars exponent) := by
  cases fraction with
  | some digits => exact afterDigits_chars digits (endsDigits_exponentChars exponent)
  | none =>
    change afterFraction (exponentChars exponent) = _
    cases exponent with
    | none => rfl
    | some exponent =>
      obtain ⟨isCapital, sign, digits⟩ := exponent
      cases isCapital <;> rfl

private theorem afterExponent_mark {mark : Char} (is_mark : mark = 'e' ∨ mark = 'E')
    (sign : ExponentSign)
    (digits : Digits) : afterExponent (mark :: (sign.chars ++ digits.chars)) = some [] := by
  have read := afterDigits_chars digits endsDigits_nil
  rw [List.append_nil] at read
  cases sign with
  | plus =>
    change afterExponent (mark :: '+' :: digits.chars) = some []
    rw [afterExponent, if_pos is_mark, read]
  | minus =>
    change afterExponent (mark :: '-' :: digits.chars) = some []
    rw [afterExponent, if_pos is_mark, read]
  | none =>
    -- a digit is no sign, so the digits are read from the first one on
    have no_sign {c : Char} (other : c.isDigit = false) (rest : List Char) :
        digits.chars ≠ c :: rest := by
      intro same
      rw [digits.isDigit_of_chars same] at other
      cases other
    change afterExponent (mark :: digits.chars) = some []
    rw [afterExponent, if_pos is_mark, read]
    · exact no_sign rfl
    · exact no_sign rfl

private theorem afterExponent_chars (exponent : Option Exponent) :
    afterExponent (exponentChars exponent) = some [] := by
  cases exponent with
  | none => rfl
  | some exponent =>
    rw [exponentChars, Exponent.chars]
    cases exponent.isCapital
    · exact afterExponent_mark (Or.inl rfl) exponent.sign exponent.digits
    · exact afterExponent_mark (Or.inr rfl) exponent.sign exponent.digits

theorem isNumber_chars (numeral : Numeral) : isNumber numeral.chars = true := by
  have ends := endsDigits_exponentChars numeral.exponent
  rw [isNumber, chars, numeral.afterMinus_chars,
    numeral.afterInteger_chars (endsDigits_fractionChars numeral.fraction ends), Option.bind_some,
    afterFraction_chars, Option.bind_some, afterExponent_chars]
  rfl

private theorem exists_minus_of_afterMinus (cs : List Char) :
    ∃ isNegative, cs = minusChars isNegative ++ afterMinus cs := by
  unfold afterMinus
  split
  · exact ⟨true, rfl⟩
  · exact ⟨false, rfl⟩

private theorem exists_integer_of_afterInteger {cs rest : List Char}
    (read : afterInteger cs = some rest) :
    ∃ digits : Digits, (digits.first = 0 → digits.rest = []) ∧ cs = digits.chars ++ rest := by
  unfold afterInteger at read
  split at read
  · obtain rfl := Option.some.inj read
    exact ⟨⟨0, []⟩, fun _ => rfl, rfl⟩
  · next no_zero =>
    obtain ⟨digits, rfl⟩ := exists_digits_of_afterDigits read
    refine ⟨digits, fun zero => ?_, rfl⟩
    refine absurd ?_ (no_zero (digits.rest.map (fun d => d.val.digitChar) ++ rest))
    rw [Digits.chars, Digits.toList, zero]
    rfl

private theorem exists_fraction_of_afterFraction {cs rest : List Char}
    (read : afterFraction cs = some rest) : ∃ fraction, cs = fractionChars fraction ++ rest := by
  unfold afterFraction at read
  split at read
  · obtain ⟨digits, rfl⟩ := exists_digits_of_afterDigits read
    exact ⟨some digits, rfl⟩
  · obtain rfl := Option.some.inj read
    exact ⟨none, rfl⟩

private theorem exists_exponent_of_afterExponent {cs : List Char}
    (read : afterExponent cs = some []) :
    ∃ exponent, cs = exponentChars exponent := by
  unfold afterExponent at read
  split at read
  · next c rest =>
    split at read
    · next mark =>
      obtain ⟨isCapital, rfl⟩ : ∃ isCapital : Bool, c = if isCapital then 'E' else 'e' := by
        rcases mark with rfl | rfl
        · exact ⟨false, rfl⟩
        · exact ⟨true, rfl⟩
      split at read
      · obtain ⟨digits, rfl⟩ := exists_digits_of_afterDigits read
        exact ⟨some ⟨isCapital, .plus, digits⟩, by rw [List.append_nil]; rfl⟩
      · obtain ⟨digits, rfl⟩ := exists_digits_of_afterDigits read
        exact ⟨some ⟨isCapital, .minus, digits⟩, by rw [List.append_nil]; rfl⟩
      · obtain ⟨digits, rfl⟩ := exists_digits_of_afterDigits read
        exact ⟨some ⟨isCapital, .none, digits⟩, by rw [List.append_nil]; rfl⟩
    · cases read
  · exact ⟨none, rfl⟩

/-- The reader of literals accepts the texts that the grammar has. -/
theorem isNumber_iff (cs : List Char) :
    isNumber cs = true ↔ ∃ numeral : Numeral, numeral.chars = cs := by
  constructor
  · intro number
    rw [isNumber, beq_iff_eq] at number
    obtain ⟨after_fraction, read, read_exponent⟩ := Option.bind_eq_some_iff.mp number
    obtain ⟨after_integer, read_integer, read_fraction⟩ := Option.bind_eq_some_iff.mp read
    obtain ⟨isNegative, minus⟩ := exists_minus_of_afterMinus cs
    obtain ⟨integer, no_leading_zero, integer_eq⟩ := exists_integer_of_afterInteger read_integer
    obtain ⟨fraction, fraction_eq⟩ := exists_fraction_of_afterFraction read_fraction
    obtain ⟨exponent, exponent_eq⟩ := exists_exponent_of_afterExponent read_exponent
    refine ⟨⟨isNegative, integer, fraction, exponent, no_leading_zero⟩, ?_⟩
    rw [minus, integer_eq, fraction_eq, exponent_eq]
    rfl
  · rintro ⟨numeral, rfl⟩
    exact numeral.isNumber_chars

/-! ### Word characters -/

private theorem isWord_digits (digits : Digits) {c : Char} (mem : c ∈ digits.chars) :
    Token.isWord c = true := by
  obtain ⟨d, -, rfl⟩ := List.mem_map.mp mem
  simp [Token.isWord, Char.isAlphanum]

private theorem isWord_exponent (exponent : Exponent) {c : Char} (mem : c ∈ exponent.chars) :
    Token.isWord c = true := by
  obtain ⟨isCapital, sign, digits⟩ := exponent
  rcases List.mem_cons.mp mem with rfl | mem
  · cases isCapital <;> rfl
  · rcases List.mem_append.mp mem with mem | mem
    · cases sign with
      | none => cases mem
      | plus | minus =>
        obtain rfl := List.mem_singleton.mp mem
        rfl
    · exact isWord_digits digits mem

theorem isWord_of_mem_chars (numeral : Numeral) {c : Char} (mem : c ∈ numeral.chars) :
    Token.isWord c = true := by
  rw [chars, List.mem_append, List.mem_append, List.mem_append] at mem
  obtain ⟨isNegative, integer, fraction, exponent, no_leading_zero⟩ := numeral
  rcases mem with minus | digit | fractional | exponential
  · cases isNegative with
    | false => cases minus
    | true =>
      obtain rfl := List.mem_singleton.mp minus
      rfl
  · exact isWord_digits integer digit
  · cases fraction with
    | none => cases fractional
    | some digits =>
      rcases List.mem_cons.mp fractional with rfl | digit
      · rfl
      · exact isWord_digits digits digit
  · cases exponent with
    | none => cases exponential
    | some exponent => exact isWord_exponent exponent exponential

end Numeral

/-! ### Natural numbers -/

private theorem ofDigitChars_map (ds : List (Fin 10)) (start : Nat) :
    Nat.ofDigitChars 10 (ds.map fun d => d.val.digitChar) start =
      Nat.ofDigits 10 (ds.reverse.map Fin.val) + 10 ^ ds.length * start := by
  induction ds generalizing start with
  | nil => simp
  | cons d rest ih =>
    rw [List.map_cons, Nat.ofDigitChars_cons_digitChar_of_lt_ten d.isLt, ih, List.reverse_cons,
      List.map_append, Nat.ofDigits_append, List.length_map, List.length_reverse, List.length_cons,
      List.map_singleton, Nat.ofDigits_singleton]
    ring

private theorem Digits.ofDigitChars_chars (digits : Digits) :
    Nat.ofDigitChars 10 digits.chars 0 = digits.value := by
  rw [chars, ofDigitChars_map, Nat.mul_zero, Nat.add_zero]
  rfl

private theorem isDigit_of_isNatural {cs : List Char} (natural : isNatural cs = true) :
    ∀ c ∈ cs, c.isDigit = true := by
  unfold isNatural at natural
  split at natural
  · cases natural
  · exact List.forall_mem_singleton.mpr rfl
  · exact List.all_eq_true.mp (Bool.and_eq_true_iff.mp natural).2

namespace Numeral

private theorem isNatural_integer (numeral : Numeral) : isNatural numeral.integer.chars = true := by
  by_cases zero : numeral.integer.first = 0
  · rw [Digits.chars, Digits.toList, zero, numeral.no_leading_zero zero]
    rfl
  · have apart : numeral.integer.first.val.digitChar ≠ '0' := fun same =>
      zero (Fin.ext (Nat.digitChar_eq_zero.mp same))
    rw [Digits.chars, Digits.toList, List.map_cons, isNatural]
    · simp [apart]
    · intro same
      exact absurd same apart

private theorem chars_of_isPlain {numeral : Numeral} (plain : numeral.IsPlain) :
    numeral.chars = numeral.integer.chars := by
  obtain ⟨minus, fraction, exponent⟩ := plain
  simp [chars, minus, fraction, exponent, minusChars, fractionChars, exponentChars]

theorem isNatural_chars_iff (numeral : Numeral) :
    isNatural numeral.chars = true ↔ numeral.IsPlain := by
  constructor
  · intro natural
    have digits := isDigit_of_isNatural natural
    simp only [chars, List.mem_append] at digits
    refine ⟨?_, ?_, ?_⟩
    · cases minus : numeral.isNegative with
      | false => rfl
      | true =>
        have := digits '-' (Or.inl (by rw [minus]; exact List.mem_cons_self))
        cases this
    · cases fraction : numeral.fraction with
      | none => rfl
      | some more =>
        have := digits '.' (Or.inr (Or.inr (Or.inl (by rw [fraction]; exact List.mem_cons_self))))
        cases this
    · cases exponent : numeral.exponent with
      | none => rfl
      | some more =>
        have := digits (if more.isCapital then 'E' else 'e')
          (Or.inr (Or.inr (Or.inr (by rw [exponent]; exact List.mem_cons_self))))
        cases capital : more.isCapital <;> rw [capital] at this <;> cases this
  · intro plain
    rw [chars_of_isPlain plain]
    exact numeral.isNatural_integer

private theorem natural?_chars_iff (numeral : Numeral) (n : Nat) :
    natural? (String.ofList numeral.chars) = some n ↔
      numeral.IsPlain ∧ n = numeral.integer.value := by
  rw [natural?, String.toList_ofList, Option.ite_none_right_eq_some, isNatural_chars_iff]
  constructor
  · rintro ⟨plain, read⟩
    rw [chars_of_isPlain plain, Digits.ofDigitChars_chars] at read
    exact ⟨plain, (Option.some.inj read).symm⟩
  · rintro ⟨plain, rfl⟩
    rw [chars_of_isPlain plain, Digits.ofDigitChars_chars]
    exact ⟨plain, rfl⟩

end Numeral

private theorem toDigits_ofDigits (lower : List (Fin 10)) {top : Fin 10} (apart : top ≠ 0) :
    0 < Nat.ofDigits 10 ((lower ++ [top]).map Fin.val) ∧
      Nat.toDigits 10 (Nat.ofDigits 10 ((lower ++ [top]).map Fin.val)) =
        ((lower ++ [top]).map fun d => d.val.digitChar).reverse := by
  have positive : 0 < top.val := Nat.pos_of_ne_zero fun zero => apart (Fin.ext zero)
  induction lower with
  | nil =>
    rw [List.nil_append, List.map_singleton, Nat.ofDigits_singleton]
    exact ⟨positive, Nat.toDigits_of_lt_base top.isLt⟩
  | cons d lower ih =>
    obtain ⟨others_positive, others⟩ := ih
    have below := d.isLt
    rw [List.cons_append, List.map_cons, Nat.ofDigits_cons]
    generalize Nat.ofDigits 10 ((lower ++ [top]).map Fin.val) = number at others_positive others
    have quotient : (d.val + 10 * number) / 10 = number := by omega
    have remainder : (d.val + 10 * number) % 10 = d.val := by omega
    refine ⟨by omega, ?_⟩
    rw [Nat.toDigits_of_base_le (by omega) (by omega), quotient, remainder, others, List.map_cons,
      List.reverse_cons]

private theorem Numeral.toDigits_value (numeral : Numeral) :
    Nat.toDigits 10 numeral.integer.value = numeral.integer.chars := by
  by_cases zero : numeral.integer.first = 0
  · rw [Digits.value, Digits.chars, Digits.toList, zero, numeral.no_leading_zero zero]
    rfl
  · rw [Digits.value, Digits.chars, Digits.toList, List.reverse_cons,
      (toDigits_ofDigits numeral.integer.rest.reverse zero).2, ← List.map_reverse,
      List.reverse_append, List.reverse_reverse]
    rfl

/-- A natural number has one plain form. -/
theorem natural?_eq_some_iff (literal : String) (n : Nat) :
    natural? literal = some n ↔ literal = toString n := by
  constructor
  · intro read
    obtain ⟨natural, -⟩ := Option.ite_none_right_eq_some.mp read
    obtain ⟨numeral, chars⟩ := (Numeral.isNumber_iff _).mp (isNumber_of_isNatural natural)
    obtain rfl : String.ofList numeral.chars = literal := by rw [chars, String.ofList_toList]
    obtain ⟨plain, rfl⟩ := (numeral.natural?_chars_iff n).mp read
    rw [Nat.toString_eq_ofList_toDigits, numeral.toDigits_value, Numeral.chars_of_isPlain plain]
  · rintro rfl
    exact natural?_toString n

theorem Numeral.chars_eq_toString_iff (numeral : Numeral) (n : Nat) :
    String.ofList numeral.chars = toString n ↔ numeral.IsPlain ∧ n = numeral.integer.value := by
  rw [← natural?_eq_some_iff, numeral.natural?_chars_iff]

end InstrumentLink.Json
