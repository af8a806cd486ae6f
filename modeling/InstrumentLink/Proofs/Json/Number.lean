import Mathlib.Data.List.TakeWhile
import InstrumentLink.Json.Token

namespace InstrumentLink.Json

private theorem toDigits_head_ne_zero {n : Nat} (positive : 0 < n) :
    ∃ digit rest, Nat.toDigits 10 n = digit :: rest ∧ digit ≠ '0' := by
  induction n using Nat.strongRecOn with
  | _ n ih =>
    by_cases small : n < 10
    · refine ⟨n.digitChar, [], Nat.toDigits_of_lt_base small, ?_⟩
      intro zero
      have : n = 0 := Nat.digitChar_eq_zero.mp zero
      omega
    · obtain ⟨digit, rest, front, apart⟩ := ih (n / 10) (by omega) (by omega)
      refine ⟨digit, rest ++ [(n % 10).digitChar], ?_, apart⟩
      rw [Nat.toDigits_of_base_le (by omega) (by omega), front, List.cons_append]

theorem isNatural_toDigits (n : Nat) : isNatural (Nat.toDigits 10 n) = true := by
  by_cases zero : n = 0
  · subst zero
    rfl
  · obtain ⟨digit, rest, digits, apart⟩ := toDigits_head_ne_zero (Nat.pos_of_ne_zero zero)
    have all_digits : ∀ c ∈ digit :: rest, c.isDigit = true := by
      intro c mem
      rw [← digits] at mem
      exact Nat.isDigit_of_mem_toDigits (by omega) (by omega) mem
    rw [digits, isNatural]
    · simp only [Bool.and_eq_true, bne_iff_ne, List.all_eq_true]
      exact ⟨apart, all_digits⟩
    · intro zero
      exact absurd zero apart

theorem natural?_toString (n : Nat) : natural? (toString n) = some n := by
  rw [natural?, Nat.toString_eq_ofList_toDigits, String.toList_ofList, isNatural_toDigits,
    if_pos rfl, Nat.ofDigitChars_ten_toDigits]

theorem isNumber_of_isNatural {cs : List Char} (natural : isNatural cs = true) :
    isNumber cs = true := by
  unfold isNatural at natural
  split at natural
  · cases natural
  · rfl
  · next c rest _ =>
    simp only [Bool.and_eq_true, bne_iff_ne, List.all_eq_true, List.forall_mem_cons] at natural
    obtain ⟨apart, digit, digits⟩ := natural
    have no_minus : c ≠ '-' := by
      rintro rfl
      cases digit
    have integer : afterInteger (c :: rest) = some [] := by
      rw [afterInteger]
      · rw [afterDigits, if_pos digit, List.dropWhile_eq_nil_iff.mpr digits]
      · intro tail same
        exact apart (List.cons.inj same).1
    rw [isNumber, afterMinus]
    · rw [integer]
      rfl
    · intro tail same
      exact no_minus (List.cons.inj same).1

end InstrumentLink.Json
