import InstrumentLink.Proofs.Json.Parsing

namespace InstrumentLink

namespace Hex

private theorem value?_digit {n : Nat} (below : n < 16) : value? (digit n) = some n := by
  revert n
  decide

end Hex

namespace Json

/-! ### Strings -/

private theorem hexNumber?_fixed {n : Nat} (below : n < 65536) :
    hexNumber? (Hex.fixed 4 n) = some n := by
  -- without powers, which mean something else where more of the library is in sight
  have digits : Hex.fixed 4 n = [Hex.digit (n / 4096 % 16), Hex.digit (n / 256 % 16),
      Hex.digit (n / 16 % 16), Hex.digit (n / 1 % 16)] := rfl
  have value (m : Nat) : Hex.value? (Hex.digit (m % 16)) = some (m % 16) :=
    Hex.value?_digit (Nat.mod_lt m (by omega))
  have number : (((0 * 16 + n / 4096 % 16) * 16 + n / 256 % 16) * 16 + n / 16 % 16) * 16 +
      n / 1 % 16 = n := by omega
  simp only [digits, hexNumber?, List.foldlM_cons, List.foldlM_nil, value, Option.map_some,
    Option.bind_eq_bind, Option.bind_some, number]
  rfl

private theorem exists_piece_escape (c : Char) :
    ∃ piece : Piece, piece.chars = escape c ∧
      ∀ rest, unescape (piece :: rest) = (unescape rest).map (c :: ·) := by
  unfold escape
  split
  · next quote => exact ⟨.escape '"' '"' rfl, rfl, fun _ => by rw [quote]; rfl⟩
  split
  · next backslash => exact ⟨.escape '\\' '\\' rfl, rfl, fun _ => by rw [backslash]; rfl⟩
  split
  · next backspace => exact ⟨.escape 'b' '\x08' rfl, rfl, fun _ => by rw [backspace]; rfl⟩
  split
  · next feed => exact ⟨.escape 'f' '\x0c' rfl, rfl, fun _ => by rw [feed]; rfl⟩
  split
  · next newline => exact ⟨.escape 'n' '\n' rfl, rfl, fun _ => by rw [newline]; rfl⟩
  split
  · next carriage => exact ⟨.escape 'r' '\r' rfl, rfl, fun _ => by rw [carriage]; rfl⟩
  split
  · next tab => exact ⟨.escape 't' '\t' rfl, rfl, fun _ => by rw [tab]; rfl⟩
  split
  · next control =>
    have writes : hexNumber? (Hex.fixed 4 c.toNat) = some c.toNat := hexNumber?_fixed (by omega)
    have not_high : Contents.isHigh c.toNat = false := by
      rw [Contents.isHigh, Bool.and_eq_false_iff]
      exact Or.inl (decide_eq_false (by omega))
    have not_low : Contents.isLow c.toNat = false := by
      rw [Contents.isLow, Bool.and_eq_false_iff]
      exact Or.inl (decide_eq_false (by omega))
    refine ⟨.code _ _ rfl writes, rfl, fun rest => ?_⟩
    rw [unescape_code (Hex.fixed 4 c.toNat) rfl writes not_high not_low, Char.ofNat_toNat]
  · next quote backslash _ _ _ _ _ plain =>
    exact ⟨.plain c ⟨quote, backslash, by omega⟩, rfl, fun _ => rfl⟩

private theorem exists_pieces_escape (cs : List Char) :
    ∃ pieces : List Piece, pieces.flatMap Piece.chars = cs.flatMap escape ∧
      unescape pieces = some cs := by
  induction cs with
  | nil => exact ⟨[], rfl, rfl⟩
  | cons c rest ih =>
    obtain ⟨piece, chars, means⟩ := exists_piece_escape c
    obtain ⟨pieces, rest_chars, rest_means⟩ := ih
    refine ⟨piece :: pieces, ?_, ?_⟩
    · rw [List.flatMap_cons, List.flatMap_cons, chars, rest_chars]
    · rw [means, rest_means, Option.map_some]

theorem spells_quote (text : Text) : (Token.string text).Spells (quote text) := by
  cases text with
  | none =>
    have writes : hexNumber? (Hex.fixed 4 0xD800) = some 0xD800 := hexNumber?_fixed (by omega)
    exact .string [.code _ _ rfl writes]
  | some text =>
    obtain ⟨pieces, chars, means⟩ := exists_pieces_escape text.toList
    have spells := Token.Spells.string pieces
    rw [chars, means, Option.map_some, String.ofList_toList] at spells
    exact spells

/-! ### Values -/

/-- The numbers among some tokens are number literals. -/
def AreLiterals (tokens : List Token) : Prop :=
  ∀ literal, .number literal ∈ tokens → isNumber literal.toList = true

theorem areLiterals_append {front back : List Token} :
    AreLiterals (front ++ back) ↔ AreLiterals front ∧ AreLiterals back := by
  simp only [AreLiterals, List.mem_append, or_imp, forall_and]

private theorem areLiterals_cons {token : Token} {rest : List Token} :
    AreLiterals (token :: rest) → AreLiterals rest :=
  fun valid literal mem => valid literal (List.mem_cons_of_mem token mem)

private theorem spells_chars (token : Token) (literals : AreLiterals [token]) :
    token.Spells token.chars := by
  cases token with
  | objectStart | objectEnd | arrayStart | arrayEnd | colon | comma => exact .mark rfl
  | null => exact .null
  | bool b =>
    cases b with
    | true => exact .true
    | false => exact .false
  | number literal =>
    have number := literals literal List.mem_cons_self
    obtain ⟨numeral, chars⟩ := (Numeral.isNumber_iff literal.toList).mp number
    have spells := Token.Spells.number numeral
    rw [chars, String.ofList_toList] at spells
    exact spells
  | string text => exact spells_quote text

private theorem layout_chars {tokens : List Token} (literals : AreLiterals tokens) :
    Layout tokens (tokens.flatMap Token.chars) := by
  induction tokens with
  | nil => exact .blanks areBlank_nil
  | cons token rest ih =>
    have own : AreLiterals [token] := fun literal mem =>
      literals literal (List.mem_singleton.mp mem ▸ List.mem_cons_self)
    exact .token areBlank_nil (spells_chars token own) (ih (areLiterals_cons literals))

/-- A value whose numbers are number literals is what its text denotes. -/
theorem parse?_render {v : Value} (literals : AreLiterals v.tokens) : parse? v.render = some v := by
  have writes : v.Writes v.render := by
    rw [Value.Writes, Value.render, String.toList_ofList]
    exact layout_chars literals
  exact (parse?_eq_some_iff v.render v).mpr writes

end Json

end InstrumentLink
