import InstrumentLink.Json.Token
import InstrumentLink.Proofs.Json.Numeral

/-!
# How tokens are laid out in a text

A text is a row of tokens with blanks anywhere between them. Marks and names have one spelling, a
number is spelled as its numeral, and a string has a spelling for each way to escape its characters.
-/

namespace InstrumentLink.Json

/-- The number that hexadecimal digits write. -/
def hexNumber? (digits : List Char) : Option Nat :=
  digits.foldlM (fun value c => (Hex.value? c).map (value * 16 + ·)) 0

/-- What may stand between the quotes of a string. -/
inductive Piece
  /-- A character that stands for itself. -/
  | plain (c : Char) (ordinary : c ≠ '"' ∧ c ≠ '\\' ∧ 0x20 ≤ c.toNat)
  /-- A letter after a backslash, with the character that it stands for. -/
  | escape (letter c : Char) (means : escaped? letter = some c)
  /-- Four hexadecimal digits after `\u`, with the code that they write. -/
  | code (digits : List Char) (n : Nat) (four : digits.length = 4)
      (writes : hexNumber? digits = some n)

namespace Piece

def chars : Piece → List Char
  | plain c _ => [c]
  | escape letter _ _ => ['\\', letter]
  | code digits _ _ _ => '\\' :: 'u' :: digits

end Piece

/-- The characters that pieces stand for. Two codes that are a surrogate pair stand for one
character; half of a pair stands for none. -/
def unescape : List Piece → Option (List Char)
  | [] => some []
  | .plain c _ :: rest | .escape _ c _ :: rest => (unescape rest).map (c :: ·)
  | .code _ n _ _ :: rest =>
      if Contents.isHigh n then
        match rest with
        | .code _ low _ _ :: rest =>
            if Contents.isLow low then (unescape rest).map (Contents.pair n low :: ·) else none
        | _ => none
      else if Contents.isLow n then none
      else (unescape rest).map (Char.ofNat n :: ·)

theorem unescape_code (digits : List Char) {n : Nat} (four : digits.length = 4)
    (writes : hexNumber? digits = some n) (not_high : Contents.isHigh n = false)
    (not_low : Contents.isLow n = false) (rest : List Piece) :
    unescape (.code digits n four writes :: rest) = (unescape rest).map (Char.ofNat n :: ·) := by
  rw [unescape.eq_def]
  simp [not_high, not_low]

/-- The spellings of a token. -/
inductive Token.Spells : Token → List Char → Prop
  | mark {token : Token} {c : Char} (is_mark : ofMark? c = some token) : Spells token [c]
  | null : Spells null "null".toList
  | true : Spells (bool Bool.true) "true".toList
  | false : Spells (bool Bool.false) "false".toList
  | number (numeral : Numeral) : Spells (number (String.ofList numeral.chars)) numeral.chars
  | string (pieces : List Piece) :
      Spells (string ((unescape pieces).map String.ofList))
        ('"' :: (pieces.flatMap Piece.chars ++ ['"']))

def AreBlank (cs : List Char) : Prop := ∀ c ∈ cs, Token.isBlank c = true

/-- The texts of a row of tokens. -/
inductive Layout : List Token → List Char → Prop
  | blanks {cs : List Char} (blank : AreBlank cs) : Layout [] cs
  | token {token : Token} {tokens : List Token} {front chars rest : List Char}
      (blank : AreBlank front) (spells : token.Spells chars) (later : Layout tokens rest) :
      Layout (token :: tokens) (front ++ (chars ++ rest))

theorem areBlank_nil : AreBlank [] := nofun

private theorem AreBlank.append {front back : List Char} (blank : AreBlank front)
    (blank_back : AreBlank back) : AreBlank (front ++ back) := by
  intro c mem
  rcases List.mem_append.mp mem with first | second
  · exact blank c first
  · exact blank_back c second

namespace Layout

private theorem after_blanks {tokens : List Token} {front text : List Char} (blank : AreBlank front)
    (laid : Layout tokens text) : Layout tokens (front ++ text) := by
  cases laid with
  | blanks blank_text => exact .blanks (blank.append blank_text)
  | token blank_front spells later =>
    rw [← List.append_assoc]
    exact .token (blank.append blank_front) spells later

theorem append {front back : List Token} {cs ds : List Char} (laid : Layout front cs)
    (laid_back : Layout back ds) : Layout (front ++ back) (cs ++ ds) := by
  induction laid with
  | blanks blank => exact laid_back.after_blanks blank
  | token blank spells _ ih =>
    rw [List.cons_append, List.append_assoc, List.append_assoc]
    exact .token blank spells ih

theorem exists_append {front back : List Token} {text : List Char}
    (laid : Layout (front ++ back) text) :
    ∃ cs ds, text = cs ++ ds ∧ Layout front cs ∧ Layout back ds := by
  induction front generalizing text with
  | nil => exact ⟨[], text, rfl, .blanks areBlank_nil, laid⟩
  | cons token front ih =>
    cases laid with
    | token blank spells later =>
      obtain ⟨cs, ds, rfl, laid_front, laid_back⟩ := ih later
      refine ⟨_, ds, ?_, .token blank spells laid_front, laid_back⟩
      rw [List.append_assoc, List.append_assoc]

theorem single {token : Token} {chars : List Char} (spells : token.Spells chars) :
    Layout [token] chars := by
  have laid := Layout.token areBlank_nil spells (.blanks areBlank_nil)
  rw [List.append_nil] at laid
  exact laid

end Layout

end InstrumentLink.Json
