import InstrumentLink.Proofs.Json.Escapes

/-!
# What a lexer has read

At any moment the tokens of a lexer, and what it holds back, account for all characters that it has
read. So a text that is read to its end is a layout of its tokens.
-/

namespace InstrumentLink.Json

namespace Token

private theorem spells_of_ofWord? {word : List Char} {token : Token}
    (read : ofWord? word = some token) :
    token.Spells word := by
  unfold ofWord? at read
  split at read
  · next null =>
    obtain rfl := Option.some.inj read
    rw [null]
    exact .null
  split at read
  · next true =>
    obtain rfl := Option.some.inj read
    rw [true]
    exact .true
  split at read
  · next false =>
    obtain rfl := Option.some.inj read
    rw [false]
    exact .false
  split at read
  · next number =>
    obtain rfl := Option.some.inj read
    obtain ⟨numeral, rfl⟩ := (Numeral.isNumber_iff word).mp number
    exact .number numeral
  · cases read

end Token

private theorem hexNumber?_append (digits : List Char) (c : Char) :
    hexNumber? (digits ++ [c]) =
      (hexNumber? digits).bind fun value => (Hex.value? c).map (value * 16 + ·) := by
  unfold hexNumber?
  rw [List.foldlM_append]
  simp only [List.foldlM_cons, List.foldlM_nil, bind_pure, Option.bind_eq_bind]

namespace Lexer

/-- The text that a lexer has read is laid out in the tokens that it has, last one first, and the
part that it holds. -/
inductive Accounts : Lexer → List Char → Prop
  | between {tokens : List Token} {read : List Char} (laid : Layout tokens.reverse read) :
      Accounts ⟨tokens, .between⟩ read
  | word {tokens : List Token} {before : List Char} (laid : Layout tokens.reverse before)
      (chars : List Char) : Accounts ⟨tokens, .word chars⟩ (before ++ chars.reverse)
  | string {tokens : List Token} {before : List Char} (laid : Layout tokens.reverse before)
      (pieces : List Piece) :
      Accounts ⟨tokens, .string (.ofPieces pieces)⟩ (before ++ '"' :: pieces.flatMap Piece.chars)
  | escape {tokens : List Token} {before : List Char} (laid : Layout tokens.reverse before)
      (pieces : List Piece) :
      Accounts ⟨tokens, .escape (.ofPieces pieces)⟩
        (before ++ '"' :: (pieces.flatMap Piece.chars ++ ['\\']))
  | code {tokens : List Token} {before : List Char} (laid : Layout tokens.reverse before)
      (pieces : List Piece) {digits : List Char} {missing value : Nat}
      (count : digits.length + (missing + 1) = 4) (writes : hexNumber? digits = some value) :
      Accounts ⟨tokens, .code (.ofPieces pieces) (missing + 1) value⟩
        (before ++ '"' :: (pieces.flatMap Piece.chars ++ '\\' :: 'u' :: digits))

private theorem accounts_start {tokens : List Token} {read : List Char} {c : Char} {lexer : Lexer}
    (laid : Layout tokens.reverse read) (started : start tokens c = some lexer) :
    lexer.Accounts (read ++ [c]) := by
  unfold start at started
  split at started
  · next blank =>
    obtain rfl := Option.some.inj started
    have blanks : Layout [] [c] := .blanks fun _ mem => List.mem_singleton.mp mem ▸ blank
    have laid_on := laid.append blanks
    rw [List.append_nil] at laid_on
    exact .between laid_on
  split at started
  · next quote =>
    obtain rfl := Option.some.inj started
    rw [quote]
    exact .string laid []
  split at started
  · obtain rfl := Option.some.inj started
    exact .word laid [c]
  · obtain ⟨token, is_mark, rfl⟩ := Option.map_eq_some_iff.mp started
    have laid_on := laid.append (.single (.mark is_mark))
    rw [← List.reverse_cons] at laid_on
    exact .between laid_on

private theorem Accounts.string_piece {tokens : List Token} {before : List Char}
    (laid : Layout tokens.reverse before) (pieces : List Piece) (piece : Piece) :
    Accounts ⟨tokens, .string ((Contents.ofPieces pieces).add piece)⟩
      (before ++ '"' :: (pieces.flatMap Piece.chars ++ piece.chars)) := by
  have accounts := Accounts.string laid (pieces ++ [piece])
  rw [Contents.ofPieces_append, List.flatMap_append, List.flatMap_singleton] at accounts
  exact accounts

theorem Accounts.step {lexer lexer' : Lexer} {read : List Char} {c : Char}
    (accounts : lexer.Accounts read) (stepped : lexer.step c = some lexer') :
    lexer'.Accounts (read ++ [c]) := by
  cases accounts with
  | between laid => exact accounts_start laid stepped
  | word laid chars =>
    simp only [Lexer.step] at stepped
    split at stepped
    · obtain rfl := Option.some.inj stepped
      rw [List.append_assoc, ← List.reverse_cons]
      exact .word laid (c :: chars)
    -- the character ends the word and starts what comes after it
    · obtain ⟨token, read, started⟩ := Option.bind_eq_some_iff.mp stepped
      have laid_on := laid.append (.single (Token.spells_of_ofWord? read))
      rw [← List.reverse_cons] at laid_on
      exact accounts_start laid_on started
  | string laid pieces =>
    rw [List.append_assoc, List.cons_append]
    simp only [Lexer.step] at stepped
    split at stepped
    · next quote =>
      obtain rfl := Option.some.inj stepped
      rw [quote, Contents.text_ofPieces]
      have laid_on := laid.append (.single (.string pieces))
      rw [← List.reverse_cons] at laid_on
      exact .between laid_on
    split at stepped
    · next backslash =>
      obtain rfl := Option.some.inj stepped
      rw [backslash]
      exact .escape laid pieces
    split at stepped
    · cases stepped
    · next quote backslash control =>
      obtain rfl := Option.some.inj stepped
      exact Accounts.string_piece laid pieces (.plain c ⟨quote, backslash, by omega⟩)
  | escape laid pieces =>
    rw [List.append_assoc, List.cons_append, List.append_assoc]
    simp only [Lexer.step] at stepped
    split at stepped
    · next letter =>
      obtain rfl := Option.some.inj stepped
      rw [letter]
      have unread : hexNumber? [] = some 0 := rfl
      exact .code laid pieces rfl unread
    · obtain ⟨e, means, rfl⟩ := Option.map_eq_some_iff.mp stepped
      exact Accounts.string_piece laid pieces (.escape c e means)
  | @code tokens before laid pieces digits missing value count writes =>
    rw [List.append_assoc, List.cons_append, List.append_assoc]
    obtain ⟨digit, is_digit, rfl⟩ := Option.map_eq_some_iff.mp stepped
    have writes_on : hexNumber? (digits ++ [c]) = some (value * 16 + digit) := by
      rw [hexNumber?_append, writes, Option.bind_some, is_digit, Option.map_some]
    have length : (digits ++ [c]).length = digits.length + 1 := List.length_append
    -- the last digit that is missing makes the escape a piece of the string
    cases missing with
    | zero =>
      have four : (digits ++ [c]).length = 4 := by omega
      exact Accounts.string_piece laid pieces (.code (digits ++ [c]) _ four writes_on)
    | succ missing =>
      have fewer : (digits ++ [c]).length + (missing + 1) = 4 := by omega
      exact .code laid pieces fewer writes_on

private theorem Accounts.run {text read : List Char} {lexer lexer' : Lexer}
    (accounts : lexer.Accounts read)
    (ran : text.foldlM Lexer.step lexer = some lexer') : lexer'.Accounts (read ++ text) := by
  induction text generalizing lexer read with
  | nil =>
    obtain rfl := Option.some.inj ran
    rw [List.append_nil]
    exact accounts
  | cons c rest ih =>
    rw [List.foldlM_cons] at ran
    obtain ⟨next, stepped, ran_on⟩ := Option.bind_eq_some_iff.mp ran
    have laid_on := ih (accounts.step stepped) ran_on
    rw [List.append_assoc] at laid_on
    exact laid_on

private theorem Accounts.finish {lexer : Lexer} {read : List Char} {tokens : List Token}
    (accounts : lexer.Accounts read) (finished : lexer.finish = some tokens) :
    Layout tokens read := by
  cases accounts with
  | between laid =>
    obtain rfl := Option.some.inj finished
    exact laid
  | word laid chars =>
    obtain ⟨token, read, rfl⟩ := Option.map_eq_some_iff.mp finished
    rw [List.reverse_cons]
    exact laid.append (.single (Token.spells_of_ofWord? read))
  | string | escape | code => cases finished

end Lexer

/-- A text that is read as some tokens is a layout of them. -/
theorem Token.layout_of_ofText? {tokens : List Token} {text : List Char}
    (read : ofText? text = some tokens) : Layout tokens text := by
  obtain ⟨lexer, ran, finished⟩ := Option.bind_eq_some_iff.mp read
  have initial : Lexer.Accounts {} [] := .between (.blanks areBlank_nil)
  exact (initial.run ran).finish finished

end InstrumentLink.Json
