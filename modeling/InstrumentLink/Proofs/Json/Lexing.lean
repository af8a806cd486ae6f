import InstrumentLink.Json.Printer
import InstrumentLink.Proofs.Json.Escapes

namespace InstrumentLink.Json

/-! ### Readers -/

section Readers

variable {α β : Type} {step : β → α → Option β}

theorem foldlM_cons_of_some {b b' : β} {a : α} (read : step b a = some b') (rest : List α) :
    (a :: rest).foldlM step b = rest.foldlM step b' := by
  rw [List.foldlM_cons, read]
  rfl

theorem foldlM_append_of_some {b b' : β} {front : List α} (read : front.foldlM step b = some b')
    (back : List α) : (front ++ back).foldlM step b = back.foldlM step b' := by
  rw [List.foldlM_append, read]
  rfl

end Readers

namespace Lexer

/-! ### Strings -/

private theorem foldlM_digits (tokens : List Token) (contents : Contents) {digits : List Char}
    {missing value n : Nat} (count : digits.length = missing + 1)
    (writes : digits.foldlM (fun value c => (Hex.value? c).map (value * 16 + ·)) value = some n) :
    digits.foldlM step ⟨tokens, .code contents (missing + 1) value⟩ =
      some ⟨tokens, .string (contents.pushCode n)⟩ := by
  -- the value of the digits read so far changes with each digit, as does the count of the others
  induction digits generalizing missing value with
  | nil => cases count
  | cons c rest ih =>
    rw [List.foldlM_cons] at writes
    obtain ⟨next, reads, writes_on⟩ := Option.bind_eq_some_iff.mp writes
    obtain ⟨digit, is_digit, rfl⟩ := Option.map_eq_some_iff.mp reads
    cases missing with
    | zero =>
      obtain rfl := List.eq_nil_of_length_eq_zero (Nat.succ.inj count)
      obtain rfl := Option.some.inj writes_on
      have read : step ⟨tokens, .code contents 1 value⟩ c =
          some ⟨tokens, .string (contents.pushCode (value * 16 + digit))⟩ := by
        simp only [step, is_digit, Option.map_some, Nat.le_refl, if_true]
      exact foldlM_cons_of_some read []
    | succ missing =>
      have read : step ⟨tokens, .code contents (missing + 2) value⟩ c =
          some ⟨tokens, .code contents (missing + 1) (value * 16 + digit)⟩ := by
        simp only [step, is_digit, Option.map_some]
        rw [if_neg (by omega)]
        rfl
      rw [foldlM_cons_of_some read]
      exact ih (Nat.succ.inj count) writes_on

private theorem foldlM_piece (tokens : List Token) (contents : Contents) (piece : Piece) :
    piece.chars.foldlM step ⟨tokens, .string contents⟩ =
      some ⟨tokens, .string (contents.add piece)⟩ := by
  cases piece with
  | plain c ordinary =>
    obtain ⟨no_quote, no_backslash, no_control⟩ := ordinary
    have read : step ⟨tokens, .string contents⟩ c = some ⟨tokens, .string (contents.push c)⟩ := by
      simp only [step, no_quote, no_backslash, Nat.not_lt.mpr no_control, if_false]
    exact foldlM_cons_of_some read []
  | escape letter c means =>
    have no_code : letter ≠ 'u' := by
      rintro rfl
      cases means
    have opened : step ⟨tokens, .string contents⟩ '\\' = some ⟨tokens, .escape contents⟩ := rfl
    have read : step ⟨tokens, .escape contents⟩ letter =
        some ⟨tokens, .string (contents.push c)⟩ := by
      simp only [step, no_code, means, if_false, Option.map_some]
    exact (foldlM_cons_of_some opened _).trans (foldlM_cons_of_some read [])
  | code digits n four writes =>
    have opened : step ⟨tokens, .string contents⟩ '\\' = some ⟨tokens, .escape contents⟩ := rfl
    have counted : step ⟨tokens, .escape contents⟩ 'u' = some ⟨tokens, .code contents 4 0⟩ := rfl
    exact (foldlM_cons_of_some opened _).trans
      ((foldlM_cons_of_some counted _).trans (foldlM_digits tokens contents four writes))

private theorem foldlM_pieces (tokens : List Token) (contents : Contents) (pieces : List Piece) :
    (pieces.flatMap Piece.chars).foldlM step ⟨tokens, .string contents⟩ =
      some ⟨tokens, .string (pieces.foldl Contents.add contents)⟩ := by
  induction pieces generalizing contents with
  | nil => rfl
  | cons piece rest ih =>
    rw [List.flatMap_cons, foldlM_append_of_some (foldlM_piece tokens contents piece), ih]
    rfl

/-! ### Words -/

/-- The reader has read some tokens, the last one first, and possibly holds the last one back. -/
inductive Holds : Lexer → List Token → Prop
  | between (tokens : List Token) : Holds ⟨tokens, .between⟩ tokens
  | word {chars : List Char} {token : Token} (tokens : List Token)
      (read : Token.ofWord? chars.reverse = some token) :
      Holds ⟨tokens, .word chars⟩ (token :: tokens)

private theorem Holds.finish {lexer : Lexer} {tokens : List Token} (holds : lexer.Holds tokens) :
    lexer.finish = some tokens.reverse := by
  cases holds with
  | between => rfl
  | word tokens read => simp only [Lexer.finish, read, Option.map_some]

private theorem Holds.step {lexer : Lexer} {tokens : List Token} (holds : lexer.Holds tokens)
    {c : Char} (ends : Token.isWord c = false) : lexer.step c = start tokens c := by
  cases holds with
  | between => rfl
  | word tokens read =>
    simp only [Lexer.step, ends, read]
    rfl

private theorem isWord_of_isBlank {c : Char} (blank : Token.isBlank c = true) :
    Token.isWord c = false := by
  simp only [Token.isBlank, Bool.or_eq_true, decide_eq_true_eq] at blank
  rcases blank with ((rfl | rfl) | rfl) | rfl <;> rfl

private theorem foldlM_blanks (tokens : List Token) {cs : List Char} (blank : AreBlank cs) :
    cs.foldlM step ⟨tokens, .between⟩ = some ⟨tokens, .between⟩ := by
  induction cs with
  | nil => rfl
  | cons c rest ih =>
    obtain ⟨first, others⟩ := List.forall_mem_cons.mp blank
    have read : step ⟨tokens, .between⟩ c = some ⟨tokens, .between⟩ := if_pos first
    rw [foldlM_cons_of_some read, ih others]

private theorem Holds.blanks {lexer : Lexer} {tokens : List Token} (holds : lexer.Holds tokens)
    {cs : List Char} (blank : AreBlank cs) :
    ∃ lexer', cs.foldlM Lexer.step lexer = some lexer' ∧ lexer'.Holds tokens := by
  cases cs with
  | nil => exact ⟨lexer, rfl, holds⟩
  | cons c rest =>
    obtain ⟨first, others⟩ := List.forall_mem_cons.mp blank
    have read : lexer.step c = some ⟨tokens, .between⟩ := by
      rw [holds.step (isWord_of_isBlank first), start, if_pos first]
    rw [foldlM_cons_of_some read]
    exact ⟨_, foldlM_blanks tokens others, .between tokens⟩

theorem isBlank_of_isWord {c : Char} (word : Token.isWord c = true) : Token.isBlank c = false := by
  cases blank : Token.isBlank c with
  | false => rfl
  | true =>
    rw [isWord_of_isBlank blank] at word
    cases word

private theorem start_of_isWord (tokens : List Token) {c : Char} (word : Token.isWord c = true) :
    start tokens c = some ⟨tokens, .word [c]⟩ := by
  have no_blank := isBlank_of_isWord word
  have no_quote : c ≠ '"' := by
    rintro rfl
    cases word
  simp [start, no_blank, no_quote, word]

private theorem foldlM_word (tokens : List Token) (chars word : List Char)
    (words : ∀ c ∈ word, Token.isWord c = true) :
    word.foldlM step ⟨tokens, .word chars⟩ = some ⟨tokens, .word (word.reverse ++ chars)⟩ := by
  induction word generalizing chars with
  | nil => rfl
  | cons c rest ih =>
    obtain ⟨first, others⟩ := List.forall_mem_cons.mp words
    have read : step ⟨tokens, .word chars⟩ c = some ⟨tokens, .word (c :: chars)⟩ := by
      simp only [step, first, if_true]
    rw [foldlM_cons_of_some read, ih _ others, List.reverse_cons, List.append_assoc]
    rfl

private theorem holds_word (tokens : List Token) {word : List Char} {token : Token}
    (words : ∀ c ∈ word, Token.isWord c = true) (read : Token.ofWord? word = some token) :
    ∃ lexer, word.foldlM step ⟨tokens, .between⟩ = some lexer ∧ lexer.Holds (token :: tokens) := by
  cases word with
  | nil => cases read
  | cons first rest =>
    obtain ⟨first_word, rest_words⟩ := List.forall_mem_cons.mp words
    have opened : step ⟨tokens, .between⟩ first = some ⟨tokens, .word [first]⟩ :=
      start_of_isWord tokens first_word
    refine ⟨⟨tokens, .word (rest.reverse ++ [first])⟩, ?_, .word tokens ?_⟩
    · rw [foldlM_cons_of_some opened, foldlM_word tokens [first] rest rest_words]
    · rw [List.reverse_append, List.reverse_reverse]
      exact read

private theorem start_of_ofMark? (tokens : List Token) {c : Char} {token : Token}
    (is_mark : Token.ofMark? c = some token) :
    start tokens c = some ⟨token :: tokens, .between⟩ := by
  unfold Token.ofMark? at is_mark
  split at is_mark <;> cases is_mark <;> rfl

/-- Each spelling of a token is read as the token. -/
theorem holds_spelling (tokens : List Token) {token : Token} {chars : List Char}
    (spells : token.Spells chars) :
    ∃ lexer, chars.foldlM step ⟨tokens, .between⟩ = some lexer ∧ lexer.Holds (token :: tokens) := by
  cases spells with
  | mark is_mark =>
    exact ⟨_, foldlM_cons_of_some (start_of_ofMark? tokens is_mark) [], .between _⟩
  | null => exact holds_word tokens (List.all_eq_true.mp rfl) rfl
  | true => exact holds_word tokens (List.all_eq_true.mp rfl) rfl
  | false => exact holds_word tokens (List.all_eq_true.mp rfl) rfl
  | number numeral =>
    have number := numeral.isNumber_chars
    have differs {word : List Char} (not_number : isNumber word = false) :
        numeral.chars ≠ word := by
      intro same
      rw [same, not_number] at number
      cases number
    refine holds_word tokens (fun c mem => numeral.isWord_of_mem_chars mem) ?_
    rw [Token.ofWord?, if_neg (differs rfl), if_neg (differs rfl), if_neg (differs rfl),
      if_pos number]
  | string pieces =>
    refine ⟨_, ?_, .between _⟩
    have opened : step ⟨tokens, .between⟩ '"' = some ⟨tokens, .string {}⟩ := rfl
    have closed : step ⟨tokens, .string (.ofPieces pieces)⟩ '"' =
        some ⟨.string ((unescape pieces).map String.ofList) :: tokens, .between⟩ := by
      rw [← Contents.text_ofPieces]
      rfl
    rw [foldlM_cons_of_some opened, foldlM_append_of_some (foldlM_pieces tokens {} pieces)]
    exact foldlM_cons_of_some closed []

end Lexer

/-- Every layout of the tokens is read as these tokens, whatever was read before. -/
private def AreRead (tokens : List Token) : Prop :=
  ∀ text, Layout tokens text → ∀ done, ∃ lexer,
    text.foldlM Lexer.step ⟨done, .between⟩ = some lexer ∧ lexer.Holds (tokens.reverse ++ done)

/-- A token that is a single character, which ends a word. -/
private def Token.IsMark (token : Token) : Prop :=
  ∃ c, token.chars = [c] ∧ isWord c = false ∧
    ∀ tokens, Lexer.start tokens c = some ⟨token :: tokens, .between⟩

private theorem Token.Spells.eq_chars {token : Token} {chars : List Char}
    (spells : token.Spells chars)
    (no_string : ∀ text, token ≠ .string text) : chars = token.chars := by
  cases spells with
  | mark is_mark =>
    unfold ofMark? at is_mark
    split at is_mark <;> cases is_mark <;> rfl
  | null | true | false => rfl
  | number numeral => exact String.toList_ofList.symm
  | string pieces => exact absurd rfl (no_string _)

private theorem Token.IsMark.ne_string {token : Token} (is_mark : token.IsMark) (text : Text) :
    token ≠ .string text := by
  rintro rfl
  obtain ⟨c, chars, -⟩ := is_mark
  cases text <;> simp [Token.chars, quote] at chars

namespace AreRead

private theorem nil : AreRead [] := by
  intro text laid done
  cases laid with
  | blanks blank => exact (Lexer.Holds.between done).blanks blank

private theorem single (token : Token) : AreRead [token] := by
  intro text laid done
  cases laid with
  | token blank spells later =>
    cases later with
    | blanks blank_rest =>
      obtain ⟨lexer, read, holds⟩ := Lexer.holds_spelling done spells
      obtain ⟨lexer', read_rest, holds'⟩ := holds.blanks blank_rest
      refine ⟨lexer', ?_, holds'⟩
      rw [foldlM_append_of_some (Lexer.foldlM_blanks done blank), foldlM_append_of_some read,
        read_rest]

private theorem around {front back : List Token} {mark : Token} (are_read : AreRead front)
    (is_mark : mark.IsMark) (are_read_on : AreRead back) : AreRead (front ++ mark :: back) := by
  intro text laid done
  obtain ⟨cs, ds, rfl, laid_front, laid_back⟩ := laid.exists_append
  obtain ⟨lexer, read, holds⟩ := are_read cs laid_front done
  cases laid_back with
  | @token _ _ blanks chars rest blank spells later =>
    obtain rfl := spells.eq_chars is_mark.ne_string
    obtain ⟨lexer', read_blanks, holds'⟩ := holds.blanks blank
    obtain ⟨c, chars, ends, started⟩ := is_mark
    have marked := (holds'.step ends).trans (started _)
    obtain ⟨lexer'', read_back, holds''⟩ := are_read_on rest later (mark :: (front.reverse ++ done))
    refine ⟨lexer'', ?_, ?_⟩
    · rw [foldlM_append_of_some read, foldlM_append_of_some read_blanks, chars,
        List.singleton_append, foldlM_cons_of_some marked, read_back]
    · rw [List.reverse_append, List.reverse_cons, List.append_assoc, List.append_assoc]
      exact holds''

theorem ofText? {tokens : List Token} (are_read : AreRead tokens) {text : List Char}
    (laid : Layout tokens text) : Token.ofText? text = some tokens := by
  obtain ⟨lexer, read, holds⟩ := are_read text laid []
  rw [Token.ofText?, read, Option.bind_some, holds.finish, List.append_nil, List.reverse_reverse]

end AreRead

/-! ### Values -/

private theorem isMark_comma : Token.comma.IsMark := ⟨',', rfl, rfl, fun _ => rfl⟩

private theorem isMark_colon : Token.colon.IsMark := ⟨':', rfl, rfl, fun _ => rfl⟩

mutual

-- The word a value may end in is still held by the lexer. Only the mark after the value shows that
-- it is complete, so the parts of an array or object are put together around its marks.
theorem areRead_value : (v : Value) → AreRead v.tokens
  | .null => .single _
  | .bool _ => .single _
  | .number _ => .single _
  | .string _ => .single _
  | .array items =>
    AreRead.nil.around ⟨'[', rfl, rfl, fun _ => rfl⟩
      ((areRead_items items).around ⟨']', rfl, rfl, fun _ => rfl⟩ .nil)
  | .object members =>
    AreRead.nil.around ⟨'{', rfl, rfl, fun _ => rfl⟩
      ((areRead_members members).around ⟨'}', rfl, rfl, fun _ => rfl⟩ .nil)

theorem areRead_items : (items : List Value) → AreRead (Value.itemTokens items)
  | [] => .nil
  | [v] => areRead_value v
  | v :: w :: rest => (areRead_value v).around isMark_comma (areRead_items (w :: rest))

theorem areRead_members : (members : List (Text × Value)) → AreRead (Value.memberTokens members)
  | [] => .nil
  | [(key, v)] => (AreRead.single (.string key)).around isMark_colon (areRead_value v)
  | (key, v) :: w :: rest => by
    have member : AreRead ([.string key] ++ .colon :: v.tokens) :=
      (AreRead.single (.string key)).around isMark_colon (areRead_value v)
    exact member.around isMark_comma (areRead_members (w :: rest))

end

end InstrumentLink.Json
