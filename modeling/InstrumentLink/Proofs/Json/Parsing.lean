import InstrumentLink.Json.Parser
import InstrumentLink.Proofs.Json.Lexing
import InstrumentLink.Proofs.Json.Scanning

/-!
# Parsing values

The tokens of a value are read as the value, whatever arrays and objects are open around it. The
other way round, what a parser holds accounts for all tokens that it has read. So a text denotes a
value just if it is a layout of the value's tokens.
-/

namespace InstrumentLink.Json

namespace Parser

private theorem foldlM_firstItem (stack : List Frame) (v : Value) (rest : List Value)
    (more : List Token) :
    (Value.itemTokens (v :: rest) ++ more).foldlM step ⟨stack, .firstItem⟩ =
      (Value.itemTokens (v :: rest) ++ more).foldlM step ⟨.array [] :: stack, .value⟩ := by
  cases rest <;> cases v <;> rfl

private theorem foldlM_firstKey (stack : List Frame) (member : Text × Value)
    (rest : List (Text × Value)) (more : List Token) :
    (Value.memberTokens (member :: rest) ++ more).foldlM step ⟨stack, .firstKey⟩ =
      (Value.memberTokens (member :: rest) ++ more).foldlM step ⟨stack, .key []⟩ := by
  cases rest <;> rfl

private theorem foldlM_member {members : List (Text × Value)} {key : Text} {v : Value}
    {stack : List Frame} (read : v.tokens.foldlM step ⟨.object members key :: stack, .value⟩ =
      some ⟨.object members key :: stack, .after v⟩) :
    (.string key :: .colon :: v.tokens).foldlM step ⟨stack, .key members⟩ =
      some ⟨.object members key :: stack, .after v⟩ :=
  read

mutual

/-- The tokens of a value are read as the value. -/
theorem foldlM_tokens : (v : Value) → (stack : List Frame) →
    v.tokens.foldlM step ⟨stack, .value⟩ = some ⟨stack, .after v⟩
  | .null, _ => rfl
  | .bool _, _ => rfl
  | .number _, _ => rfl
  | .string _, _ => rfl
  | .array [], _ => rfl
  | .array (v :: rest), stack => by
    have opened : step ⟨stack, .value⟩ .arrayStart = some ⟨stack, .firstItem⟩ := rfl
    rw [Value.tokens, List.cons_append, foldlM_cons_of_some opened, foldlM_firstItem]
    exact foldlM_itemTokens (v :: rest) (List.cons_ne_nil v rest) [] stack
  | .object [], _ => rfl
  | .object (member :: rest), stack => by
    have opened : step ⟨stack, .value⟩ .objectStart = some ⟨stack, .firstKey⟩ := rfl
    rw [Value.tokens, List.cons_append, foldlM_cons_of_some opened, foldlM_firstKey]
    exact foldlM_memberTokens (member :: rest) (List.cons_ne_nil member rest) [] stack

theorem foldlM_itemTokens : (items : List Value) → items ≠ [] → (done : List Value) →
    (stack : List Frame) →
    (Value.itemTokens items ++ [Token.arrayEnd]).foldlM step ⟨.array done :: stack, .value⟩ =
      some ⟨stack, .after (.array (done.reverse ++ items))⟩
  | [], nonempty, _, _ => absurd rfl nonempty
  | [v], _, done, stack => by
    rw [Value.itemTokens, foldlM_append_of_some (foldlM_tokens v _), ← List.reverse_cons]
    rfl
  | v :: w :: rest, _, done, stack => by
    have comma : step ⟨.array done :: stack, .after v⟩ .comma =
        some ⟨.array (v :: done) :: stack, .value⟩ := rfl
    rw [Value.itemTokens, List.append_assoc, foldlM_append_of_some (foldlM_tokens v _),
      List.cons_append, foldlM_cons_of_some comma,
      foldlM_itemTokens (w :: rest) (List.cons_ne_nil w rest), List.reverse_cons, List.append_assoc]
    · rfl
    · exact List.cons_ne_nil w rest

theorem foldlM_memberTokens : (members : List (Text × Value)) → members ≠ [] →
    (done : List (Text × Value)) → (stack : List Frame) →
    (Value.memberTokens members ++ [Token.objectEnd]).foldlM step ⟨stack, .key done⟩ =
      some ⟨stack, .after (.object (done.reverse ++ members))⟩
  | [], nonempty, _, _ => absurd rfl nonempty
  | [(key, v)], _, done, stack => by
    rw [Value.memberTokens, foldlM_append_of_some (foldlM_member (foldlM_tokens v _)),
      ← List.reverse_cons]
    rfl
  | (key, v) :: w :: rest, _, done, stack => by
    have comma : step ⟨.object done key :: stack, .after v⟩ .comma =
        some ⟨stack, .key ((key, v) :: done)⟩ := rfl
    rw [Value.memberTokens, List.append_assoc,
      foldlM_append_of_some (foldlM_member (foldlM_tokens v _)),
      List.cons_append, foldlM_cons_of_some comma,
      foldlM_memberTokens (w :: rest) (List.cons_ne_nil w rest), List.reverse_cons,
      List.append_assoc]
    · rfl
    · exact List.cons_ne_nil w rest

end

/-! ### What a parser holds -/

/-- The tokens of a single member of an object. -/
def entryTokens (member : Text × Value) : List Token :=
  .string member.1 :: .colon :: member.2.tokens

/-- The tokens of an open array up to the place of its next item. -/
private def openItems (items : List Value) : List Token :=
  .arrayStart :: items.reverse.flatMap fun v => v.tokens ++ [.comma]

/-- The tokens of an open object up to the place of its next key. -/
private def openMembers (members : List (Text × Value)) : List Token :=
  .objectStart :: members.reverse.flatMap fun member => entryTokens member ++ [.comma]

end Parser

def Frame.tokens : Frame → List Token
  | array items => Parser.openItems items
  | object members key => Parser.openMembers members ++ [.string key, .colon]

def Expected.tokens : Expected → List Token
  | value => []
  | firstItem => [.arrayStart]
  | firstKey => [.objectStart]
  | key members => Parser.openMembers members
  | colon members name => Parser.openMembers members ++ [.string name]
  | after v => v.tokens

namespace Parser

/-- The tokens that the parser has read. -/
def tokens (parser : Parser) : List Token :=
  parser.stack.reverse.flatMap Frame.tokens ++ parser.expected.tokens

private theorem itemTokens_append (items : List Value) (v : Value) :
    Value.itemTokens (items ++ [v]) =
      (items.flatMap fun item => item.tokens ++ [.comma]) ++ v.tokens := by
  induction items with
  | nil => rfl
  | cons item rest ih =>
    rw [List.flatMap_cons, List.append_assoc, ← ih, List.append_assoc]
    cases rest <;> rfl

private theorem memberTokens_append (members : List (Text × Value)) (member : Text × Value) :
    Value.memberTokens (members ++ [member]) =
      (members.flatMap fun member => entryTokens member ++ [.comma]) ++ entryTokens member := by
  induction members with
  | nil => rfl
  | cons first rest ih =>
    rw [List.flatMap_cons, List.append_assoc, ← ih, List.append_assoc]
    cases rest <;> rfl

private theorem tokens_array (items : List Value) (v : Value) :
    (Value.array (v :: items).reverse).tokens = openItems items ++ v.tokens ++ [.arrayEnd] := by
  rw [Value.tokens, List.reverse_cons, itemTokens_append]
  rfl

private theorem tokens_object (members : List (Text × Value)) (member : Text × Value) :
    (Value.object (member :: members).reverse).tokens =
      openMembers members ++ entryTokens member ++ [.objectEnd] := by
  rw [Value.tokens, List.reverse_cons, memberTokens_append]
  rfl

private theorem openItems_cons (items : List Value) (v : Value) :
    openItems (v :: items) = openItems items ++ v.tokens ++ [.comma] := by
  simp [openItems]

private theorem openMembers_cons (members : List (Text × Value)) (member : Text × Value) :
    openMembers (member :: members) = openMembers members ++ entryTokens member ++ [.comma] := by
  simp [openMembers]

private theorem tokens_push (frame : Frame) (stack : List Frame) (expected : Expected) :
    tokens ⟨frame :: stack, expected⟩ =
      stack.reverse.flatMap Frame.tokens ++ (frame.tokens ++ expected.tokens) := by
  simp [tokens]

private theorem tokens_startValue {stack : List Frame} {token : Token} {parser : Parser}
    (started : startValue stack token = some parser) :
    parser.tokens = stack.reverse.flatMap Frame.tokens ++ [token] := by
  cases token <;> cases started <;> rfl

private theorem tokens_endValue {v : Value} {stack : List Frame} {token : Token} {parser : Parser}
    (ended : endValue v stack token = some parser) :
    parser.tokens = tokens ⟨stack, .after v⟩ ++ [token] := by
  unfold endValue at ended
  split at ended
  · next items stack =>
    obtain rfl := Option.some.inj ended
    simp [tokens_push, Frame.tokens, Expected.tokens, openItems_cons]
  · next items stack =>
    obtain rfl := Option.some.inj ended
    rw [tokens, tokens_push, Expected.tokens, tokens_array]
    simp [Frame.tokens, Expected.tokens]
  · next members key stack =>
    obtain rfl := Option.some.inj ended
    rw [tokens, tokens_push, Expected.tokens, openMembers_cons]
    simp [Frame.tokens, Expected.tokens, entryTokens]
  · next members key stack =>
    obtain rfl := Option.some.inj ended
    rw [tokens, tokens_push, Expected.tokens, tokens_object]
    simp [Frame.tokens, Expected.tokens, entryTokens]
  · cases ended

private theorem tokens_expect (stack : List Frame) {expected expected' : Expected} {token : Token}
    (same : expected'.tokens = expected.tokens ++ [token]) :
    tokens ⟨stack, expected'⟩ = tokens ⟨stack, expected⟩ ++ [token] := by
  rw [tokens, tokens, same, List.append_assoc]

/-- Each token that is read is accounted for. -/
theorem tokens_step {parser parser' : Parser} {token : Token}
    (stepped : parser.step token = some parser') : parser'.tokens = parser.tokens ++ [token] := by
  obtain ⟨stack, expected⟩ := parser
  unfold step at stepped
  dsimp only at stepped
  split at stepped
  · rw [tokens_startValue stepped, tokens, Expected.tokens, List.append_nil]
  · obtain rfl := Option.some.inj stepped
    exact tokens_expect stack rfl
  -- the first item opens the array that has been announced
  · rw [tokens_startValue stepped, List.reverse_cons, List.flatMap_append]
    rfl
  · obtain rfl := Option.some.inj stepped
    exact tokens_expect stack rfl
  · obtain rfl := Option.some.inj stepped
    exact tokens_expect stack rfl
  · obtain rfl := Option.some.inj stepped
    exact tokens_expect stack rfl
  · obtain rfl := Option.some.inj stepped
    rw [tokens_push]
    simp [tokens, Frame.tokens, Expected.tokens]
  · exact tokens_endValue stepped
  · cases stepped

private theorem tokens_run {parser parser' : Parser} {read : List Token}
    (ran : read.foldlM step parser = some parser') : parser'.tokens = parser.tokens ++ read := by
  induction read generalizing parser with
  | nil =>
    obtain rfl := Option.some.inj ran
    rw [List.append_nil]
  | cons token rest ih =>
    rw [List.foldlM_cons] at ran
    obtain ⟨next, stepped, ran_on⟩ := Option.bind_eq_some_iff.mp ran
    rw [ih ran_on, tokens_step stepped, List.append_assoc]
    rfl

private theorem tokens_finish {parser : Parser} {v : Value} (finished : parser.finish = some v) :
    parser.tokens = v.tokens := by
  obtain ⟨stack, expected⟩ := parser
  unfold finish at finished
  split at finished
  · next empty is_after =>
    obtain rfl := Option.some.inj finished
    dsimp only at empty is_after
    rw [empty, is_after]
    rfl
  · cases finished

end Parser

namespace Value

private theorem ofTokens?_eq_some_iff (tokens : List Token) (v : Value) :
    ofTokens? tokens = some v ↔ tokens = v.tokens := by
  constructor
  · intro read
    obtain ⟨parser, ran, finished⟩ := Option.bind_eq_some_iff.mp read
    rw [← Parser.tokens_finish finished, Parser.tokens_run ran]
    rfl
  · rintro rfl
    rw [ofTokens?, Parser.foldlM_tokens v []]
    rfl

/-- A text that the value may be written as, with blanks between its tokens and escapes in its
strings. -/
def Writes (v : Value) (text : String) : Prop := Layout v.tokens text.toList

end Value

/-- A text denotes a value just if it is one of the texts that the value may be written as. -/
theorem parse?_eq_some_iff (text : String) (v : Value) : parse? text = some v ↔ v.Writes text := by
  constructor
  · intro read
    obtain ⟨tokens, lexed, parsed⟩ := Option.bind_eq_some_iff.mp read
    obtain rfl := (Value.ofTokens?_eq_some_iff tokens v).mp parsed
    exact Token.layout_of_ofText? lexed
  · intro writes
    rw [parse?, (areRead_value v).ofText? writes, Option.bind_some]
    exact (Value.ofTokens?_eq_some_iff v.tokens v).mpr rfl

end InstrumentLink.Json
