import InstrumentLink.Json.Token

namespace InstrumentLink.Json

/-- An array or an object that is still open. -/
inductive Frame
  /-- The items read, last one first. -/
  | array (items : List Value)
  /-- The members read, last one first, and the key of the member that is being read. -/
  | object (members : List (Text × Value)) (key : Text)

inductive Expected
  | value
  /-- An item of an array that has just been opened, or its end. -/
  | firstItem
  /-- A key of an object that has just been opened, or its end. -/
  | firstKey
  /-- A key after a comma. -/
  | key (members : List (Text × Value))
  /-- The colon after a key. -/
  | colon (members : List (Text × Value)) (key : Text)
  /-- Whatever may follow a value. -/
  | after (value : Value)

/-- A reader of values: the open arrays and objects, innermost first, and what may come next. -/
structure Parser where
  stack : List Frame := []
  expected : Expected := .value

namespace Parser

/-- The reader after a token that starts a value. -/
def startValue (stack : List Frame) : Token → Option Parser
  | .null => some ⟨stack, .after .null⟩
  | .bool b => some ⟨stack, .after (.bool b)⟩
  | .number literal => some ⟨stack, .after (.number literal)⟩
  | .string text => some ⟨stack, .after (.string text)⟩
  | .arrayStart => some ⟨stack, .firstItem⟩
  | .objectStart => some ⟨stack, .firstKey⟩
  | _ => none

/-- The reader after a token that follows a value. -/
def endValue (value : Value) : List Frame → Token → Option Parser
  | .array items :: stack, .comma => some ⟨.array (value :: items) :: stack, .value⟩
  | .array items :: stack, .arrayEnd => some ⟨stack, .after (.array (value :: items).reverse)⟩
  | .object members key :: stack, .comma => some ⟨stack, .key ((key, value) :: members)⟩
  | .object members key :: stack, .objectEnd =>
      some ⟨stack, .after (.object ((key, value) :: members).reverse)⟩
  | _, _ => none

/-- The reader after one more token; none if no value goes on like this. -/
def step (parser : Parser) (token : Token) : Option Parser :=
  match parser.expected, token with
  | .value, token => startValue parser.stack token
  | .firstItem, .arrayEnd => some ⟨parser.stack, .after (.array [])⟩
  | .firstItem, token => startValue (.array [] :: parser.stack) token
  | .firstKey, .objectEnd => some ⟨parser.stack, .after (.object [])⟩
  | .firstKey, .string key => some ⟨parser.stack, .colon [] key⟩
  | .key members, .string key => some ⟨parser.stack, .colon members key⟩
  | .colon members key, .colon => some ⟨.object members key :: parser.stack, .value⟩
  | .after value, token => endValue value parser.stack token
  | _, _ => none

/-- The value that has been read, if it is complete. -/
def finish (parser : Parser) : Option Value :=
  match parser.stack, parser.expected with
  | [], .after value => some value
  | _, _ => none

end Parser

def Value.ofTokens? (tokens : List Token) : Option Value :=
  (tokens.foldlM Parser.step {}).bind Parser.finish

/-- The value that a text writes, with blanks around its tokens. -/
def parse? (text : String) : Option Value :=
  (Token.ofText? text.toList).bind Value.ofTokens?

end InstrumentLink.Json
