import InstrumentLink.Json.Token

namespace InstrumentLink.Json

/-- A character as it stands in a string. Quotes, backslashes and control characters are escaped,
all others stand for themselves. -/
def escape (c : Char) : List Char :=
  if c = '"' then ['\\', '"']
  else if c = '\\' then ['\\', '\\']
  else if c = '\x08' then ['\\', 'b']
  else if c = '\x0c' then ['\\', 'f']
  else if c = '\n' then ['\\', 'n']
  else if c = '\r' then ['\\', 'r']
  else if c = '\t' then ['\\', 't']
  else if c.toNat < 0x20 then ['\\', 'u'] ++ Hex.fixed 4 c.toNat
  else [c]

/-- A string between quotes. A string without a text is written as half of a surrogate pair. -/
def quote : Text → List Char
  | some text => '"' :: text.toList.flatMap escape ++ ['"']
  | none => '"' :: ['\\', 'u'] ++ Hex.fixed 4 0xD800 ++ ['"']

def Token.chars : Token → List Char
  | objectStart => ['{']
  | objectEnd => ['}']
  | arrayStart => ['[']
  | arrayEnd => [']']
  | colon => [':']
  | comma => [',']
  | null => "null".toList
  | bool true => "true".toList
  | bool false => "false".toList
  | number literal => literal.toList
  | string text => quote text

namespace Value

mutual

def tokens : Value → List Token
  | null => [.null]
  | bool b => [.bool b]
  | number literal => [.number literal]
  | string text => [.string text]
  | array items => .arrayStart :: itemTokens items ++ [.arrayEnd]
  | object members => .objectStart :: memberTokens members ++ [.objectEnd]

def itemTokens : List Value → List Token
  | [] => []
  | [v] => v.tokens
  | v :: rest => v.tokens ++ .comma :: itemTokens rest

def memberTokens : List (Text × Value) → List Token
  | [] => []
  | [(key, v)] => .string key :: .colon :: v.tokens
  | (key, v) :: rest => .string key :: .colon :: v.tokens ++ .comma :: memberTokens rest

end

/-- The compact text of a value. -/
def render (v : Value) : String :=
  String.ofList (v.tokens.flatMap Token.chars)

def ofNat (n : Nat) : Value :=
  .number (toString n)

def ofText (text : String) : Value :=
  .string (some text)

def ofMembers (members : List (String × Value)) : Value :=
  .object (members.map fun member => (some member.1, member.2))

def ofOption {α : Type} (f : α → Value) : Option α → Value
  | some a => f a
  | none => .null

end Value

end InstrumentLink.Json
