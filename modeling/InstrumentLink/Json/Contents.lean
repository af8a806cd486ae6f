import InstrumentLink.Json.Value

/-!
# The contents of a JSON string

A string is read a character or an escape at a time. Two escapes may together name one character
by a surrogate pair; a surrogate without its partner leaves the string without a text.
-/

namespace InstrumentLink.Json

/-- The part of a string that has been read. -/
structure Contents where
  /-- The characters read, last one first. -/
  chars : List Char := []
  /-- A high surrogate whose partner must come next. -/
  high : Option Nat := none
  /-- Whether a surrogate was found without its partner. -/
  broken : Bool := false

namespace Contents

/-- Whether a code is the first half of a surrogate pair. -/
def isHigh (code : Nat) : Bool := 0xD800 ≤ code && code < 0xDC00

/-- Whether a code is the second half of a surrogate pair. -/
def isLow (code : Nat) : Bool := 0xDC00 ≤ code && code < 0xE000

def pair (high low : Nat) : Char :=
  Char.ofNat (0x10000 + (high - 0xD800) * 0x400 + (low - 0xDC00))

def push (contents : Contents) (c : Char) : Contents :=
  { chars := c :: contents.chars, broken := contents.broken || contents.high.isSome }

/-- The contents with one more code from a `\u` escape. -/
def pushCode (contents : Contents) (code : Nat) : Contents :=
  match contents.high with
  | some high =>
      if isLow code then { contents with chars := pair high code :: contents.chars, high := none }
      else { contents with high := none, broken := true }
  | none =>
      if isHigh code then { contents with high := some code }
      else if isLow code then { contents with broken := true }
      else contents.push (Char.ofNat code)

def text (contents : Contents) : Text :=
  if contents.broken || contents.high.isSome then none
  else some (String.ofList contents.chars.reverse)

end Contents

def escaped? : Char → Option Char
  | '"' => some '"'
  | '\\' => some '\\'
  | '/' => some '/'
  | 'b' => some '\x08'
  | 'f' => some '\x0c'
  | 'n' => some '\n'
  | 'r' => some '\r'
  | 't' => some '\t'
  | _ => none

end InstrumentLink.Json
