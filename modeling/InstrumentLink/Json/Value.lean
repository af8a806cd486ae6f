/-!
# JSON values

A value keeps what its text says and no more: a number is its literal, and an object is the list
of its members in order, with repeated keys.
-/

namespace InstrumentLink.Json

/-- The contents of a string. A string whose escapes name half of a surrogate pair is well formed
but denotes no text. -/
abbrev Text := Option String

inductive Value
  | null
  | bool (b : Bool)
  | number (literal : String)
  | string (text : Text)
  | array (items : List Value)
  | object (members : List (Text × Value))
deriving Inhabited, Repr

namespace Value

def text? : Value → Option String
  | string text => text
  | _ => none

def bool? : Value → Option Bool
  | bool b => some b
  | _ => none

end Value

end InstrumentLink.Json
