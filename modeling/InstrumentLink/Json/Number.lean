namespace InstrumentLink.Json

def afterDigits : List Char → Option (List Char)
  | c :: rest => if c.isDigit then some (rest.dropWhile Char.isDigit) else none
  | [] => none

/-- What follows an integer part: a zero, or digits that start with another one. -/
def afterInteger : List Char → Option (List Char)
  | '0' :: rest => some rest
  | cs => afterDigits cs

def afterFraction : List Char → Option (List Char)
  | '.' :: rest => afterDigits rest
  | cs => some cs

def afterExponent : List Char → Option (List Char)
  | c :: rest =>
      if c = 'e' ∨ c = 'E' then
        match rest with
        | '+' :: digits | '-' :: digits => afterDigits digits
        | digits => afterDigits digits
      else some (c :: rest)
  | [] => some []

def afterMinus : List Char → List Char
  | '-' :: rest => rest
  | cs => cs

def isNumber (cs : List Char) : Bool :=
  (((afterInteger (afterMinus cs)).bind afterFraction).bind afterExponent) == some []

/-- Whether the characters are the plain decimal form of a natural number. -/
def isNatural : List Char → Bool
  | [] => false
  | ['0'] => true
  | c :: rest => c != '0' && (c :: rest).all Char.isDigit

/-- The natural number that a literal writes in plain decimal form. -/
def natural? (literal : String) : Option Nat :=
  if isNatural literal.toList then some (Nat.ofDigitChars 10 literal.toList 0) else none

/-- The natural number below a bound that a literal writes in plain decimal form. -/
def naturalBelow? (bound : Nat) (literal : String) : Option Nat :=
  (natural? literal).filter (· < bound)

end InstrumentLink.Json
