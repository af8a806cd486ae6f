import InstrumentLink.Net.Address

/-!
# Address literals

A host name may be an address written out. An IPv4 literal has four decimal numbers without
leading zeros. An IPv6 literal has eight groups of up to four hexadecimal digits; `::` stands for
one or more zero groups, at most once, and the last two groups may be an IPv4 literal.
-/

namespace InstrumentLink.IpAddress

/-- The parts of a text between occurrences of a separator. -/
def splitAt (separator : Char) : List Char → List (List Char)
  | [] => [[]]
  | c :: rest =>
      match splitAt separator rest with
      | part :: parts => if c = separator then [] :: part :: parts else (c :: part) :: parts
      | [] => [[c]]

/-- A decimal number below 256 without leading zeros. -/
def octet? (digits : List Char) : Option UInt8 :=
  if digits.all Char.isDigit ∧ 1 ≤ digits.length ∧ digits.length ≤ 3 ∧
      (digits.length = 1 ∨ digits.head? ≠ some '0') ∧ Nat.ofDigitChars 10 digits 0 < 256 then
    some (UInt8.ofNat (Nat.ofDigitChars 10 digits 0))
  else none

def octets? (text : List Char) : Option (UInt8 × UInt8 × UInt8 × UInt8) :=
  match splitAt '.' text with
  | [a, b, c, d] => do
      let a ← octet? a
      let b ← octet? b
      let c ← octet? c
      let d ← octet? d
      return (a, b, c, d)
  | _ => none

def group? (digits : List Char) : Option UInt16 :=
  if 1 ≤ digits.length ∧ digits.length ≤ 4 then
    (digits.mapM Hex.value?).map fun values =>
      UInt16.ofNat (values.foldl (fun value digit => value * 16 + digit) 0)
  else none

def join (high low : UInt8) : UInt16 :=
  high.toUInt16 * 256 + low.toUInt16

/-- The groups of parts between colons; the last part may be an IPv4 literal, where that is
allowed. -/
def groups? (dottedEnd : Bool) : List (List Char) → Option (List UInt16)
  | [] => some []
  | [part] =>
      match group? part with
      | some group => some [group]
      | none =>
          if dottedEnd then (octets? part).map fun (a, b, c, d) => [join a b, join c d] else none
  | part :: parts => do
      let group ← group? part
      let groups ← groups? dottedEnd parts
      return group :: groups

/-- The groups of a text without `::`; the empty text has none. -/
def groupsOfText? (dottedEnd : Bool) (text : List Char) : Option (List UInt16) :=
  if text = [] then some [] else groups? dottedEnd (splitAt ':' text)

/-- The text before and after the first `::`. -/
def splitDoubleColon : List Char → Option (List Char × List Char)
  | ':' :: ':' :: rest => some ([], rest)
  | c :: rest => (splitDoubleColon rest).map fun (front, back) => (c :: front, back)
  | [] => none

/-- The address with exactly eight groups. -/
def ofGroups? (groups : List UInt16) : Option IpAddress :=
  if h : groups.length = 8 then some (.v6 ⟨groups.toArray, by simpa using h⟩) else none

def v6? (text : List Char) : Option IpAddress :=
  match splitDoubleColon text with
  | none => (groupsOfText? true text).bind ofGroups?
  | some (front, back) => do
      let head ← groupsOfText? false front
      let tail ← groupsOfText? true back
      if head.length + tail.length < 8 then
        ofGroups? (head ++ List.replicate (8 - head.length - tail.length) 0 ++ tail)
      else none

def ofText? (text : String) : Option IpAddress :=
  match octets? text.toList with
  | some (a, b, c, d) => some (.v4 a b c d)
  | none => v6? text.toList

end InstrumentLink.IpAddress
