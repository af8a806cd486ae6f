namespace InstrumentLink.Hex

/-- The lower-case digit for a value below sixteen. -/
def digit (n : Nat) : Char :=
  if n < 10 then Char.ofNat ('0'.toNat + n) else Char.ofNat ('a'.toNat + (n - 10))

/-- The value of a digit, in either case. -/
def value? (c : Char) : Option Nat :=
  if '0' ≤ c ∧ c ≤ '9' then some (c.toNat - '0'.toNat)
  else if 'a' ≤ c ∧ c ≤ 'f' then some (c.toNat - 'a'.toNat + 10)
  else if 'A' ≤ c ∧ c ≤ 'F' then some (c.toNat - 'A'.toNat + 10)
  else none

/-- The number written with a fixed count of digits, most significant first. -/
def fixed : Nat → Nat → List Char
  | 0, _ => []
  | count + 1, n => digit (n / 16 ^ count % 16) :: fixed count n

def encode (bytes : ByteArray) : String :=
  bytes.foldl (fun text b => (text.push (digit (b.toNat / 16))).push (digit (b.toNat % 16))) ""

/-- The bytes that a list of digits stands for, after those already read. -/
def decodeAfter (done : ByteArray) : List Char → Option ByteArray
  | [] => some done
  | [_] => none
  | high :: low :: rest =>
      match value? high, value? low with
      | some h, some l => decodeAfter (done.push (UInt8.ofNat (h * 16 + l))) rest
      | _, _ => none

/-- The bytes that a text stands for, if it is a sequence of digit pairs. -/
def decode? (text : String) : Option ByteArray :=
  decodeAfter ByteArray.empty text.toList

end InstrumentLink.Hex
