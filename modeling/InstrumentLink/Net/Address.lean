import InstrumentLink.Bytes.Hex

namespace InstrumentLink

inductive IpAddress
  | v4 (a b c d : UInt8)
  /-- Eight groups of sixteen bits. -/
  | v6 (groups : Vector UInt16 8)
deriving DecidableEq, Repr

structure SocketAddress where
  ip : IpAddress
  port : UInt16
deriving DecidableEq, Repr

namespace IpAddress

def isV4 : IpAddress → Bool
  | v4 .. => true
  | v6 _ => false

def dotted (a b c d : UInt8) : String :=
  ".".intercalate ([a, b, c, d].map fun octet => toString octet.toNat)

/-- A number in hexadecimal without leading zeros. -/
def hexText (group : UInt16) : String :=
  String.ofList (Nat.toDigits 16 group.toNat)

/-- How many zero groups stand at the front. -/
def zeroRun (groups : List UInt16) : Nat :=
  (groups.takeWhile (· = 0)).length

/-- The longest run of zero groups from a position on, as position and length; of runs of one
length the first. -/
def longestZeroRun (position : Nat) : List UInt16 → Nat × Nat
  | [] => (position, 0)
  | groups@(_ :: rest) =>
      let later := longestZeroRun (position + 1) rest
      if later.2 ≤ zeroRun groups then (position, zeroRun groups) else later

def colonText (groups : List UInt16) : String :=
  ":".intercalate (groups.map hexText)

/-- The groups of an IPv6 address with the longest run of zeros shortened. -/
def compressed (groups : List UInt16) : String :=
  let (position, length) := longestZeroRun 0 groups
  if 2 ≤ length then
    colonText (groups.take position) ++ "::" ++ colonText (groups.drop (position + length))
  else colonText groups

/-- The IPv4 address that an IPv6 address maps, in the block `::ffff:0:0/96`. -/
def mapped? (groups : Vector UInt16 8) : Option (UInt8 × UInt8 × UInt8 × UInt8) :=
  if groups.toList.take 6 = [0, 0, 0, 0, 0, 0xffff] then
    some ((groups[6] / 256).toUInt8, groups[6].toUInt8, (groups[7] / 256).toUInt8,
      groups[7].toUInt8)
  else none

def text : IpAddress → String
  | v4 a b c d => dotted a b c d
  | v6 groups =>
      match mapped? groups with
      | some (a, b, c, d) => "::ffff:" ++ dotted a b c d
      | none => compressed groups.toList

end IpAddress

/-- The text of an address with its port; colons of the address are kept apart by brackets. -/
def SocketAddress.text (address : SocketAddress) : String :=
  if address.ip.isV4 then address.ip.text ++ ":" ++ toString address.port.toNat
  else "[" ++ address.ip.text ++ "]:" ++ toString address.port.toNat

end InstrumentLink
