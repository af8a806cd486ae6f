import InstrumentLink.Bytes.Hex

/-! # Fingerprints of byte sequences: the 64-bit FNV-1a hash -/

namespace InstrumentLink

def fingerprintStart : UInt64 := 0xcbf29ce484222325

def fingerprintPrime : UInt64 := 0x100000001b3

def fingerprint (bytes : ByteArray) : UInt64 :=
  bytes.foldl (fun hash b => (hash ^^^ b.toUInt64) * fingerprintPrime) fingerprintStart

def fingerprintText (bytes : ByteArray) : String :=
  String.ofList (Hex.fixed 16 (fingerprint bytes).toNat)

end InstrumentLink
