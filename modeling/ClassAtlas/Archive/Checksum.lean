import ClassAtlas.Record

/-
  ClassAtlas.Archive.Checksum — CRC-32, as archives use it (ISO 3309).

  Bits are taken from the low end of each byte; the register starts with ones and is
  turned over at the end.
-/

namespace ClassAtlas.Archive.Checksum

/-- The generator polynomial, its bits from high to low powers reversed. -/
def polynomial : UInt32 := 0xEDB88320

def shift (r : UInt32) : UInt32 := if r &&& 1 = 1 then (r >>> 1) ^^^ polynomial else r >>> 1

/-- What eight shifts make of the lowest byte of the register. -/
def tableEntry (n : Nat) : UInt32 := (List.range 8).foldl (fun r _ => shift r) (UInt32.ofNat n)

def table : Array UInt32 := ((List.range 256).map tableEntry).toArray

def feed (r : UInt32) (b : UInt8) : UInt32 :=
  ((table[((r ^^^ b.toUInt32) &&& 0xFF).toNat]?).getD 0) ^^^ (r >>> 8)

def crc32 (bytes : Bytes) : UInt32 := (bytes.foldl feed 0xFFFFFFFF) ^^^ 0xFFFFFFFF

end ClassAtlas.Archive.Checksum
