/-
  ClassAtlas.Text.Utf8 — UTF-8, read so that every byte string is a text.

  Bytes are read one at a time. Between characters nothing is awaited; after a lead byte
  the reader awaits continuation bytes, and the first of them may lie in a smaller range
  than 80..BF (that is what forbids overlong forms, surrogates and codes past 10FFFF).
  A byte that cannot continue what was begun turns all of that into one U+FFFD and is
  read again as the start of a character; so does the end of the input.
-/

namespace ClassAtlas.Text.Utf8

def replacement : Char := '\uFFFD'

/-- `more` continuation bytes are still to come, the next one between `low` and `high`. -/
structure Awaited where
  more : Nat
  code : Nat
  low : UInt8
  high : UInt8
  deriving DecidableEq, Repr

/-- A byte at the start of a character: the characters it makes, and what it leaves awaited. -/
def start (b : UInt8) : List Char × Option Awaited :=
  if b < 0x80 then ([Char.ofNat b.toNat], none)
  else if b < 0xC2 then ([replacement], none)
  else if b < 0xE0 then ([], some ⟨1, b.toNat - 0xC0, 0x80, 0xBF⟩)
  else if b < 0xF0 then
    ([], some ⟨2, b.toNat - 0xE0, if b = 0xE0 then 0xA0 else 0x80, if b = 0xED then 0x9F else 0xBF⟩)
  else if b < 0xF5 then
    ([], some ⟨3, b.toNat - 0xF0, if b = 0xF0 then 0x90 else 0x80, if b = 0xF4 then 0x8F else 0xBF⟩)
  else ([replacement], none)

def feed (s : Option Awaited) (b : UInt8) : List Char × Option Awaited :=
  match s with
  | none => start b
  | some w =>
    if w.low ≤ b ∧ b ≤ w.high then
      let code := w.code * 64 + (b.toNat - 0x80)
      if w.more ≤ 1 then ([Char.ofNat code], none) else ([], some ⟨w.more - 1, code, 0x80, 0xBF⟩)
    else (replacement :: (start b).1, (start b).2)

def decodeFrom (s : Option Awaited) : List UInt8 → List Char
  | [] => if s.isSome then [replacement] else []
  | b :: bs => (feed s b).1 ++ decodeFrom (feed s b).2 bs

def decode (bytes : List UInt8) : List Char := decodeFrom none bytes

def decodeString (bytes : List UInt8) : String := String.ofList (decode bytes)

def encodeChar (c : Char) : List UInt8 :=
  let n := c.toNat
  let tail (unit : Nat) : UInt8 := UInt8.ofNat (0x80 + n / unit % 64)
  if n < 0x80 then [UInt8.ofNat n]
  else if n < 0x800 then [UInt8.ofNat (0xC0 + n / 0x40), tail 1]
  else if n < 0x10000 then [UInt8.ofNat (0xE0 + n / 0x1000), tail 0x40, tail 1]
  else [UInt8.ofNat (0xF0 + n / 0x40000), tail 0x1000, tail 0x40, tail 1]

def encode (s : List Char) : List UInt8 := s.flatMap encodeChar

end ClassAtlas.Text.Utf8
