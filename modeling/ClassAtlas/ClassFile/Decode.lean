import ClassAtlas.Record

/-
  ClassAtlas.ClassFile.Decode — reading big-endian fields off the front of a byte list.

  A decoder takes the bytes that are left and gives a value and the bytes after it, or
  says why it cannot. It never looks back, and it asks for what it needs: a list that
  ends too early is `unexpectedEnd`, whatever would have been wrong further on.
-/

namespace ClassAtlas

inductive DecodeError where
  | unexpectedEnd
  | badMagic
  | unknownConstant (tag : UInt8)
  | badIndex (index : UInt16)
  | badElementTag (tag : UInt8)
  deriving DecidableEq, Repr

def DecodeError.message : DecodeError → String
  | unexpectedEnd => "unexpected end of class file"
  | badMagic => "invalid class file magic header"
  | unknownConstant t => "unsupported constant pool tag " ++ toString t.toNat
  | badIndex i => "invalid constant pool index " ++ toString i.toNat
  | badElementTag t => "invalid annotation element tag 0x" ++ Digest.hex [t]

abbrev Decode (α : Type) := StateT Bytes (Except DecodeError) α

namespace Decode

def fail {α : Type} (e : DecodeError) : Decode α := fun _ => .error e

def check {α : Type} : Except DecodeError α → Decode α
  | .ok a => pure a
  | .error e => fail e

/-- The next `n` bytes. -/
def take (n : Nat) : Decode Bytes := fun bs =>
  if (bs.take n).length = n then .ok (bs.take n, bs.drop n) else .error .unexpectedEnd

def u1 : Decode UInt8
  | b :: bs => .ok (b, bs)
  | [] => .error .unexpectedEnd

def bigEndian (bs : Bytes) : Nat := bs.foldl (fun n b => n * 256 + b.toNat) 0

def u2 : Decode UInt16 := do return UInt16.ofNat (bigEndian (← take 2))

def u4 : Decode UInt32 := do return UInt32.ofNat (bigEndian (← take 4))

def u8 : Decode UInt64 := do return UInt64.ofNat (bigEndian (← take 8))

/-- `p`, `n` times over. -/
def times {α : Type} (p : Decode α) : Nat → Decode (List α)
  | 0 => pure []
  | n + 1 => do
    let a ← p
    let as ← times p n
    return a :: as

/-- `p` for each of the given things in turn. -/
def each {α β : Type} (p : α → Decode β) : List α → Decode (List β)
  | [] => pure []
  | x :: xs => do
    let b ← p x
    let bs ← each p xs
    return b :: bs

/-- As many as the next two bytes say. -/
def counted {α : Type} (p : Decode α) : Decode (List α) := do
  let n ← u2
  times p n.toNat

/-- Run `p` on a part cut out beforehand; what it leaves of the part is let go. -/
def within {α : Type} (part : Bytes) (p : Decode α) : Decode α := check ((p part).map (·.1))

end Decode

end ClassAtlas
