import ClassAtlas.ClassFile.Decode
import ClassAtlas.Text.Utf8

/-
  ClassAtlas.ClassFile.Pool — the constant pool.

  The constants stand one after another in the file and are numbered from 1. A long and a
  double take two numbers, and nothing is found under the second; nothing is found under 0
  either. A count is declared in front: constants are read until their numbers reach it, so
  a long at the very end may take one number more than was declared.
-/

namespace ClassAtlas.ClassFile

inductive PoolEntry where
  | utf8 (text : String)
  | integer (v : Int32)
  | float (bits : UInt32)
  | long (v : Int64)
  | double (bits : UInt64)
  | classRef (nameIndex : UInt16)
  | str (textIndex : UInt16)
  /-- A constant of a kind that no metadata needs. -/
  | other
  deriving DecidableEq, Repr

namespace PoolEntry

def isWide : PoolEntry → Bool
  | long _ => true
  | double _ => true
  | _ => false

/-- How many numbers the constant takes. -/
def slots (e : PoolEntry) : Nat := if e.isWide then 2 else 1

/-- What stands behind a tag byte. -/
def ofTag (tag : UInt8) : Decode PoolEntry :=
  match tag.toNat with
  | 1 => do
    let length ← Decode.u2
    let bytes ← Decode.take length.toNat
    return .utf8 (Text.Utf8.decodeString bytes)
  | 3 => do return .integer (← Decode.u4).toInt32
  | 4 => do return .float (← Decode.u4)
  | 5 => do return .long (← Decode.u8).toInt64
  | 6 => do return .double (← Decode.u8)
  | 7 => do return .classRef (← Decode.u2)
  | 8 => do return .str (← Decode.u2)
  | 9 | 10 | 11 | 12 | 17 | 18 => do
    let _ ← Decode.take 4
    return .other
  | 15 => do
    let _ ← Decode.take 3
    return .other
  | 16 | 19 | 20 => do
    let _ ← Decode.take 2
    return .other
  | _ => Decode.fail (.unknownConstant tag)

def read : Decode PoolEntry := do
  let tag ← Decode.u1
  ofTag tag

/-- Constants that together take `n` numbers, or one more. -/
def readSlots : Nat → Decode (List PoolEntry)
  | 0 => pure []
  | 1 => do
    let e ← read
    return [e]
  | n + 2 => do
    let e ← read
    let es ← if e.isWide then readSlots n else readSlots (n + 1)
    return e :: es

end PoolEntry

/-- The constants by number; `none` is a number that holds nothing. -/
structure Pool where
  slots : Array (Option PoolEntry)
  deriving Repr

namespace Pool

def ofEntries (es : List PoolEntry) : Pool :=
  ⟨(none :: es.flatMap fun e => if e.isWide then [some e, none] else [some e]).toArray⟩

def read : Decode Pool := do
  let count ← Decode.u2
  let es ← PoolEntry.readSlots (count.toNat - 1)
  return ofEntries es

variable (pool : Pool)

def entry? (index : UInt16) : Option PoolEntry := (pool.slots[index.toNat]?).join

def text (index : UInt16) : Except DecodeError String :=
  match pool.entry? index with
  | some (.utf8 s) => .ok s
  | _ => .error (.badIndex index)

def className (index : UInt16) : Except DecodeError String :=
  match pool.entry? index with
  | some (.classRef nameIndex) => pool.text nameIndex
  | _ => .error (.badIndex index)

def integer (index : UInt16) : Except DecodeError Int32 :=
  match pool.entry? index with
  | some (.integer v) => .ok v
  | _ => .error (.badIndex index)

/-- The constant that a field can be initialised with. A number in range may hold nothing of
    the sort, which is no error; a string's text has to be there. -/
def constant (index : UInt16) : Except DecodeError (Option Constant) :=
  match pool.slots[index.toNat]? with
  | none => .error (.badIndex index)
  | some (some (.integer v)) => .ok (some (.int v))
  | some (some (.float bits)) => .ok (some (.float bits))
  | some (some (.long v)) => .ok (some (.long v))
  | some (some (.double bits)) => .ok (some (.double bits))
  | some (some (.str textIndex)) => (pool.text textIndex).map fun s => some (.str s)
  | some _ => .ok none

end Pool

end ClassAtlas.ClassFile
