import ClassAtlas.ClassFile.Outline
import ClassAtlas.ClassFile.Pool

/-
  ClassAtlas.ClassFile.Write — from an outline to the bytes of a class file.

  A part is written to bytes while the constants that it numbers are added to the pool.
  Texts and class names are added once and shared; every number and every string is a
  constant of its own. Counts are written as they fit: an outline that has more of
  something than its count can say is not written faithfully.
-/

namespace ClassAtlas.ClassFile

/-! ## Numbers -/

def wordBytes (n : Nat) : Bytes := Digest.bigEndian n 2

def longBytes (n : Nat) : Bytes := Digest.bigEndian n 4

/-- A list behind its count of two bytes. -/
def countedBytes (parts : List Bytes) : Bytes := wordBytes parts.length ++ parts.flatten

/-! ## The pool -/

/-- A constant as it stands in a file. A constant of no concern is never written. -/
def PoolEntry.bytes : PoolEntry → Bytes
  | .utf8 s =>
    let text := Text.Utf8.encode s.toList
    1 :: wordBytes text.length ++ text
  | .integer v => 3 :: longBytes v.toUInt32.toNat
  | .float bits => 4 :: longBytes bits.toNat
  | .long v => 5 :: Digest.bigEndian v.toUInt64.toNat 8
  | .double bits => 6 :: Digest.bigEndian bits.toNat 8
  | .classRef i => 7 :: wordBytes i.toNat
  | .str i => 8 :: wordBytes i.toNat
  | .other => []

/-- The number that the next constant gets. -/
def nextNumber (es : List PoolEntry) : Nat := (es.map PoolEntry.slots).foldl (· + ·) 1

/-- The number of the first constant that equals `e`, counted from `n`. -/
def numberOf? (e : PoolEntry) (n : Nat) : List PoolEntry → Option Nat
  | [] => none
  | f :: fs => if f = e then some n else numberOf? e (n + f.slots) fs

abbrev Write (α : Type) := StateM (List PoolEntry) α

namespace Write

def fresh (e : PoolEntry) : Write UInt16 := fun es => (UInt16.ofNat (nextNumber es), es ++ [e])

def shared (e : PoolEntry) : Write UInt16 := fun es =>
  match numberOf? e 1 es with
  | some n => (UInt16.ofNat n, es)
  | none => fresh e es

def index (p : Write UInt16) : Write Bytes := do return wordBytes (← p).toNat

def text (s : String) : Write Bytes := index (shared (.utf8 s))

def className (s : String) : Write UInt16 := do shared (.classRef (← shared (.utf8 s)))

def constant : Constant → Write UInt16
  | .int v => fresh (.integer v)
  | .long v => fresh (.long v)
  | .float bits => fresh (.float bits)
  | .double bits => fresh (.double bits)
  | .str s => do fresh (.str (← shared (.utf8 s)))

/-- One after the other. -/
def each {α : Type} (p : α → Write Bytes) : List α → Write (List Bytes)
  | [] => pure []
  | x :: xs => do
    let b ← p x
    let bs ← each p xs
    return b :: bs

/-! ## Annotations -/

/-- A tag, and the number of a constant behind it. -/
def tagged (tag : Char) (p : Write UInt16) : Write Bytes := do return UInt8.ofNat tag.toNat :: (← index p)

mutual

def element : Element → Write Bytes
  | .byte v => tagged 'B' (fresh (.integer v.toInt32))
  | .char c => tagged 'C' (fresh (.integer (Int32.ofNat c.toNat)))
  | .short v => tagged 'S' (fresh (.integer v.toInt32))
  | .int v => tagged 'I' (fresh (.integer v))
  | .long v => tagged 'J' (fresh (.long v))
  | .float bits => tagged 'F' (fresh (.float bits))
  | .double bits => tagged 'D' (fresh (.double bits))
  | .boolean b => tagged 'Z' (fresh (.integer (if b then 1 else 0)))
  | .str s => tagged 's' (shared (.utf8 s))
  | .enumConstant t c => do
    let typeName ← tagged 'e' (shared (.utf8 t))
    let name ← text c
    return typeName ++ name
  | .classLiteral d => tagged 'c' (shared (.utf8 d))
  | .nested a => do return UInt8.ofNat '@'.toNat :: (← annotated a)
  | .array items => do return UInt8.ofNat '['.toNat :: countedBytes (← elements items)

def annotated : AnnotationOutline → Write Bytes
  | ⟨descriptor, ps⟩ => do
    let type ← text descriptor
    let bodies ← pairs ps
    return type ++ countedBytes bodies

def elements : List Element → Write (List Bytes)
  | [] => pure []
  | e :: es => do
    let b ← element e
    let bs ← elements es
    return b :: bs

def pairs : List (String × Element) → Write (List Bytes)
  | [] => pure []
  | (name, e) :: ps => do
    let n ← text name
    let b ← element e
    let bs ← pairs ps
    return (n ++ b) :: bs

end

/-! ## Attributes -/

def framed (name : String) (body : Bytes) : Write Bytes := do
  let n ← text name
  return n ++ longBytes body.length ++ body

/-- The attribute that lists annotations, unless there are none. -/
def annotations (name : String) (as : List AnnotationOutline) : Write (List Bytes) :=
  if as.isEmpty then pure [] else do
    let body := countedBytes (← each annotated as)
    return [← framed name body]

/-- An attribute for what may be missing. -/
def optional {α : Type} (name : String) (body : α → Write Bytes) : Option α → Write (List Bytes)
  | none => pure []
  | some a => do
    let b ← body a
    return [← framed name b]

/-- A method's code that only returns. -/
def emptyCode : Bytes := wordBytes 1 ++ wordBytes 1 ++ longBytes 1 ++ [0xB1] ++ wordBytes 0 ++ wordBytes 0

def parameters (ps : List (List AnnotationOutline)) : Write (List Bytes) :=
  if ps.isEmpty then pure [] else do
    let lists ← each (fun as => do return countedBytes (← each annotated as)) ps
    return [← framed "RuntimeVisibleParameterAnnotations" (UInt8.ofNat ps.length :: lists.flatten)]

def member (m : MemberOutline) : Write Bytes := do
  let name ← text m.name
  let descriptor ← text m.descriptor
  let code ← optional "Code" pure (if m.hasCode then some emptyCode else none)
  let signature ← optional "Signature" text m.signature
  let value ← optional "ConstantValue" (fun c => index (constant c)) m.constant
  let exceptions ← optional "Exceptions"
    (fun names => do return countedBytes (← each (fun n => index (className n)) names)) m.exceptions
  let visible ← annotations "RuntimeVisibleAnnotations" m.visible
  let invisible ← annotations "RuntimeInvisibleAnnotations" m.invisible
  let onParameters ← parameters m.parameters
  return wordBytes m.access.bits.toNat ++ name ++ descriptor ++
    countedBytes (code ++ signature ++ value ++ exceptions ++ visible ++ invisible ++ onParameters)

/-- The superclass's number; 0 where there is none. -/
def superclass : Option String → Write Bytes
  | none => pure (wordBytes 0)
  | some s => index (className s)

/-- Everything behind the pool. -/
def body (c : ClassOutline) : Write Bytes := do
  let name ← index (className c.name)
  let super ← superclass c.super
  let interfaces ← each (fun n => index (className n)) c.interfaces
  let fields ← each member c.fields
  let methods ← each member c.methods
  let signature ← optional "Signature" text c.signature
  let visible ← annotations "RuntimeVisibleAnnotations" c.visible
  let invisible ← annotations "RuntimeInvisibleAnnotations" c.invisible
  return wordBytes c.access.bits.toNat ++ name ++ super ++ countedBytes interfaces ++ countedBytes fields ++
    countedBytes methods ++ countedBytes (signature ++ visible ++ invisible)

end Write

/-- The class file of an outline, of version 52.0. -/
def write (c : ClassOutline) : Bytes :=
  let (body, es) := Write.body c []
  longBytes 0xCAFEBABE ++ wordBytes 0 ++ wordBytes 52 ++ wordBytes (nextNumber es) ++ es.flatMap PoolEntry.bytes ++ body

end ClassAtlas.ClassFile
