import ClassAtlas.Assembly
import ClassAtlas.ClassFile.Basic
import ClassAtlas.ClassFile.Pool

/-
  ClassAtlas.ClassFile.Read — from bytes to a class file, and on to a record.

  A class file is a magic word, a version, the constant pool, the class's own words, its
  fields, its methods and a table of attributes; each member has such a table too. Of the
  attributes seven are known by name. The others are skipped by their length, and so is
  whatever a known one leaves of its body.

  The values of annotations nest. A reader of values gets a depth, and each level of
  nesting takes one off. At depth 0 there is nothing left to read: a value takes at least
  one byte, so a body of `n` bytes never nests deeper than `n`.
-/

namespace ClassAtlas.ClassFile

open Decode

/-! ## Words that number a constant -/

def textAt (pool : Pool) : Decode String := do check (pool.text (← u2))

def classNameAt (pool : Pool) : Decode String := do check (pool.className (← u2))

def integerAt (pool : Pool) : Decode Int32 := do check (pool.integer (← u2))

def constantAt (pool : Pool) : Decode (Option Constant) := do check (pool.constant (← u2))

/-! ## Annotations -/

/-- A name/value pair of an annotation, given the reader of one value. -/
def readPair (pool : Pool) (value : Decode Value) : Decode (String × Value) := do
  let name ← textAt pool
  let v ← value
  return (name, v)

def readRaw (pool : Pool) (visible : Bool) (value : Decode Value) : Decode AnnotationInfo := do
  let descriptor ← textAt pool
  let pairs ← counted (readPair pool value)
  return ⟨descriptor, visible, pairs⟩

/-- The character with that code; a code that is none gives U+FFFD. -/
def charOfCode (v : Int32) : Char :=
  let n := v.toUInt32.toNat
  if n.isValidChar then Char.ofNat n else Text.Utf8.replacement

/-- A number's tag asks for a wide or a floating constant and takes whichever is there. -/
def numberValue (tag : UInt8) : Option Constant → Except DecodeError Value
  | some (.long v) => .ok (.long v)
  | some (.float bits) => .ok (.float bits)
  | some (.double bits) => .ok (.double bits)
  | _ => .error (.badElementTag tag)

/-- A value with its tag; a nested annotation is seen where the outer one is. -/
def readValue (pool : Pool) (visible : Bool) : Nat → Decode Value
  | 0 => fail .unexpectedEnd
  | depth + 1 => do
    let tag ← u1
    match Char.ofNat tag.toNat with
    | 'B' => do return .byte (← integerAt pool).toInt8
    | 'C' => do return .char (charOfCode (← integerAt pool))
    | 'S' => do return .short (← integerAt pool).toInt16
    | 'Z' => do return .boolean ((← integerAt pool) != 0)
    | 'I' => do return .int (← integerAt pool)
    | 'J' | 'F' | 'D' => do
      let c ← constantAt pool
      check (numberValue tag c)
    | 's' => do return .str (← textAt pool)
    | 'e' => do
      let typeName ← textAt pool
      let constant ← textAt pool
      return .enumConstant (Name.ofDescriptor typeName) constant
    | 'c' => do return .classLiteral (← textAt pool)
    | '@' => do
      let raw ← readRaw pool visible (readValue pool visible depth)
      return .nested raw.toRecord
    | '[' => do
      let items ← counted (readValue pool visible depth)
      return .array items
    | _ => fail (.badElementTag tag)

/-- An annotation, from the front of a body or part of a body. -/
def readAnnotated (pool : Pool) (visible : Bool) : Decode AnnotationInfo := fun bs =>
  readRaw pool visible (readValue pool visible bs.length) bs

/-! ## Attributes -/

inductive Attribute where
  | signature (s : String)
  | constant (c : Option Constant)
  | exceptions (names : List String)
  | annotations (as : List AnnotationInfo)
  | parameterAnnotations (as : List (UInt8 × AnnotationInfo))
  | skipped

def Attributes.none : Attributes := ⟨Option.none, Option.none, Option.none, [], []⟩

/-- One attribute more: a single answer is replaced, annotations are added. -/
def Attributes.add (a : Attributes) : Attribute → Attributes
  | .signature s => { a with signature := some s }
  | .constant c => { a with constant := c }
  | .exceptions names => { a with exceptions := some names }
  | .annotations as => { a with annotations := a.annotations ++ as }
  | .parameterAnnotations as => { a with parameterAnnotations := a.parameterAnnotations ++ as }
  | .skipped => a

def readParameters (pool : Pool) (visible : Bool) : Decode (List (UInt8 × AnnotationInfo)) := do
  let n ← u1
  let perParameter ← each (fun i => do
    let as ← counted (readAnnotated pool visible)
    return as.map fun a => (UInt8.ofNat i, a)) (List.range n.toNat)
  return perParameter.flatten

/-- What an attribute of that name says in its body. -/
def readBody (pool : Pool) : String → Decode Attribute
  | "Signature" => do return .signature (← textAt pool)
  | "ConstantValue" => do return .constant (← constantAt pool)
  | "Exceptions" => do
    let names ← counted (classNameAt pool)
    return .exceptions names
  | "RuntimeVisibleAnnotations" => do return .annotations (← counted (readAnnotated pool true))
  | "RuntimeInvisibleAnnotations" => do return .annotations (← counted (readAnnotated pool false))
  | "RuntimeVisibleParameterAnnotations" => do return .parameterAnnotations (← readParameters pool true)
  | "RuntimeInvisibleParameterAnnotations" => do return .parameterAnnotations (← readParameters pool false)
  | _ => return .skipped

def readAttribute (pool : Pool) : Decode Attribute := do
  let name ← textAt pool
  let length ← u4
  let body ← take length.toNat
  within body (readBody pool name)

def readAttributes (pool : Pool) : Decode Attributes := do
  let as ← counted (readAttribute pool)
  return as.foldl Attributes.add Attributes.none

/-! ## Members and the class -/

def readMember (pool : Pool) : Decode MemberInfo := do
  let access ← u2
  let name ← textAt pool
  let descriptor ← textAt pool
  let attributes ← readAttributes pool
  return ⟨⟨access⟩, name, descriptor, attributes⟩

/-- Number 0 stands for no superclass. -/
def readSuper (pool : Pool) (index : UInt16) : Except DecodeError (Option String) :=
  if index = 0 then .ok none else (pool.className index).map some

def magic : UInt32 := 0xCAFEBABE

def readMagic : Decode Unit := do
  let m ← u4
  if m = magic then pure () else fail .badMagic

/-- Everything behind the pool. -/
def readRest (version : ClassVersion) (pool : Pool) : Decode ClassFile := do
  let access ← u2
  let thisIndex ← u2
  let superIndex ← u2
  let name ← check (pool.className thisIndex)
  let super ← check (readSuper pool superIndex)
  let interfaces ← counted (classNameAt pool)
  let fields ← counted (readMember pool)
  let methods ← counted (readMember pool)
  let attributes ← readAttributes pool
  return ⟨version, ⟨access⟩, name, super, interfaces, fields, methods, attributes⟩

def read : Decode ClassFile := do
  readMagic
  let minor ← u2
  let major ← u2
  let pool ← Pool.read
  readRest ⟨major, minor⟩ pool

/-- The class file at the front of the bytes. -/
def parse (bytes : Bytes) : Except DecodeError ClassFile := (read bytes).map (·.1)

end ClassFile

/-! ## One unit -/

/-- Why a unit gave no record. -/
inductive UnitError (ε : Type) where
  | malformed (e : DecodeError)
  | refused (e : ε)
  deriving Repr

/-- Tell the class in `bytes` to a receiver: its last state, and the version or the error. -/
def readClass {σ ε : Type} (receive : σ → Event → Except ε σ) (s : σ) (bytes : Bytes) :
    σ × Except (UnitError ε) ClassVersion :=
  match ClassFile.parse bytes with
  | .error e => (s, .error (.malformed e))
  | .ok c =>
    match deliver receive s c.events with
    | (s', none) => (s', .ok c.version)
    | (s', some e) => (s', .error (.refused e))

/-- The record of the class in `bytes`, found at `location`; it keeps the bytes if `retain` is set. -/
def decodeUnit (location : String) (retain : Bool) (bytes : Bytes) :
    Except (UnitError AssemblyError) (ClassVersion × ClassRecord) :=
  match readClass Assembly.receive (Assembly.start location (if retain then some bytes else none)) bytes with
  | (_, .error e) => .error e
  | (s, .ok version) =>
    match s.result with
    | .ok record => .ok (version, record)
    | .error e => .error (.refused e)

end ClassAtlas
