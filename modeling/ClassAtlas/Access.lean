/-
  ClassAtlas.Access — the access word of a class, field or method.

  Sixteen flag bits, of which some mean one thing on a class and another on a method
  (0x0020 is "super" there and "synchronized" here). Only the bits with one meaning
  have a keyword. A query names bits by `Modifier`; a set of modifiers is one mask,
  and an access word carries any or all of it.
-/

namespace ClassAtlas

structure Access where
  bits : UInt16
  deriving DecidableEq, Repr, Inhabited

namespace Access

def isPublic : UInt16 := 0x0001
def isPrivate : UInt16 := 0x0002
def isProtected : UInt16 := 0x0004
def isStatic : UInt16 := 0x0008
def isFinal : UInt16 := 0x0010
def isNative : UInt16 := 0x0100
def isInterface : UInt16 := 0x0200
def isAbstract : UInt16 := 0x0400
def isSynthetic : UInt16 := 0x1000
def isAnnotationType : UInt16 := 0x2000
def isEnum : UInt16 := 0x4000

def hasAll (a : Access) (mask : UInt16) : Bool := a.bits &&& mask == mask

def hasAny (a : Access) (mask : UInt16) : Bool := a.bits &&& mask != 0

/-- The bits with one meaning, in the order in which a declaration spells them. -/
def spelled : List (UInt16 × String) :=
  [(isPublic, "public"), (isPrivate, "private"), (isProtected, "protected"), (isStatic, "static"), (isFinal, "final"),
   (isAbstract, "abstract"), (isNative, "native"), (isSynthetic, "synthetic"), (isEnum, "enum")]

def keywords (a : Access) : List String := (spelled.filter fun f => a.hasAny f.1).map (·.2)

end Access

inductive ClassKind where
  | annotationType
  | interfaceType
  | enumType
  | plain
  deriving DecidableEq, Repr

namespace ClassKind

def keyword : ClassKind → String
  | annotationType => "@interface"
  | interfaceType => "interface"
  | enumType => "enum"
  | plain => "class"

end ClassKind

/-- An annotation type is an interface too, so its own bit is asked first. -/
def Access.kind (a : Access) : ClassKind :=
  if a.hasAny isAnnotationType then .annotationType
  else if a.hasAny isInterface then .interfaceType
  else if a.hasAny isEnum then .enumType
  else .plain

/-- What a query can ask of an access word. -/
inductive Modifier where
  | publicBit
  | privateBit
  | protectedBit
  | staticBit
  | finalBit
  | abstractBit
  | interfaceBit
  | annotationBit
  | enumBit
  | syntheticBit
  deriving DecidableEq, Repr

namespace Modifier

def all : List Modifier :=
  [publicBit, privateBit, protectedBit, staticBit, finalBit, abstractBit, interfaceBit, annotationBit,
    enumBit, syntheticBit]

def name : Modifier → String
  | publicBit => "public"
  | privateBit => "private"
  | protectedBit => "protected"
  | staticBit => "static"
  | finalBit => "final"
  | abstractBit => "abstract"
  | interfaceBit => "interface"
  | annotationBit => "annotation"
  | enumBit => "enum"
  | syntheticBit => "synthetic"

def flag : Modifier → UInt16
  | publicBit => Access.isPublic
  | privateBit => Access.isPrivate
  | protectedBit => Access.isProtected
  | staticBit => Access.isStatic
  | finalBit => Access.isFinal
  | abstractBit => Access.isAbstract
  | interfaceBit => Access.isInterface
  | annotationBit => Access.isAnnotationType
  | enumBit => Access.isEnum
  | syntheticBit => Access.isSynthetic

def mask (ms : List Modifier) : UInt16 := ms.foldl (fun acc m => acc ||| m.flag) 0

/-- The modifier of that name; `ignoreCase` also takes ASCII letters of the other case. -/
def ofName? (ignoreCase : Bool) (text : String) : Option Modifier :=
  let fold (s : String) : String := if ignoreCase then s.map Char.toLower else s
  all.find? fun m => fold m.name == fold text

end Modifier

end ClassAtlas
