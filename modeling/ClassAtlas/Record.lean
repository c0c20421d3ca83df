import ClassAtlas.Access
import ClassAtlas.Digest
import ClassAtlas.Path
import ClassAtlas.Value

/-
  ClassAtlas.Record — what is known of one class.

  A class owns its fields, its methods and its annotations; each member names the class
  that declares it. Members are only ever added, so the number that `addField` and
  `addMethod` hand out keeps meaning the same member. An element holds at most one
  annotation of a type: the first one attached stays, whatever the later ones say.
-/

namespace ClassAtlas

abbrev Bytes := List UInt8

structure FieldRecord where
  access : Access
  name : String
  descriptor : String
  signature : String
  value : Option Constant
  declaringClass : String
  annotations : List AnnotationRecord
  deriving Inhabited

structure MethodRecord where
  access : Access
  name : String
  descriptor : String
  signature : String
  exceptions : Option (List String)
  declaringClass : String
  annotations : List AnnotationRecord
  deriving Inhabited

structure ClassRecord where
  name : String
  superclass : Option String
  interfaces : List String
  access : Access
  location : String
  bytecode : Option Bytes
  fields : List FieldRecord
  methods : List MethodRecord
  annotations : List AnnotationRecord
  deriving Inhabited

/-! ## Annotations of an element -/

/-- `as` with `a` at its end, unless one of that type is there. -/
def attach (as : List AnnotationRecord) (a : AnnotationRecord) : List AnnotationRecord :=
  if as.any (·.same a) then as else as ++ [a]

def isPresent (as : List AnnotationRecord) (name : String) : Bool := as.any (·.name == name)

/-! ## Members -/

/-- A field without a signature of its own is signed by descriptor and name. -/
def fieldSignature (name descriptor : String) (given : Option String) : String :=
  given.getD (descriptor ++ " " ++ name)

/-- A signature that begins with its parameters gets the method's name in front; any other
    stands as it is; none at all gives name and descriptor. -/
def methodSignature (name descriptor : String) : Option String → String
  | some s => if s.toList.head? = some '(' then name ++ s else s
  | none => name ++ descriptor

namespace FieldRecord

/-- Fields are told apart by signature and declaring class. -/
def same (a b : FieldRecord) : Bool := a.signature == b.signature && a.declaringClass == b.declaringClass

def annotate (f : FieldRecord) (a : AnnotationRecord) : FieldRecord := { f with annotations := attach f.annotations a }

/-- A field as `owner` declares it, with no annotations so far. -/
def declared (owner : String) (access : Access) (name descriptor : String) (signature : Option String)
    (value : Option Constant) : FieldRecord :=
  ⟨access, name, descriptor, fieldSignature name descriptor signature, value, owner, []⟩

def display (f : FieldRecord) : String := f.declaringClass ++ "." ++ f.name

end FieldRecord

namespace MethodRecord

def same (a b : MethodRecord) : Bool := a.signature == b.signature && a.declaringClass == b.declaringClass

/-- By signature, then by declaring class, each by its code points. -/
def order (a b : MethodRecord) : Ordering :=
  (compareOfLessAndEq a.signature b.signature).then (compareOfLessAndEq a.declaringClass b.declaringClass)

def annotate (m : MethodRecord) (a : AnnotationRecord) : MethodRecord :=
  { m with annotations := attach m.annotations a }

def declared (owner : String) (access : Access) (name descriptor : String) (signature : Option String)
    (exceptions : Option (List String)) : MethodRecord :=
  ⟨access, name, descriptor, methodSignature name descriptor signature, exceptions.map (·.map Name.external), owner, []⟩

def display (m : MethodRecord) : String := m.declaringClass ++ "." ++ m.signature

/-- Equal methods keep the order in which they were declared. -/
def sorted (ms : List MethodRecord) : List MethodRecord := ms.mergeSort fun a b => (a.order b).isLE

end MethodRecord

/-! ## Classes -/

/-- A member of a class, by its place among the fields or the methods. -/
inductive Member where
  | field (i : Nat)
  | method (i : Nat)
  deriving DecidableEq, Repr

namespace ClassRecord

/-- A class without members; the names come with slashes. -/
def new (access : Access) (name : String) (super : Option String) (interfaces : List String)
    (location : String) : ClassRecord where
  name := Name.external name
  superclass := super.map Name.external
  interfaces := interfaces.map Name.external
  access := access
  location := location
  bytecode := none
  fields := []
  methods := []
  annotations := []

def addField (c : ClassRecord) (access : Access) (name descriptor : String) (signature : Option String)
    (value : Option Constant) : ClassRecord :=
  { c with fields := c.fields ++ [.declared c.name access name descriptor signature value] }

def addMethod (c : ClassRecord) (access : Access) (name descriptor : String) (signature : Option String)
    (exceptions : Option (List String)) : ClassRecord :=
  { c with methods := c.methods ++ [.declared c.name access name descriptor signature exceptions] }

/-- The element is the class itself or a member that is there. -/
def Has (c : ClassRecord) : Option Member → Prop
  | none => True
  | some (.field i) => i < c.fields.length
  | some (.method i) => i < c.methods.length

instance (c : ClassRecord) : (element : Option Member) → Decidable (c.Has element)
  | none => inferInstanceAs (Decidable True)
  | some (.field i) => inferInstanceAs (Decidable (i < c.fields.length))
  | some (.method i) => inferInstanceAs (Decidable (i < c.methods.length))

/-- Attach `a` to the class itself or to one of its members. -/
def annotate (c : ClassRecord) (a : AnnotationRecord) : Option Member → ClassRecord
  | none => { c with annotations := attach c.annotations a }
  | some (.field i) => { c with fields := c.fields.modify i (·.annotate a) }
  | some (.method i) => { c with methods := c.methods.modify i (·.annotate a) }

/-- The annotations of the class itself or of a member; none where there is no such member. -/
def annotationsOf (c : ClassRecord) : Option Member → List AnnotationRecord
  | none => c.annotations
  | some (.field i) => (c.fields[i]?.map (·.annotations)).getD []
  | some (.method i) => (c.methods[i]?.map (·.annotations)).getD []

/-- Replace the annotation at place `k` of an element by what `g` makes of it. -/
def modifyAnnotationAt (c : ClassRecord) (k : Nat) (g : AnnotationRecord → AnnotationRecord) :
    Option Member → ClassRecord
  | none => { c with annotations := c.annotations.modify k g }
  | some (.field i) =>
    { c with fields := c.fields.modify i fun f => { f with annotations := f.annotations.modify k g } }
  | some (.method i) =>
    { c with methods := c.methods.modify i fun m => { m with annotations := m.annotations.modify k g } }

def isAnnotated (c : ClassRecord) (name : String) : Bool := isPresent c.annotations name

def memberIsAnnotated (c : ClassRecord) (name : String) : Bool :=
  c.fields.any (isPresent ·.annotations name) || c.methods.any (isPresent ·.annotations name)

def annotationNamed? (c : ClassRecord) (name : String) : Option AnnotationRecord := c.annotations.find? (·.name == name)

def field? (c : ClassRecord) (name : String) : Option FieldRecord := c.fields.find? (·.name == name)

def methodsNamed (c : ClassRecord) (name : String) : List MethodRecord := c.methods.filter (·.name == name)

/-- Two classes compare equal when all that is kept of them does, members and annotations by
    their own comparison and locations as paths. -/
def same (a b : ClassRecord) : Bool :=
  a.name == b.name && a.superclass == b.superclass && a.interfaces == b.interfaces && a.access == b.access &&
    Path.same a.location b.location && a.bytecode == b.bytecode &&
    a.fields.isEqv b.fields FieldRecord.same && a.methods.isEqv b.methods MethodRecord.same &&
    a.annotations.isEqv b.annotations AnnotationRecord.same

def package (c : ClassRecord) : String := Name.package c.name

def simpleName (c : ClassRecord) : String := Name.simple c.name

def supertypes (c : ClassRecord) : List String := c.superclass.toList ++ c.interfaces

def retain (c : ClassRecord) (bytes : Bytes) : ClassRecord := { c with bytecode := some bytes }

/-- The SHA-256 of the retained bytes, in hexadecimal. -/
def digest? (c : ClassRecord) : Option String := c.bytecode.map fun b => Digest.hex (Digest.sha256 b)

end ClassRecord

end ClassAtlas
