import ClassAtlas.Event

/-
  ClassAtlas.ClassFile.Basic — what a class file says, and the two ways to tell it.

  `ClassFile.events` tells it as a stream; `ClassFile.record` writes the record down at once.
  Both keep the order of the file. Names of types still have their slashes.
-/

namespace ClassAtlas

structure AnnotationInfo where
  descriptor : String
  visible : Bool
  pairs : List (String × Value)
  deriving Inhabited

/-- What the attributes of one element say; of attributes that allow one answer, the last one's. -/
structure Attributes where
  signature : Option String
  constant : Option Constant
  exceptions : Option (List String)
  annotations : List AnnotationInfo
  parameterAnnotations : List (UInt8 × AnnotationInfo)
  deriving Inhabited

structure MemberInfo where
  access : Access
  name : String
  descriptor : String
  attributes : Attributes
  deriving Inhabited

structure ClassVersion where
  major : UInt16
  minor : UInt16
  deriving DecidableEq, Repr

structure ClassFile where
  version : ClassVersion
  access : Access
  name : String
  super : Option String
  interfaces : List String
  fields : List MemberInfo
  methods : List MemberInfo
  attributes : Attributes

/-! ## As a stream -/

namespace AnnotationInfo

def closing (a : AnnotationInfo) : List Event := a.pairs.map (fun p => .value p.1 p.2) ++ [.finish]

def events (a : AnnotationInfo) : List Event := .annotationStart a.descriptor a.visible :: a.closing

def eventsOn (index : UInt8) (a : AnnotationInfo) : List Event :=
  .parameterStart index a.descriptor a.visible :: a.closing

def toRecord (a : AnnotationInfo) : AnnotationRecord := ⟨Name.ofDescriptor a.descriptor, a.visible, a.pairs⟩

end AnnotationInfo

namespace MemberInfo

def fieldEvents (m : MemberInfo) : List Event :=
  .field m.access m.name m.descriptor m.attributes.signature m.attributes.constant ::
    (m.attributes.annotations.flatMap AnnotationInfo.events ++ [.finish])

def methodEvents (m : MemberInfo) : List Event :=
  .method m.access m.name m.descriptor m.attributes.signature m.attributes.exceptions ::
    (m.attributes.annotations.flatMap AnnotationInfo.events ++
      m.attributes.parameterAnnotations.flatMap (fun p => AnnotationInfo.eventsOn p.1 p.2) ++ [.finish])

end MemberInfo

namespace ClassFile

def events (c : ClassFile) : List Event :=
  .header c.access c.name c.super c.interfaces ::
    (c.attributes.annotations.flatMap AnnotationInfo.events ++ c.fields.flatMap MemberInfo.fieldEvents ++
      c.methods.flatMap MemberInfo.methodEvents ++ [.finish])

end ClassFile

/-! ## As a record -/

/-- The first annotation of each type. -/
def firstOfType : List AnnotationRecord → List AnnotationRecord
  | [] => []
  | a :: as => a :: (firstOfType as).filter (·.name ≠ a.name)

def Attributes.attached (a : Attributes) : List AnnotationRecord :=
  firstOfType (a.annotations.map AnnotationInfo.toRecord)

def MemberInfo.field (m : MemberInfo) (owner : String) : FieldRecord where
  access := m.access
  name := m.name
  descriptor := m.descriptor
  signature := fieldSignature m.name m.descriptor m.attributes.signature
  value := m.attributes.constant
  declaringClass := owner
  annotations := m.attributes.attached

def MemberInfo.method (m : MemberInfo) (owner : String) : MethodRecord where
  access := m.access
  name := m.name
  descriptor := m.descriptor
  signature := methodSignature m.name m.descriptor m.attributes.signature
  exceptions := m.attributes.exceptions.map (·.map Name.external)
  declaringClass := owner
  annotations := m.attributes.attached

def ClassFile.record (c : ClassFile) (location : String) (bytecode : Option Bytes) : ClassRecord where
  name := Name.external c.name
  superclass := c.super.map Name.external
  interfaces := c.interfaces.map Name.external
  access := c.access
  location := location
  bytecode := bytecode
  fields := c.fields.map (·.field (Name.external c.name))
  methods := c.methods.map (·.method (Name.external c.name))
  annotations := c.attributes.attached

end ClassAtlas
