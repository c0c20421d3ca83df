import ClassAtlas.ClassFile.Basic

/-
  ClassAtlas.ClassFile.Outline — a class to be written: what `Write` puts into a file, and
  the record that a reader of the file should come to.

  Types are named as in a file, with slashes or by descriptor. Visible annotations are
  written before invisible ones, and a method can say that it has code.
-/

namespace ClassAtlas

mutual

/-- A value to be written. An enum constant's type is a descriptor. -/
inductive Element where
  | byte (v : Int8)
  | char (c : Char)
  | short (v : Int16)
  | int (v : Int32)
  | long (v : Int64)
  | float (bits : UInt32)
  | double (bits : UInt64)
  | boolean (b : Bool)
  | str (s : String)
  | enumConstant (typeDescriptor constant : String)
  | classLiteral (descriptor : String)
  | nested (a : AnnotationOutline)
  | array (items : List Element)

structure AnnotationOutline where
  descriptor : String
  pairs : List (String × Element)

end

structure MemberOutline where
  access : Access
  name : String
  descriptor : String
  signature : Option String
  constant : Option Constant
  exceptions : Option (List String)
  visible : List AnnotationOutline
  invisible : List AnnotationOutline
  /-- Visible annotations of each parameter. -/
  parameters : List (List AnnotationOutline)
  hasCode : Bool

structure ClassOutline where
  access : Access
  name : String
  super : Option String
  interfaces : List String
  signature : Option String
  visible : List AnnotationOutline
  invisible : List AnnotationOutline
  fields : List MemberOutline
  methods : List MemberOutline

/-! ## What a reader should come to -/

mutual

def Element.value (visible : Bool) : Element → Value
  | .byte v => .byte v
  | .char c => .char c
  | .short v => .short v
  | .int v => .int v
  | .long v => .long v
  | .float bits => .float bits
  | .double bits => .double bits
  | .boolean b => .boolean b
  | .str s => .str s
  | .enumConstant t c => .enumConstant (Name.ofDescriptor t) c
  | .classLiteral d => .classLiteral d
  | .nested a => .nested (a.toRecord visible)
  | .array items => .array (elementValues visible items)

def AnnotationOutline.toRecord (visible : Bool) : AnnotationOutline → AnnotationRecord
  | ⟨descriptor, pairs⟩ => ⟨Name.ofDescriptor descriptor, visible, pairValues visible pairs⟩

def elementValues (visible : Bool) : List Element → List Value
  | [] => []
  | e :: es => e.value visible :: elementValues visible es

def pairValues (visible : Bool) : List (String × Element) → List (String × Value)
  | [] => []
  | (name, e) :: ps => (name, e.value visible) :: pairValues visible ps

end

/-- The first annotation of each type, the visible ones in front. -/
def outlinedAnnotations (visible invisible : List AnnotationOutline) : List AnnotationRecord :=
  firstOfType (visible.map (·.toRecord true) ++ invisible.map (·.toRecord false))

namespace MemberOutline

def field (m : MemberOutline) (owner : String) : FieldRecord where
  access := m.access
  name := m.name
  descriptor := m.descriptor
  signature := fieldSignature m.name m.descriptor m.signature
  value := m.constant
  declaringClass := owner
  annotations := outlinedAnnotations m.visible m.invisible

def method (m : MemberOutline) (owner : String) : MethodRecord where
  access := m.access
  name := m.name
  descriptor := m.descriptor
  signature := methodSignature m.name m.descriptor m.signature
  exceptions := m.exceptions.map (·.map Name.external)
  declaringClass := owner
  annotations := outlinedAnnotations m.visible m.invisible

end MemberOutline

def ClassOutline.record (c : ClassOutline) (location : String) (bytecode : Option Bytes) : ClassRecord where
  name := Name.external c.name
  superclass := c.super.map Name.external
  interfaces := c.interfaces.map Name.external
  access := c.access
  location := location
  bytecode := bytecode
  fields := c.fields.map (·.field (Name.external c.name))
  methods := c.methods.map (·.method (Name.external c.name))
  annotations := outlinedAnnotations c.visible c.invisible

end ClassAtlas
