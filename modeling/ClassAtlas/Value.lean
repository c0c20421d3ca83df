import ClassAtlas.Name

/-
  ClassAtlas.Value — the constants of fields and the values of annotation parameters.

  A floating-point number is the pattern of its bits, so a NaN keeps its payload and two
  values are compared by definition, not by the processor. Two questions are asked of a
  pair of values: whether they are the same (`=`), and whether they compare equal
  (`Value.same`), where the two zeros do, a NaN does not even with itself, and an
  annotation is told by its type name alone.
-/

namespace ClassAtlas

/-- A binary floating-point format: `exponent` bits of exponent, `fraction` bits of fraction. -/
structure FloatFormat where
  exponent : Nat
  fraction : Nat
  deriving DecidableEq, Repr

namespace FloatFormat

def single : FloatFormat := ⟨8, 23⟩

def double : FloatFormat := ⟨11, 52⟩

variable (f : FloatFormat)

def fractionOf (bits : Nat) : Nat := bits % Nat.pow 2 f.fraction

def exponentOf (bits : Nat) : Nat := bits / Nat.pow 2 f.fraction % Nat.pow 2 f.exponent

def isNegative (bits : Nat) : Bool := bits / Nat.pow 2 (f.fraction + f.exponent) % 2 == 1

def isSpecial (bits : Nat) : Bool := f.exponentOf bits == Nat.pow 2 f.exponent - 1

def isNaN (bits : Nat) : Bool := f.isSpecial bits && f.fractionOf bits != 0

def isZero (bits : Nat) : Bool := bits % Nat.pow 2 (f.fraction + f.exponent) == 0

/-- IEEE equality of two patterns. -/
def same (a b : Nat) : Bool := !f.isNaN a && !f.isNaN b && (a == b || f.isZero a && f.isZero b)

end FloatFormat

/-- What a field of a class file can be initialised with. -/
inductive Constant where
  | int (v : Int32)
  | long (v : Int64)
  | float (bits : UInt32)
  | double (bits : UInt64)
  | str (s : String)
  deriving DecidableEq, Repr

def Constant.same : Constant → Constant → Bool
  | .int a, .int b => a == b
  | .long a, .long b => a == b
  | .float a, .float b => FloatFormat.single.same a.toNat b.toNat
  | .double a, .double b => FloatFormat.double.same a.toNat b.toNat
  | .str a, .str b => a == b
  | _, _ => false

/-- The same constant, or none in both places. -/
def Constant.sameValue : Option Constant → Option Constant → Bool
  | some a, some b => a.same b
  | none, none => true
  | _, _ => false

mutual

/-- The value of an annotation's parameter. A class literal keeps its descriptor. -/
inductive Value where
  | byte (v : Int8)
  | char (c : Char)
  | short (v : Int16)
  | int (v : Int32)
  | long (v : Int64)
  | float (bits : UInt32)
  | double (bits : UInt64)
  | boolean (b : Bool)
  | str (s : String)
  | enumConstant (typeName constant : String)
  | classLiteral (descriptor : String)
  | nested (a : AnnotationRecord)
  | array (items : List Value)

/-- An annotation as it stands on an element: its type, whether a running program sees it,
    and its parameters in the order written. -/
structure AnnotationRecord where
  name : String
  visible : Bool
  params : List (String × Value)

end

instance : Inhabited Value := ⟨.boolean false⟩

instance : Inhabited AnnotationRecord := ⟨⟨"", false, []⟩⟩

namespace AnnotationRecord

def ofDescriptor (descriptor : String) (visible : Bool) : AnnotationRecord :=
  ⟨Name.ofDescriptor descriptor, visible, []⟩

def named (name : String) : AnnotationRecord := ⟨name, true, []⟩

def push (a : AnnotationRecord) (name : String) (v : Value) : AnnotationRecord :=
  { a with params := a.params ++ [(name, v)] }

/-- The first value given for `name`. -/
def param? (a : AnnotationRecord) (name : String) : Option Value := (a.params.find? (·.1 == name)).map (·.2)

/-- Annotations are told apart by their type alone. -/
def same (a b : AnnotationRecord) : Bool := a.name == b.name

def display (a : AnnotationRecord) : String := "@" ++ a.name

end AnnotationRecord

mutual

def Value.same : Value → Value → Bool
  | .byte a, .byte b => a == b
  | .char a, .char b => a == b
  | .short a, .short b => a == b
  | .int a, .int b => a == b
  | .long a, .long b => a == b
  | .float a, .float b => FloatFormat.single.same a.toNat b.toNat
  | .double a, .double b => FloatFormat.double.same a.toNat b.toNat
  | .boolean a, .boolean b => a == b
  | .str a, .str b => a == b
  | .enumConstant t a, .enumConstant u b => t == u && a == b
  | .classLiteral a, .classLiteral b => a == b
  | .nested a, .nested b => a.same b
  | .array xs, .array ys => sameAll xs ys
  | _, _ => false

def sameAll : List Value → List Value → Bool
  | [], [] => true
  | x :: xs, y :: ys => x.same y && sameAll xs ys
  | _, _ => false

end

end ClassAtlas
