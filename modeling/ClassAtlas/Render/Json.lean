import ClassAtlas.Record
import ClassAtlas.Text.Decimal

/-
  ClassAtlas.Render.Json — JSON documents and their two layouts.

  A document keeps its fields in the order given. On one line there is no blank in it; on
  several, each item has a line of its own, indented by two spaces more than what it is in.
  A number that is not finite has no JSON form and is written as null.
-/

namespace ClassAtlas.Render

inductive Json where
  | null
  | bool (b : Bool)
  | int (n : Int)
  | float (bits : UInt32)
  | double (bits : UInt64)
  | str (s : String)
  | arr (items : List Json)
  | obj (fields : List (String × Json))

namespace Json

/-- Single-precision numbers are written without an exponent from `1e-6` to below `1e13`. -/
def singleLayout : Text.Layout := ⟨some (-6, 12), true, .toEven, "null", "null"⟩

/-- Double-precision numbers are written without an exponent from `1e-5` to below `1e16`. -/
def doubleLayout : Text.Layout := ⟨some (-5, 15), true, .toEven, "null", "null"⟩

def number (l : Text.Layout) (f : FloatFormat) (bits : Nat) : String :=
  if f.isSpecial bits then "null" else l.write f bits

def escape (c : Char) : List Char :=
  if c = '"' then ['\\', '"']
  else if c = '\\' then ['\\', '\\']
  else if c = '\n' then ['\\', 'n']
  else if c = '\r' then ['\\', 'r']
  else if c = '\t' then ['\\', 't']
  else if c.toNat = 8 then ['\\', 'b']
  else if c.toNat = 12 then ['\\', 'f']
  else if c.toNat < 0x20 then ['\\', 'u', '0', '0', if c.toNat < 16 then '0' else '1', Nat.digitChar (c.toNat % 16)]
  else [c]

def quote (s : String) : String := String.ofList ('"' :: (s.toList.flatMap escape ++ ['"']))

def ofOption {α : Type} (f : α → Json) : Option α → Json
  | none => null
  | some a => f a

def strings (ss : List String) : Json := arr (ss.map str)

/-- Items between brackets, each on a line of its own at the given indentation. -/
def block (left right : String) (indent : Nat) (items : List String) : String :=
  match items with
  | [] => left ++ right
  | items =>
    let margin (n : Nat) : String := "\n" ++ String.ofList (List.replicate (2 * n) ' ')
    left ++ String.intercalate "," (items.map fun i => margin (indent + 1) ++ i) ++ margin indent ++ right

mutual

/-- The document on several lines, where the first is indented already. -/
def pretty (indent : Nat) : Json → String
  | null => "null"
  | bool b => if b then "true" else "false"
  | int n => toString n
  | float bits => number singleLayout .single bits.toNat
  | double bits => number doubleLayout .double bits.toNat
  | str s => quote s
  | arr items => block "[" "]" indent (prettyItems (indent + 1) items)
  | obj fields => block "\x7b" "\x7d" indent (prettyFields (indent + 1) fields)

def prettyItems (indent : Nat) : List Json → List String
  | [] => []
  | j :: js => pretty indent j :: prettyItems indent js

def prettyFields (indent : Nat) : List (String × Json) → List String
  | [] => []
  | (k, j) :: fs => (quote k ++ ": " ++ pretty indent j) :: prettyFields indent fs

end

end Json

/-! ## Records as documents -/

def constantJson : Constant → Json
  | .int v => .int v.toInt
  | .long v => .int v.toInt
  | .float bits => .float bits
  | .double bits => .double bits
  | .str s => .str s

def tagged (kind : String) (v : Json) : Json := .obj [("kind", .str kind), ("value", v)]

mutual

def valueJson : Value → Json
  | .byte v => tagged "byte" (.int v.toInt)
  | .char c => tagged "char" (.str (String.ofList [c]))
  | .short v => tagged "short" (.int v.toInt)
  | .int v => tagged "int" (.int v.toInt)
  | .long v => tagged "long" (.int v.toInt)
  | .float bits => tagged "float" (.float bits)
  | .double bits => tagged "double" (.double bits)
  | .boolean b => tagged "boolean" (.bool b)
  | .str s => tagged "str" (.str s)
  | .enumConstant t c => tagged "enum" (.obj [("type_name", .str t), ("constant", .str c)])
  | .classLiteral d => tagged "class" (.str d)
  | .nested a => tagged "annotation" (annotationJson a)
  | .array items => tagged "array" (.arr (valueJsons items))

def valueJsons : List Value → List Json
  | [] => []
  | v :: vs => valueJson v :: valueJsons vs

def annotationJson : AnnotationRecord → Json
  | ⟨name, visible, params⟩ =>
    .obj [("name", .str name), ("visible", .bool visible), ("params", .arr (paramJsons params))]

def paramJsons : List (String × Value) → List Json
  | [] => []
  | (n, v) :: ps => .obj [("name", .str n), ("value", valueJson v)] :: paramJsons ps

end

def accessJson (a : Access) : Json := .int a.bits.toNat

def fieldJson (f : FieldRecord) : Json :=
  .obj [("access", accessJson f.access), ("name", .str f.name), ("descriptor", .str f.descriptor),
    ("signature", .str f.signature), ("value", .ofOption constantJson f.value),
    ("declaring_class", .str f.declaringClass),
    ("annotations", .arr (f.annotations.map annotationJson))]

def methodJson (m : MethodRecord) : Json :=
  .obj [("access", accessJson m.access), ("name", .str m.name), ("descriptor", .str m.descriptor),
    ("signature", .str m.signature), ("exceptions", .ofOption .strings m.exceptions),
    ("declaring_class", .str m.declaringClass), ("annotations", .arr (m.annotations.map annotationJson))]

/-- A class without its retained bytes. -/
def classJson (c : ClassRecord) : Json :=
  .obj [("name", .str c.name), ("superclass", .ofOption .str c.superclass), ("interfaces", .strings c.interfaces),
    ("access", accessJson c.access), ("location", .str c.location), ("fields", .arr (c.fields.map fieldJson)),
    ("methods", .arr (c.methods.map methodJson)), ("annotations", .arr (c.annotations.map annotationJson))]

end ClassAtlas.Render
