import ClassAtlas.Render.Json
import ClassAtlas.Text.Quoted

/-
  ClassAtlas.Render.Text — classes as a person reads them.

  A class is its annotations, its declaration, its location, and a line for each member
  under the annotations of that member.
-/

namespace ClassAtlas.Render

/-- The parameters of annotations are written with as many digits as they need, however many those are. -/
def plainLayout : Text.Layout := ⟨none, false, .up, "NaN", "inf"⟩

def line (s : String) : String := s ++ "\n"

def lines (ss : List String) : String := String.join (ss.map line)

mutual

def valueText : Value → String
  | .byte v => toString v.toInt
  | .char c => "'" ++ String.ofList [c] ++ "'"
  | .short v => toString v.toInt
  | .int v => toString v.toInt
  | .long v => toString v.toInt ++ "L"
  | .float bits => plainLayout.write .single bits.toNat ++ "f"
  | .double bits => plainLayout.write .double bits.toNat
  | .boolean b => if b then "true" else "false"
  | .str s => Text.Quoted.encode s
  | .enumConstant t c => t ++ "." ++ c
  | .classLiteral d => d ++ ".class"
  | .nested a => annotationText a
  | .array items => "\x7b" ++ String.intercalate ", " (valueTexts items) ++ "\x7d"

def valueTexts : List Value → List String
  | [] => []
  | v :: vs => valueText v :: valueTexts vs

def annotationText : AnnotationRecord → String
  | ⟨name, _, params⟩ =>
    match paramTexts params with
    | [] => "@" ++ name
    | ps => "@" ++ name ++ "(" ++ String.intercalate ", " ps ++ ")"

def paramTexts : List (String × Value) → List String
  | [] => []
  | (n, v) :: ps => (n ++ " = " ++ valueText v) :: paramTexts ps

end

/-- Modifiers, kind, name and supertypes. The kind says that a class is an enum, and of the
    superclass `java.lang.Object` nobody needs to be told. -/
def declaration (c : ClassRecord) : String :=
  let words := c.access.keywords.filter (· ≠ "enum") ++ [c.access.kind.keyword, c.name]
  let extended := match c.superclass with
    | none => ""
    | some s => if s = "java.lang.Object" then "" else " extends " ++ s
  let implemented := if c.interfaces.isEmpty then "" else " implements " ++ String.intercalate ", " c.interfaces
  String.intercalate " " words ++ extended ++ implemented

def memberText (kind : String) (access : Access) (signature : String) : String :=
  "  " ++ String.intercalate " " (kind :: access.keywords ++ [signature])

def indented (as : List AnnotationRecord) : List String := as.map fun a => "  " ++ annotationText a

def fieldLines (f : FieldRecord) : List String :=
  let value := match f.value with
    | none => ""
    | some v => " = " ++ (constantJson v).pretty 0
  indented f.annotations ++ [memberText "field" f.access f.signature ++ value]

def methodLines (m : MethodRecord) : List String :=
  let thrown := match m.exceptions with
    | none => ""
    | some [] => ""
    | some es => " throws " ++ String.intercalate ", " es
  indented m.annotations ++ [memberText "method" m.access m.signature ++ thrown]

def classLines (c : ClassRecord) : List String :=
  c.annotations.map annotationText ++ [declaration c, "  location: " ++ c.location] ++ c.fields.flatMap fieldLines ++
    c.methods.flatMap methodLines

end ClassAtlas.Render
