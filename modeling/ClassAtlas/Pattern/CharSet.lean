import ClassAtlas.Text.Blank
import ClassAtlas.Unicode.Folding
import ClassAtlas.Unicode.Property
import ClassAtlas.Unicode.Script

/-
  ClassAtlas.Pattern.CharSet — sets of characters, as a pattern writes them.

  A set is kept as it was put together and asked about one code point at a time, so a set
  of half of Unicode costs no more than its name.
-/

namespace ClassAtlas.Pattern

inductive CharSet where
  | range (first last : Nat)
  | categories (cs : List Unicode.Category)
  | script (name : String)
  | property (name : String)
  | union (a b : CharSet)
  | inter (a b : CharSet)
  | compl (a : CharSet)
  /-- With every character its other cases: the ASCII letters' only, or all. -/
  | folded (ascii : Bool) (a : CharSet)
  deriving DecidableEq, Repr

namespace CharSet

def last : Nat := 0x10FFFF

def everything : CharSet := range 0 last

def nothing : CharSet := compl everything

def single (c : Char) : CharSet := range c.toNat c.toNat

def diff (a b : CharSet) : CharSet := inter a (compl b)

def symmDiff (a b : CharSet) : CharSet := union (diff a b) (diff b a)

def ofRanges (rs : List (Nat × Nat)) : CharSet := rs.foldr (fun r s => union (range r.1 r.2) s) nothing

/-- The code point in the other case, if it is an ASCII letter. -/
def asciiCases (n : Nat) : List Nat :=
  if 0x41 ≤ n && n ≤ 0x5A then [n, n + 0x20] else if 0x61 ≤ n && n ≤ 0x7A then [n, n - 0x20] else [n]

def contains : CharSet → Nat → Bool
  | range first last, n => first ≤ n && n ≤ last
  | categories cs, n => cs.contains (Unicode.Category.of n)
  | script name, n => Unicode.Script.of n == name
  | property name, n => (Unicode.PropertySet.ofName? name).any (·.contains n)
  | union a b, n => a.contains n || b.contains n
  | inter a b, n => a.contains n && b.contains n
  | compl a, n => !a.contains n
  | folded true a, n => (asciiCases n).any a.contains
  | folded false a, n => (Unicode.Folding.cases n).any a.contains

/-! ## The sets with a letter -/

def digit : CharSet := categories [.nd]

def blank : CharSet := ofRanges Text.blankRanges

def word : CharSet := union (property "alphabetic") (union (categories [.mn, .mc, .me, .nd, .pc]) (range 0x200C 0x200D))

def asciiDigit : CharSet := range 0x30 0x39

def asciiBlank : CharSet := ofRanges [(0x09, 0x0D), (0x20, 0x20)]

def asciiWord : CharSet := ofRanges [(0x30, 0x39), (0x41, 0x5A), (0x5F, 0x5F), (0x61, 0x7A)]

/-- The sets that a bracket can name between colons. -/
def bracketNames : List (String × List (Nat × Nat)) :=
  [("alnum", [(0x30, 0x39), (0x41, 0x5A), (0x61, 0x7A)]), ("alpha", [(0x41, 0x5A), (0x61, 0x7A)]),
   ("ascii", [(0, 0x7F)]), ("blank", [(0x09, 0x09), (0x20, 0x20)]), ("cntrl", [(0, 0x1F), (0x7F, 0x7F)]),
   ("digit", [(0x30, 0x39)]), ("graph", [(0x21, 0x7E)]), ("lower", [(0x61, 0x7A)]), ("print", [(0x20, 0x7E)]),
   ("punct", [(0x21, 0x2F), (0x3A, 0x40), (0x5B, 0x60), (0x7B, 0x7E)]), ("space", [(0x09, 0x0D), (0x20, 0x20)]),
   ("upper", [(0x41, 0x5A)]), ("word", [(0x30, 0x39), (0x41, 0x5A), (0x5F, 0x5F), (0x61, 0x7A)]),
   ("xdigit", [(0x30, 0x39), (0x41, 0x46), (0x61, 0x66)])]

/-! ## The sets with a name -/

/-- A name without its separators, in small letters, and without a leading `is`. -/
def plainName (name : String) : String :=
  let s := (name.toList.filter fun c => c ≠ ' ' && c ≠ '_' && c ≠ '-').map Char.toLower
  match s with
  | ['i', 's', 'c'] => "isc"
  | 'i' :: 's' :: rest => String.ofList rest
  | s => String.ofList s

def ofCategoryName? (name : String) : Option CharSet :=
  if name = "any" then some everything
  else if name = "assigned" then some (compl (categories [.cn]))
  else if name = "ascii" then some (range 0 0x7F)
  else (Unicode.Category.ofName? name).map categories

/-- A set by one name: a property, or else a category, or else a script. -/
def ofName? (name : String) : Option CharSet :=
  let plain := plainName name
  let isProperty := plain ≠ "cf" && plain ≠ "sc" && plain ≠ "lc" && (Unicode.PropertySet.ofName? plain).isSome
  if isProperty then some (property plain)
  else ((ofCategoryName? plain).orElse fun _ => (Unicode.Script.ofName? plain).map script)

/-- A set by the name of a property with several values, and one of these. -/
def ofNameAndValue? (name value : String) : Option CharSet :=
  match plainName name with
  | "gc" | "generalcategory" => ofCategoryName? (plainName value)
  | "sc" | "script" | "scx" | "scriptextensions" => (Unicode.Script.ofName? (plainName value)).map script
  | _ => none

/-- A rough count of the bytes that a matcher's table of the set takes. -/
def weight : CharSet → Nat
  | range first last => if last < 0x80 then 40 else if first = last then 128 else 400
  | categories _ => 16000
  | script _ => 2000
  | property _ => 30000
  | union a b => a.weight + b.weight
  | inter a b => max a.weight b.weight
  | compl a => a.weight + 400
  | folded _ a => a.weight + 40

end CharSet

end ClassAtlas.Pattern
