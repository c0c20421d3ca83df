/-
  ClassAtlas.Unicode.Runs — functions on code points that are constant on long runs.

  A table is written as a text, one word per run: the first code point in lower-case
  hexadecimal, then the label of the run in other characters. It is read once into an array
  in increasing order, and a code point is looked up by halving. A set of code points is
  written as words `first-last`, or `first` where the run has one element.
-/

namespace ClassAtlas.Unicode

def isHexDigit (c : Char) : Bool := c.isDigit || ('a' ≤ c && c ≤ 'f')

def hexValue (cs : List Char) : Nat :=
  cs.foldl (fun n c => n * 16 + (if c.isDigit then c.toNat - '0'.toNat else c.toNat - 'a'.toNat + 10)) 0

/-- The words of a text, between blanks and line ends. -/
def words (text : String) : List (List Char) :=
  (text.toList.splitBy fun a b => (a == ' ' || a == '\n') == (b == ' ' || b == '\n')).filter fun w =>
    !(w.any fun c => c == ' ' || c == '\n')

structure Runs (α : Type) where
  runs : Array (Nat × α)

namespace Runs

/-- The table in `text`, with the labels that `label` knows. -/
def ofText {α : Type} (label : String → Option α) (text : String) : Runs α :=
  ⟨((words text).filterMap fun w =>
    (label (String.ofList (w.dropWhile isHexDigit))).map fun l => (hexValue (w.takeWhile isHexDigit), l)).toArray⟩

/-- The greatest place in `lo ..< hi` whose run starts at or before `n`, found in `fuel` halvings. -/
def search {α : Type} (runs : Array (Nat × α)) (n lo hi : Nat) : Nat → Nat
  | 0 => lo
  | fuel + 1 =>
    if hi ≤ lo + 1 then lo
    else
      let mid := (lo + hi) / 2
      match runs[mid]? with
      | some (first, _) => if first ≤ n then search runs n mid hi fuel else search runs n lo mid fuel
      | none => lo

def get? {α : Type} (r : Runs α) (n : Nat) : Option α :=
  (r.runs[search r.runs n 0 r.runs.size (r.runs.size.log2 + 1)]?).map (·.2)

end Runs

/-- A set of code points as its runs, first and last. -/
def rangesOf (text : String) : List (Nat × Nat) :=
  (words text).map fun w =>
    match w.dropWhile (· ≠ '-') with
    | [] => (hexValue w, hexValue w)
    | _ :: last => (hexValue (w.takeWhile (· ≠ '-')), hexValue last)

def inRanges (rs : List (Nat × Nat)) (n : Nat) : Bool := rs.any fun r => r.1 ≤ n && n ≤ r.2

end ClassAtlas.Unicode
