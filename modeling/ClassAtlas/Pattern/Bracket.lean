import ClassAtlas.Pattern.Atom

/-
  ClassAtlas.Pattern.Bracket — sets of characters in brackets.

  A bracket holds characters, ranges, escapes, named sets and further brackets, which are
  united; `&&`, `--` and `~~` combine what stands left of them with what stands right,
  from the left. The depth of a set counts the brackets, unions and operators around its
  innermost part.
-/

namespace ClassAtlas.Pattern

inductive SetOp where
  | inter
  | diff
  | symmDiff
  deriving DecidableEq, Repr

def SetOp.apply : SetOp → CharSet → CharSet → CharSet
  | inter, a, b => .inter a b
  | diff, a, b => .diff a b
  | symmDiff, a, b => .symmDiff a b

/-- A set that was read, and how deep it is. -/
structure Part where
  set : CharSet
  depth : Nat
  deriving DecidableEq, Repr

def Part.plain (s : CharSet) : Part := ⟨s, 0⟩

/-- A bracket that is not closed yet. -/
structure Bracket where
  isNegated : Bool
  /-- What stands left of the last operator, and the operator. -/
  left : Option (Part × SetOp) := none
  /-- The parts since then, the last one first. -/
  parts : List Part := []
  deriving DecidableEq, Repr

namespace Bracket

open Scan

def add (b : Bracket) (p : Part) : Bracket := { b with parts := p :: b.parts }

def united (parts : List Part) : Part :=
  match parts with
  | [] => Part.plain .nothing
  | [p] => p
  | p :: ps => ⟨ps.foldl (fun s q => .union q.set s) p.set, ps.foldl (fun d q => max d q.depth) p.depth + 1⟩

/-- All that the bracket holds so far, as one set. -/
def content (b : Bracket) : Scan Part := do
  let right := united b.parts
  match b.left with
  | none => return right
  | some (left, op) => return ⟨op.apply (← folded left.set) (← folded right.set), max left.depth right.depth + 1⟩

def close (b : Bracket) : Scan Part := do
  let inside ← b.content
  return ⟨← checked (Scan.negated b.isNegated (← folded inside.set)), inside.depth + 1⟩

def operate (b : Bracket) (op : SetOp) : Scan Bracket := do
  return { b with left := some (← b.content, op), parts := [] }

/-- Minus signs at the start of a bracket are characters. -/
def leadingDashes : Nat → Bracket → Scan Bracket
  | 0, b => pure b
  | n + 1, b => do
    if (← current) = '-' then
      advance
      leadingDashes n (b.add (Part.plain (CharSet.single '-')))
    else return b

/-- The start of a bracket. A closing bracket that comes first is a character. -/
def opening : Scan Bracket := do
  advance
  let negate := (← current) == '^'
  if negate then advance
  let b ← leadingDashes (← get).length { isNegated := negate }
  if b.parts.isEmpty && (← current) = ']' then
    advance
    let _ ← current
    return b.add (Part.plain (CharSet.single ']'))
  else
    let _ ← current
    return b

/-- A set by name between colons: whether it is negated, its ranges, and the text behind it. -/
def named? : List Char → Option (Bool × CharSet × List Char)
  | '[' :: ':' :: cs =>
    let negate := cs.head? = some '^'
    let cs := if negate then cs.tail else cs
    match cs.dropWhile (· ≠ ':') with
    | ':' :: ']' :: rest =>
      let name := String.ofList (cs.takeWhile (· ≠ ':'))
      (CharSet.bracketNames.lookup name).map fun rs => (negate, CharSet.ofRanges rs, rest)
    | _ => none
  | _ => none

/-- An atom as one part of a bracket. -/
def partOf : Atom → Scan Part
  | .literal c _ => do if (← read).unicode || c.toNat < 0x80 then return Part.plain (CharSet.single c) else fail
  | .oneOf s => return Part.plain s
  | .dot | .look _ => fail

def item : Scan Atom := do
  let c ← current
  bump
  if c = '\\' then Atom.escape else return .literal c false

/-- The character after the next one, with blanks, and a number sign among them, let go. -/
def second (spaced : Bool) (cs : List Char) : Option Char :=
  if spaced then
    let rest := cs.tail.dropWhile Text.isBlank
    let rest := if rest.head? = some '#' then rest.tail.dropWhile Text.isBlank else rest
    (rest.head?).orElse fun _ => cs.tail.head?
  else cs.tail.head?

/-- One item, or a range from one to another. -/
def range : Scan Part := do
  let first ← item
  skipBlanks
  let c ← current
  let next := second (← read).spaced (← get)
  if c ≠ '-' || next = some ']' || next = some '-' then partOf first
  else
    advance
    let last ← item
    let _ ← partOf first
    let _ ← partOf last
    match first, last with
    | .literal a _, .literal b _ => if a ≤ b then return Part.plain (.range a.toNat b.toNat) else fail
    | _, _ => fail

/-- Read on until the outermost bracket is closed. -/
def loop : Nat → List Bracket → Bracket → Scan Part
  | 0, _, _ => fail
  | n + 1, outer, b => do
    skipBlanks
    let cs ← get
    match cs with
    | [] => fail
    | '[' :: _ =>
      match named? cs with
      | some (negate, s, rest) =>
        set rest
        let s ← checked (Scan.negated negate (← folded s))
        loop n outer (b.add (Part.plain s))
      | none => loop n (b :: outer) (← opening)
    | ']' :: _ =>
      let p ← b.close
      bump
      match outer with
      | [] => return p
      | o :: os => loop n os (o.add p)
    | '&' :: '&' :: rest =>
      set rest
      loop n outer (← b.operate .inter)
    | '-' :: '-' :: rest =>
      set rest
      loop n outer (← b.operate .diff)
    | '~' :: '~' :: rest =>
      set rest
      loop n outer (← b.operate .symmDiff)
    | _ => loop n outer (b.add (← range))

/-- The bracket that starts here. -/
def scan : Scan Part := do loop (← get).length [] (← opening)

end Bracket

end ClassAtlas.Pattern
