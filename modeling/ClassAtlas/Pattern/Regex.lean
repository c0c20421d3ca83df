import ClassAtlas.Pattern.CharSet

/-
  ClassAtlas.Pattern.Regex — regular expressions over symbols, and whether one matches.

  An expression is matched a symbol at a time. `after` gives what is left to be matched
  behind a symbol, as a list of alternatives; `nullable` says that nothing more is needed.
  Both look at the place where they stand, the symbols before and behind it, because an
  expression may ask about those without taking them.

  The same expressions serve names, where a symbol is a code point, and ignore patterns,
  where it is a byte.
-/

namespace ClassAtlas.Pattern

/-- What stands directly before and behind a place; nothing at the ends. -/
structure Around where
  before : Option Nat
  behind : Option Nat
  deriving DecidableEq, Repr

/-- A question about a place. -/
inductive Look where
  | textStart
  | textEnd
  | lineStart
  | lineEnd
  | crlfStart
  | crlfEnd
  | wordBoundary (ascii : Bool)
  | notWordBoundary (ascii : Bool)
  | wordStart (ascii : Bool)
  | wordEnd (ascii : Bool)
  | wordStartHalf (ascii : Bool)
  | wordEndHalf (ascii : Bool)
  deriving DecidableEq, Repr

namespace Look

def isWord (ascii : Bool) (n : Option Nat) : Bool := n.any (if ascii then CharSet.asciiWord else CharSet.word).contains

def lf : Nat := 0x0A

def cr : Nat := 0x0D

def holds (p : Around) : Look → Bool
  | textStart => p.before.isNone
  | textEnd => p.behind.isNone
  | lineStart => p.before.isNone || p.before == some lf
  | lineEnd => p.behind.isNone || p.behind == some lf
  | crlfStart => p.before.isNone || p.before == some lf || (p.before == some cr && p.behind != some lf)
  | crlfEnd => p.behind.isNone || p.behind == some cr || (p.behind == some lf && p.before != some cr)
  | wordBoundary a => isWord a p.before != isWord a p.behind
  | notWordBoundary a => isWord a p.before == isWord a p.behind
  | wordStart a => !isWord a p.before && isWord a p.behind
  | wordEnd a => isWord a p.before && !isWord a p.behind
  | wordStartHalf a => !isWord a p.before
  | wordEndHalf a => !isWord a p.behind

end Look

inductive Regex where
  | empty
  | one (set : CharSet)
  | look (l : Look)
  | seq (a b : Regex)
  | alt (a b : Regex)
  /-- At least `least` times and at most `most`, if there is a most. -/
  | rep (a : Regex) (least : Nat) (most : Option Nat)
  deriving DecidableEq, Repr

namespace Regex

def never : Regex := one CharSet.nothing

def concat (rs : List Regex) : Regex := rs.foldr seq empty

def choice : List Regex → Regex
  | [] => never
  | [r] => r
  | r :: rs => alt r (choice rs)

def star (r : Regex) : Regex := rep r 0 none

def nullable (p : Around) : Regex → Bool
  | empty => true
  | one _ => false
  | look l => l.holds p
  | seq a b => a.nullable p && b.nullable p
  | alt a b => a.nullable p || b.nullable p
  | rep a least _ => least == 0 || a.nullable p

/-- What can be left behind the symbol `n` at place `p`. Where a repeated expression needs
    nothing, any number of the repetitions still owed may be let go. -/
def after (p : Around) (n : Nat) : Regex → List Regex
  | empty => []
  | one set => if set.contains n then [empty] else []
  | look _ => []
  | seq a b => (a.after p n).map (fun r => seq r b) ++ (if a.nullable p then b.after p n else [])
  | alt a b => a.after p n ++ b.after p n
  | rep a least most =>
    if most = some 0 then []
    else
      let owed := if a.nullable p then 0 else least - 1
      (a.after p n).map fun r => seq r (rep a owed (most.map (· - 1)))

/-- One of the expressions matches here or further on, when `whole` may start anywhere. -/
def search (whole : Regex) (states : List Regex) (before : Option Nat) : List Nat → Bool
  | [] => (whole :: states).any (nullable ⟨before, none⟩)
  | n :: ns =>
    let p : Around := ⟨before, some n⟩
    let live := whole :: states
    live.any (nullable p) || search whole ((live.flatMap (after p n)).eraseDups) (some n) ns

/-- Some part of the symbols matches. -/
def matchesIn (r : Regex) (ns : List Nat) : Bool := search r [] none ns

/-- One of the expressions matches all that is left. -/
def consume (states : List Regex) (before : Option Nat) : List Nat → Bool
  | [] => states.any (nullable ⟨before, none⟩)
  | n :: ns => consume ((states.flatMap (after ⟨before, some n⟩ n)).eraseDups) (some n) ns

/-- The symbols match as a whole. -/
def matchesAll (r : Regex) (ns : List Nat) : Bool := consume [r] none ns

/-- A rough count of the bytes that a compiled form takes. What takes no symbol is kept once
    however often it is repeated. -/
def weight : Regex → Nat
  | empty => 0
  | one set => set.weight
  | look _ => 32
  | seq a b => a.weight + b.weight
  | alt a b => a.weight + b.weight + 48
  | rep a least most =>
    match most with
    | none => (max least 1) * a.weight + 64
    | some m => if m = 0 then 0 else least * a.weight + (m - least) * (a.weight + 48)

end Regex

end ClassAtlas.Pattern
