import ClassAtlas.Pattern.Bracket

/-
  ClassAtlas.Pattern.Parse — the expression that a pattern's text stands for.

  The text is read once from the left, with the groups that are open on a stack. Flags
  hold from where they are set to the end of the group. An expression may nest 250 deep,
  and may take no more than ten mebibytes when it is laid out for matching.
-/

namespace ClassAtlas.Pattern

/-- An expression that was read, and how deep it is. -/
structure Node where
  regex : Regex
  depth : Nat
  /-- It only sets flags, so there is nothing to repeat. -/
  isDirective : Bool := false
  deriving DecidableEq, Repr

namespace Node

def directive : Node := { regex := .empty, depth := 0, isDirective := true }

/-- One after the other; the list has the last one first. -/
def sequence : List Node → Node
  | [] => ⟨.empty, 0, false⟩
  | [n] => n
  | ns => ⟨Regex.concat (ns.reverse.map Node.regex), (ns.foldl (fun d n => max d n.depth) 0) + 1, false⟩

/-- One of them; the list has the last one first. -/
def alternatives : List Node → Node
  | [n] => n
  | ns => ⟨Regex.choice (ns.reverse.map Node.regex), (ns.foldl (fun d n => max d n.depth) 0) + 1, false⟩

end Node

/-- It cannot take a symbol. -/
def Regex.isWeightless : Regex → Bool
  | empty | look _ => true
  | one _ => false
  | seq a b | alt a b => a.isWeightless && b.isWeightless
  | rep a _ most => most == some 0 || a.isWeightless

/-- Repeated, but once at most if it takes no symbol anyway. -/
def Node.repeated (n : Node) (least : Nat) (most : Option Nat) : Node :=
  let regex :=
    if most = some 0 then .empty
    else if n.regex.isWeightless then .rep n.regex (min least 1) (some 1)
    else .rep n.regex least most
  ⟨regex, n.depth + 1, false⟩

/-- A group that is not closed yet, or the whole pattern. -/
structure Level where
  flags : Flags
  /-- The alternatives that are finished, the last one first. -/
  branches : List Node := []
  /-- The parts of the one at hand, the last one first. -/
  pieces : List Node := []

namespace Level

def add (l : Level) (n : Node) : Level := { l with pieces := n :: l.pieces }

def bar (l : Level) : Level := { l with branches := Node.sequence l.pieces :: l.branches, pieces := [] }

def node (l : Level) : Node := Node.alternatives l.bar.branches

end Level

namespace Parse

open Scan

/-- A part that is there to be repeated, taken off the level. -/
def takeLast (l : Level) : Scan (Level × Node) :=
  match l.pieces with
  | n :: ns => if n.isDirective then fail else pure ({ l with pieces := ns }, n)
  | [] => fail

/-- The bounds between braces, up to the closing one. -/
def bounds : Scan (Nat × Option Nat) := do
  advance
  let least ← number
  if (← current) = ',' then
    advance
    if (← current) = '}' then return (least, none)
    else
      let most ← number
      return (least, some most)
  else return (least, some least)

def counted (l : Level) : Scan Level := do
  let (l, n) ← takeLast l
  let (least, most) ← bounds
  if (← current) ≠ '}' || most.any (· < least) then fail
  else
    advance
    let _ ← bumpIf '?'
    return l.add (n.repeated least most)

def uncounted (l : Level) (least : Nat) (most : Option Nat) : Scan Level := do
  let (l, n) ← takeLast l
  bump
  let _ ← bumpIf '?'
  return l.add (n.repeated least most)

def isLetter (c : Char) : Bool := (CharSet.property "alphabetic").contains c.toNat

def isLetterOrNumber (c : Char) : Bool := isLetter c || (CharSet.categories [.nd, .nl, .no]).contains c.toNat

/-- A group's name, up to the closing angle bracket. -/
def groupName : Scan (List Char) := do
  let cs ← get
  let name := cs.takeWhile (· ≠ '>')
  let isGood := match name with
    | [] => false
    | c :: rest =>
      (c = '_' || isLetter c) && rest.all fun c => c = '_' || c = '.' || c = '[' || c = ']' || isLetterOrNumber c
  if !isGood then fail
  else
    set (cs.drop name.length)
    if ← bumpIf '>' then return name else fail

/-- What an opening parenthesis begins. -/
inductive Opened where
  | directive (f : Flags)
  | group (f : Flags) (name : Option (List Char))

def opened : Scan Opened := do
  bump
  skipBlanks
  let f ← read
  match ← get with
  | '?' :: '=' :: _ | '?' :: '!' :: _ | '?' :: '<' :: '=' :: _ | '?' :: '<' :: '!' :: _ => fail
  | '?' :: 'P' :: '<' :: rest | '?' :: '<' :: rest =>
    set rest
    return .group f (some (← groupName))
  | '?' :: rest =>
    match f.read? [] rest with
    | some (f, _, ':' :: rest) =>
      set rest
      return .group f none
    | some (f, false, _ :: rest) =>
      set rest
      return .directive f
    | _ => fail
  | _ => return .group f none

/-- Read to the end. `outer` holds the levels around the one at hand, the nearest first. -/
def loop : Nat → List (List Char) → List Level → Level → StateT (List Char) (Except PatternError) Node
  | 0, _, _, _ => throw .malformed
  | n + 1, names, outer, l => do
    skipBlanks.run l.flags
    match ← get with
    | [] => if outer.isEmpty then return l.node else throw .malformed
    | '(' :: _ =>
      match ← opened.run l.flags with
      | .directive f => loop n names outer ({ l with flags := f }.add Node.directive)
      | .group f none => loop n names (l :: outer) { flags := f }
      | .group f (some name) =>
        if names.contains name then throw .malformed else loop n (name :: names) (l :: outer) { flags := f }
    | ')' :: rest =>
      match outer with
      | [] => throw .malformed
      | o :: os =>
        set rest
        loop n names os (o.add ⟨l.node.regex, l.node.depth + 1, false⟩)
    | '|' :: rest =>
      set rest
      loop n names outer l.bar
    | '[' :: _ =>
      let p ← Bracket.scan.run l.flags
      loop n names outer (l.add ⟨.one p.set, p.depth, false⟩)
    | '?' :: _ => loop n names outer (← (uncounted l 0 (some 1)).run l.flags)
    | '*' :: _ => loop n names outer (← (uncounted l 0 none).run l.flags)
    | '+' :: _ => loop n names outer (← (uncounted l 1 none).run l.flags)
    | '{' :: _ => loop n names outer (← (counted l).run l.flags)
    | _ =>
      let r ← (do Atom.toRegex (← Atom.scan)).run l.flags
      loop n names outer (l.add ⟨r, 0, false⟩)

def depthLimit : Nat := 250

def weightLimit : Nat := 10 * 1024 * 1024

end Parse

/-- The expression that a text stands for. -/
def Regex.ofText (s : String) : Except PatternError Regex := do
  let (n, _) ← (Parse.loop (s.length + 1) [] [] { flags := {} }).run s.toList
  if n.depth > Parse.depthLimit then throw .malformed
  else if n.regex.weight > Parse.weightLimit then throw .tooBig
  else return n.regex

/-- Some part of the text matches. -/
def Regex.matchesText (r : Regex) (s : String) : Bool := r.matchesIn (s.toList.map Char.toNat)

end ClassAtlas.Pattern
