import ClassAtlas.Pattern.Regex
import ClassAtlas.Text.Utf8

/-
  ClassAtlas.Ignore.Glob — file name patterns.

  `?` is one byte and `*` any number, neither a slash; `**` between slashes is any number
  of whole names; brackets hold a set of bytes, and braces alternatives. A bracket that is
  never closed is a character. A glob speaks about the whole of a path, byte by byte.
-/

namespace ClassAtlas.Ignore

open Pattern

namespace Glob

inductive Token where
  | literal (c : Char)
  | one
  | run
  /-- `**` and a slash in front: any names, or none. -/
  | deepStart
  /-- A slash and `**` at the end: everything below. -/
  | deepEnd
  /-- `**` between slashes: any names between, or none. -/
  | deepMiddle
  | set (negate : Bool) (ranges : List (Char × Char))
  | choice (alternatives : List (List Token))

/-! ## As an expression over bytes -/

def byte (b : UInt8) : CharSet := .range b.toNat b.toNat

def slash : CharSet := CharSet.single '/'

def notSlash : CharSet := .compl slash

def anything : Regex := .star (.one CharSet.everything)

def bytesOf (c : Char) : List UInt8 := Text.Utf8.encode [c]

/-- A range from one character to another goes from the last byte of the first to the first
    byte of the last; their other bytes stand for themselves. -/
def rangeSet (r : Char × Char) : CharSet :=
  let first := bytesOf r.1
  let last := bytesOf r.2
  let singles (bs : List UInt8) : CharSet := bs.foldr (fun b s => .union (byte b) s) .nothing
  if r.1 = r.2 then singles first
  else .union (singles (first.dropLast ++ last.tail)) (.range (first.getLastD 0).toNat (last.headD 0).toNat)

def setOf (negate : Bool) (ranges : List (Char × Char)) : CharSet :=
  let s := ranges.foldr (fun r s => .union (rangeSet r) s) .nothing
  if negate then .compl s else s

mutual

/-- The expressions that a token stands for, one after the other. Alternatives that stand for
    nothing are left out. -/
def Token.factors : Token → List Regex
  | .literal c => (bytesOf c).map fun b => .one (byte b)
  | .one => [.one notSlash]
  | .run => [.star (.one notSlash)]
  | .deepStart => [.alt (.rep (.one slash) 0 (some 1)) (.seq anything (.one slash))]
  | .deepEnd => [.seq (.one slash) anything]
  | .deepMiddle => [.alt (.one slash) (.seq (.one slash) (.seq anything (.one slash)))]
  | .set negate ranges => [.one (setOf negate ranges)]
  | .choice alternatives =>
    match choices alternatives with
    | [] => []
    | rs => [Regex.choice rs]

def factorsOf : List Token → List Regex
  | [] => []
  | t :: ts => t.factors ++ factorsOf ts

def choices : List (List Token) → List Regex
  | [] => []
  | ts :: rest =>
    match factorsOf ts with
    | [] => choices rest
    | rs => Regex.concat rs :: choices rest

end

/-- `**` alone is everything. -/
def regexOf : List Token → Regex
  | [.deepStart] => anything
  | ts => Regex.concat (factorsOf ts)

/-! ## Reading -/

/-- An open brace: its finished alternatives and the one at hand, each the last one first. -/
structure Branch where
  finished : List (List Token) := []
  tokens : List Token := []

def Branch.push (b : Branch) (t : Token) : Branch := { b with tokens := t :: b.tokens }

/-- The inside of a bracket behind its sign of negation, and what follows it. -/
def readRanges (isFirst inRange : Bool) (ranges : List (Char × Char)) :
    List Char → Option (Option (List (Char × Char)) × List Char)
  | [] => none
  | c :: cs =>
    if c = ']' && !isFirst then
      some (some (if inRange then ('-', '-') :: ranges else ranges), cs)
    else if c = '-' && !isFirst && !inRange then readRanges false true ranges cs
    else if inRange then
      match ranges with
      | (a, _) :: rs => if c < a then some (none, cs) else readRanges false false ((a, c) :: rs) cs
      | [] => readRanges false false [(c, c)] cs
    else readRanges false false ((c, c) :: ranges) cs

inductive Bracket where
  /-- It is never closed. -/
  | unclosed
  | wrong
  | set (negate : Bool) (ranges : List (Char × Char)) (rest : List Char)

def readBracket (cs : List Char) : Bracket :=
  let negate := cs.head? = some '!' || cs.head? = some '^'
  match readRanges true false [] (if negate then cs.tail else cs) with
  | none => .unclosed
  | some (none, _) => .wrong
  | some (some ranges, rest) => .set negate ranges rest

/-- What two stars stand for: the branch with that, and the text behind them. -/
def readStars (inBraces : Bool) (before : Option Char) (b : Branch) (cs : List Char) : Branch × List Char :=
  let plain := ((b.push .run).push .run, cs)
  let next := cs.head?
  match b.tokens with
  | [] => if next = none || next = some '/' then (b.push .deepStart, cs.tail) else plain
  | t :: ts =>
    let replaced (isEnd : Bool) : Branch :=
      match t with
      | .deepStart => b
      | .deepEnd => b
      | _ => { b with tokens := (if isEnd then .deepEnd else .deepMiddle) :: ts }
    if before ≠ some '/' && !(inBraces && (before = some ',' || before = some '\x7b')) then plain
    else if next = none || (inBraces && (next = some ',' || next = some '\x7d')) then (replaced true, cs)
    else if next = some '/' then (replaced false, cs.tail)
    else plain

/-- Read the rest of a glob. `bracketsOff` holds once a bracket was found that is never closed. -/
def readFrom : Nat → List Branch → Branch → Option Char → Bool → List Char → Option (List Token)
  | 0, _, _, _, _, _ => none
  | _, outer, b, _, _, [] => if outer.isEmpty then some b.tokens.reverse else none
  | n + 1, outer, b, before, bracketsOff, c :: cs =>
    if c = '?' then readFrom n outer (b.push .one) (some c) bracketsOff cs
    else if c = '*' then
      if cs.head? = some '*' then
        let (b, rest) := readStars (!outer.isEmpty) before b cs.tail
        readFrom n outer b (if rest.length < cs.tail.length then some '/' else some '*') bracketsOff rest
      else readFrom n outer (b.push .run) (some c) bracketsOff cs
    else if c = '[' && !bracketsOff then
      match readBracket cs with
      | .unclosed => readFrom n outer (b.push (.literal '[')) (some c) true cs
      | .wrong => none
      | .set negate ranges rest => readFrom n outer (b.push (.set negate ranges)) (some ']') bracketsOff rest
    else if c = '\x7b' then readFrom n (b :: outer) {} (some c) bracketsOff cs
    else if c = '\x7d' then
      match outer with
      | [] => none
      | o :: os =>
        let alternatives := (b.tokens.reverse :: b.finished).reverse
        readFrom n os (o.push (.choice alternatives)) (some c) bracketsOff cs
    else if c = ',' && !outer.isEmpty then
      readFrom n outer ⟨b.tokens.reverse :: b.finished, []⟩ (some c) bracketsOff cs
    else if c = '\\' then
      match cs with
      | [] => none
      | d :: rest => readFrom n outer (b.push (.literal d)) (some d) bracketsOff rest
    else readFrom n outer (b.push (.literal c)) (some c) bracketsOff cs

/-- The expression that a glob stands for. -/
def parse? (glob : List Char) : Option Regex := (readFrom (glob.length + 1) [] {} none false glob).map regexOf

end Glob

end ClassAtlas.Ignore
