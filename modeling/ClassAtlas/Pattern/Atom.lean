import ClassAtlas.Pattern.Cursor

/-
  ClassAtlas.Pattern.Atom — the parts of a pattern that stand for themselves: characters,
  escapes, dots and anchors.
-/

namespace ClassAtlas.Pattern

inductive Atom where
  /-- One character. `byte` says that it was written as two hexadecimal digits. -/
  | literal (c : Char) (byte : Bool)
  | oneOf (s : CharSet)
  | dot
  | look (l : Look)
  deriving DecidableEq, Repr

namespace Atom

open Scan

def metaCharacters : List Char := "\\.+*?()|[]{}^$#&-~".toList

/-- A character that stands for itself behind a backslash. Letters and digits are kept for other uses. -/
def isPlainEscape (c : Char) : Bool :=
  metaCharacters.contains c || (c.toNat < 0x80 && !c.isAlphanum && c ≠ '<' && c ≠ '>')

/-- `\b` may be followed by the name of a side in braces. If what follows starts no name, the
    brace opens a repetition, and nothing is taken. -/
def boundary : Scan Look := do
  let ascii := !(← read).unicode
  let here ← get
  if (← peek) ≠ some '{' then return .wordBoundary ascii
  else
    advance
    let isName (c : Char) : Bool := c.isAlpha || c = '-'
    if !isName (← current) then
      set here
      return .wordBoundary ascii
    else
      let name ← takeWhile isName
      if (← current) ≠ '}' then fail
      else
        bump
        match String.ofList name with
        | "start" => return .wordStart ascii
        | "end" => return .wordEnd ascii
        | "start-half" => return .wordStartHalf ascii
        | "end-half" => return .wordEndHalf ascii
        | _ => fail

/-- A character by number: `digits` of them, or any number of them in braces. -/
def hexadecimal (digits : Nat) : Scan Atom := do
  if (← current) = '{' then
    advance
    let ds ← takeWhile fun c => (hexValue? c).isSome
    if ds.isEmpty || (← current) ≠ '}' then fail
    else
      advance
      return literal (← character (hexNumber ds)) false
  else
    let ds ← hexDigits digits
    return literal (← character (hexNumber ds)) (digits == 2)

/-- The text split at the first `=` or `:`. -/
def nameAndValue? (s : List Char) : Option (List Char × List Char) :=
  let cut (i skipped : Nat) := (s.take i, s.drop (i + skipped))
  match (List.range s.length).find? fun i => (s.drop i).take 2 = "!=".toList with
  | some i => some (cut i 2)
  | none =>
    match s.findIdx? (· = ':') with
    | some i => some (cut i 1)
    | none => (s.findIdx? (· = '=')).map fun i => cut i 1

/-- A set by name: one letter, or anything in braces. -/
def named (negate : Bool) : Scan Atom := do
  let found ← do
    if (← current) = '{' then
      advance
      let body ← takeWhile (· ≠ '}')
      let _ ← current
      bump
      match nameAndValue? body with
      | some (name, value) => pure (CharSet.ofNameAndValue? (String.ofList name) (String.ofList value))
      | none => pure (CharSet.ofName? (String.ofList body))
    else
      let c ← current
      if c = '\\' then fail
      else
        advance
        pure (CharSet.ofName? (String.singleton c))
  if (← read).unicode then return oneOf (Scan.negated negate (← folded (← ofOption found))) else fail

/-- A set by its letter; the capital letter is for all other characters. -/
def lettered (c : Char) : Scan Atom := do
  let unicode := (← read).unicode
  let s := match c.toLower with
    | 'd' => if unicode then CharSet.digit else CharSet.asciiDigit
    | 's' => if unicode then CharSet.blank else CharSet.asciiBlank
    | _ => if unicode then CharSet.word else CharSet.asciiWord
  return oneOf (← checked (Scan.negated c.isUpper s))

/-- What a backslash, which has been taken, begins. -/
def escape : Scan Atom := do
  let c ← current
  let ascii := !(← read).unicode
  match c with
  | 'x' => do advance; hexadecimal 2
  | 'u' => do advance; hexadecimal 4
  | 'U' => do advance; hexadecimal 8
  | 'p' => do advance; named false
  | 'P' => do advance; named true
  | 'd' | 'D' | 's' | 'S' | 'w' | 'W' => do bump; lettered c
  | _ => do
    bump
    if isPlainEscape c then return literal c false
    else
      match c with
      | 'a' => return literal '\x07' false
      | 'f' => return literal '\x0c' false
      | 't' => return literal '\t' false
      | 'n' => return literal '\n' false
      | 'r' => return literal '\x0d' false
      | 'v' => return literal '\x0b' false
      | 'A' => return look .textStart
      | 'z' => return look .textEnd
      | 'b' => return look (← boundary)
      | 'B' => return look (.notWordBoundary ascii)
      | '<' => return look (.wordStart ascii)
      | '>' => return look (.wordEnd ascii)
      | _ => fail

def lineStart (f : Flags) : Look := if f.byLine then (if f.crlf then .crlfStart else .lineStart) else .textStart

def lineEnd (f : Flags) : Look := if f.byLine then (if f.crlf then .crlfEnd else .lineEnd) else .textEnd

def scan : Scan Atom := do
  let c ← current
  bump
  match c with
  | '\\' => escape
  | '.' => return dot
  | '^' => return look (lineStart (← read))
  | '$' => return look (lineEnd (← read))
  | c => return literal c false

/-- The set of one literal. Without `u` only ASCII can be written as a byte. -/
def literalSet (c : Char) (byte : Bool) : Scan CharSet := do
  if !(← read).unicode && byte && c.toNat > 0x7F then fail else folded (CharSet.single c)

def dotSet : Scan CharSet := do
  let f ← read
  if !f.unicode then fail
  else if f.dotAll then return CharSet.everything
  else if f.crlf then return .compl (.union (CharSet.single '\n') (CharSet.single '\x0d'))
  else return .compl (CharSet.single '\n')

def toRegex : Atom → Scan Regex
  | literal c byte => return .one (← literalSet c byte)
  | oneOf s => return .one s
  | dot => return .one (← dotSet)
  | look l => return .look l

end Atom

end ClassAtlas.Pattern
