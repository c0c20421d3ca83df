import ClassAtlas.Pattern.Regex

/-
  ClassAtlas.Pattern.Cursor — reading a pattern's text, one character after the other.

  What a text means depends on the flags that hold where it stands, so a scanner reads
  under a set of flags. With `spaced`, blanks and comments between the parts are skipped,
  and `advance` steps over them; `bump` never does.
-/

namespace ClassAtlas

inductive PatternError where
  | malformed
  | tooBig
  deriving DecidableEq, Repr

def PatternError.message : PatternError → String
  | malformed => "regex parse error"
  | tooBig => "Compiled regex exceeds size limit of 10485760 bytes."

namespace Pattern

structure Flags where
  /-- `i`: cases are not told apart. -/
  folds : Bool := false
  /-- `m`: `^` and `$` hold at lines. -/
  byLine : Bool := false
  /-- `s`: a dot is any character. -/
  dotAll : Bool := false
  /-- `R`: a line ends with CR, LF or both. -/
  crlf : Bool := false
  /-- `u`: classes and word boundaries are Unicode's. -/
  unicode : Bool := true
  /-- `x`: blanks and comments are let go. -/
  spaced : Bool := false
  deriving DecidableEq, Repr

namespace Flags

/-- Every letter that may stand in a list of flags. `U` changes which match is preferred, not whether there is one. -/
def set? (f : Flags) (value : Bool) : Char → Option Flags
  | 'i' => some { f with folds := value }
  | 'm' => some { f with byLine := value }
  | 's' => some { f with dotAll := value }
  | 'R' => some { f with crlf := value }
  | 'u' => some { f with unicode := value }
  | 'x' => some { f with spaced := value }
  | 'U' => some f
  | _ => none

/-- A list of flags up to the `:` or `)` behind it, which is given back with whether the list
    was empty. No letter comes twice, and the one minus sign is not the last. -/
def read? (f : Flags) (seen : List Char) : List Char → Option (Flags × Bool × List Char)
  | [] => none
  | c :: cs =>
    if c = ':' || c = ')' then (if seen.head? = some '-' then none else some (f, seen.isEmpty, c :: cs))
    else if seen.contains c then none
    else if c = '-' then read? f (c :: seen) cs
    else (f.set? (!seen.contains '-') c).bind fun f => read? f (c :: seen) cs

end Flags

abbrev Scan (α : Type) := ReaderT Flags (StateT (List Char) (Except PatternError)) α

namespace Scan

def fail {α : Type} : Scan α := throw .malformed

def ofOption {α : Type} : Option α → Scan α
  | some a => pure a
  | none => fail

/-- A text behind blanks and comments. -/
def pastBlanks (inComment : Bool) : List Char → List Char
  | [] => []
  | c :: cs =>
    if inComment then pastBlanks (c ≠ '\n') cs
    else if Text.isBlank c then pastBlanks false cs
    else if c = '#' then pastBlanks true cs
    else c :: cs

def skipBlanks : Scan Unit := do if (← read).spaced then modify (pastBlanks false)

def peek : Scan (Option Char) := return (← get).head?

def current : Scan Char := do ofOption (← peek)

def bump : Scan Unit := modify List.tail

def advance : Scan Unit := do
  bump
  skipBlanks

/-- Step over `c`, if it stands here. -/
def bumpIf (c : Char) : Scan Bool := do
  if (← peek) = some c then
    bump
    return true
  else return false

/-- The characters from here on that `accepts`, with what `next` skips between them. -/
def spelled (next : List Char → List Char) (accepts : Char → Bool) : Nat → List Char → List Char × List Char
  | 0, cs => ([], cs)
  | _, [] => ([], [])
  | n + 1, c :: cs =>
    if accepts c then
      let (taken, rest) := spelled next accepts n (next cs)
      (c :: taken, rest)
    else ([], c :: cs)

def takeWhile (accepts : Char → Bool) : Scan (List Char) := do
  let next := if (← read).spaced then pastBlanks false else id
  let cs ← get
  let (taken, rest) := spelled next accepts cs.length cs
  set rest
  return taken

/-- A whole number, blanks around it. It has to fit 32 bits. -/
def number : Scan Nat := do
  modify (·.dropWhile Text.isBlank)
  let digits ← takeWhile Char.isDigit
  let _ ← takeWhile Text.isBlank
  let n := digits.foldl (fun n c => n * 10 + (c.toNat - '0'.toNat)) 0
  if digits.isEmpty || n > 0xFFFFFFFF then fail else return n

def hexValue? (c : Char) : Option Nat :=
  if c.isDigit then some (c.toNat - '0'.toNat)
  else if 'a' ≤ c && c ≤ 'f' then some (c.toNat - 'a'.toNat + 10)
  else if 'A' ≤ c && c ≤ 'F' then some (c.toNat - 'A'.toNat + 10)
  else none

def hexNumber (digits : List Char) : Nat := digits.foldl (fun n c => n * 16 + (hexValue? c).getD 0) 0

def hexDigits : Nat → Scan (List Char)
  | 0 => pure []
  | n + 1 => do
    let c ← current
    if (hexValue? c).isNone then fail
    else
      advance
      return c :: (← hexDigits n)

/-- The character with that number; there is none at a surrogate or past the last. -/
def character (n : Nat) : Scan Char :=
  if n < 0xD800 || (0xE000 ≤ n && n ≤ CharSet.last) then pure (Char.ofNat n) else fail

/-! ## Sets under flags -/

/-- Without `u` a pattern may name ASCII only. A set of bytes holds all the others or none. -/
def checked (s : CharSet) : Scan CharSet := do if (← read).unicode || !s.contains 0x80 then return s else fail

def folded (s : CharSet) : Scan CharSet := do
  let f ← read
  return if f.folds then .folded (!f.unicode) s else s

def negated (negate : Bool) (s : CharSet) : CharSet := if negate then .compl s else s

end Scan

end Pattern

end ClassAtlas
