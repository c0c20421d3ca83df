import ClassAtlas.Ignore.Glob
import ClassAtlas.Record
import ClassAtlas.Text.Blank

/-
  ClassAtlas.Ignore.Rules — the rules of an `.ignore` file, in the way of `.gitignore`.

  A line is a glob for paths below the file's directory. With a slash in it, other than at
  its end, it speaks about the path from there; without one, about a name at any depth. A
  slash at its end asks for a directory, and an exclamation mark in front takes back what
  earlier lines say. The last line that fits decides.
-/

namespace ClassAtlas.Ignore

structure Rule where
  pattern : Pattern.Regex
  takesBack : Bool
  onlyDirectories : Bool

namespace Rule

/-- Where the glob of a line begins, and whether the line speaks about the whole path. -/
structure Opened where
  glob : List Char
  takesBack : Bool
  isAnchored : Bool

def opened (line : List Char) : Opened :=
  match line with
  | '\\' :: '!' :: rest => ⟨'!' :: rest, false, false⟩
  | '\\' :: '#' :: rest => ⟨'#' :: rest, false, false⟩
  | '!' :: '/' :: rest => ⟨rest, true, true⟩
  | '!' :: rest => ⟨rest, true, false⟩
  | '/' :: rest => ⟨rest, false, true⟩
  | rest => ⟨rest, false, false⟩

/-- A glob without the slash that ends it, escaped or not. -/
def withoutSlash (glob : List Char) : List Char × Bool :=
  match ['\\', '/'].isSuffixOf? glob with
  | some g => (g, true)
  | none =>
    match ['/'].isSuffixOf? glob with
    | some g => (g, true)
    | none => (glob, false)

def startsDeep (glob : List Char) : Bool := glob = ['*', '*'] || ['*', '*', '/'].isPrefixOf glob

def endsDeep (glob : List Char) : Bool := ['/', '*', '*'].isSuffixOf glob

/-- The glob for paths that a line's own glob amounts to. -/
def widened (glob : List Char) (isAnchored : Bool) : List Char :=
  let g := if isAnchored || glob.contains '/' || startsDeep glob then glob else ['*', '*', '/'] ++ glob
  if endsDeep g then g ++ ['/', '*'] else g

/-- Nothing for a blank line, a comment, and a glob that cannot be read. -/
def ofLine? (line : List Char) : Option Rule :=
  let kept := if ['\\', ' '].isSuffixOf line then line else Text.trimRight line
  if kept = [] || kept.head? = some '#' then none
  else
    let o := opened kept
    let (glob, onlyDirectories) := withoutSlash o.glob
    (Glob.parse? (widened glob o.isAnchored)).map fun p => ⟨p, o.takesBack, onlyDirectories⟩

end Rule

abbrev Rules := List Rule

namespace Rules

/-- The pieces between line feeds, a carriage return at the end of each let go. -/
def lines : Bytes → List Bytes
  | [] => []
  | b :: bs =>
    if b = 0x0A then [] :: lines bs
    else if b = 0x0D && bs.head? = some 0x0A then lines bs
    else
      match lines bs with
      | [] => [[b]]
      | l :: ls => (b :: l) :: ls

def isText (bytes : Bytes) : Bool := Text.Utf8.encode (Text.Utf8.decode bytes) = bytes

/-- Reading stops at a line that is no text. A byte order mark in front is let go. -/
def ofBytes (bytes : Bytes) : Rules :=
  let texts := ((lines bytes).takeWhile isText).map Text.Utf8.decode
  let texts := match texts with
    | [] => []
    | first :: rest => first.dropWhile (· = '\uFEFF') :: rest
  texts.filterMap Rule.ofLine?

/-- What the rules say about a path: ignore it, keep it, or nothing. -/
def verdict? (rules : Rules) (path : List String) (isDirectory : Bool) : Option Bool :=
  let bytes := (Text.Utf8.encode (['/'].intercalate (path.map String.toList))).map UInt8.toNat
  (rules.reverse.find? fun r => (isDirectory || !r.onlyDirectories) && r.pattern.matchesAll bytes).map (!·.takesBack)

end Rules

/-- Rules that hold in a directory, and the names that lead to it from where they were written. -/
structure Scope where
  rules : Rules
  names : List String

/-- The nearest rules that say something about an entry decide. -/
def isIgnored (scopes : List Scope) (name : String) (isDirectory : Bool) : Bool :=
  (scopes.findSome? fun s => s.rules.verdict? (s.names ++ [name]) isDirectory).getD false

def Scope.enter (name : String) (s : Scope) : Scope := { s with names := s.names ++ [name] }

end ClassAtlas.Ignore
