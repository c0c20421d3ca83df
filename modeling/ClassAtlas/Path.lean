/-
  ClassAtlas.Path — file paths as texts.

  A path is kept exactly as it was written, because it is shown again; what it means is
  its list of components. Slashes that repeat or end it and a `.` inside it mean nothing;
  a `.` in front does, and so does a slash. Paths are compared by their components.

  Everything here goes through the segments, the texts between slashes: the first one
  tells a rooted path (it is empty and not alone), and of the others those that mean
  nothing are idle.
-/

namespace ClassAtlas.Path

def segments (path : String) : List (List Char) := path.toList.splitOn '/'

def isIdle (segment : List Char) : Bool := segment = [] || segment = ['.']

def ofSegments (ss : List (List Char)) : String := String.ofList (['/'].intercalate ss)

inductive Component where
  | root
  | here
  | up
  | name (n : String)
  deriving DecidableEq, Repr

namespace Component

def rank : Component → Nat
  | root => 0
  | here => 1
  | up => 2
  | name _ => 3

/-- The root first, then `.`, then `..`, then names by their code points. -/
def order : Component → Component → Ordering
  | name a, name b => compareOfLessAndEq a b
  | a, b => compare a.rank b.rank

/-- What a segment after the first means. -/
def ofSegment? (s : List Char) : Option Component :=
  if isIdle s then none else if s = ['.', '.'] then some up else some (name (String.ofList s))

/-- What the first of several segments means. -/
def ofHead? (s : List Char) (alone : Bool) : Option Component :=
  if s = [] then (if alone then none else some root) else if s = ['.'] then some here else ofSegment? s

end Component

def components (path : String) : List Component :=
  match segments path with
  | [] => []
  | head :: tail => (Component.ofHead? head tail.isEmpty).toList ++ tail.filterMap Component.ofSegment?

def same (a b : String) : Bool := components a == components b

def orderComponents : List Component → List Component → Ordering
  | [], [] => .eq
  | [], _ :: _ => .lt
  | _ :: _, [] => .gt
  | a :: as, b :: bs => (a.order b).then (orderComponents as bs)

def order (a b : String) : Ordering := orderComponents (components a) (components b)

/-! ## The last component -/

/-- The segments without the idle ones at the end; the first always stays. -/
def trimTail (tail : List (List Char)) : List (List Char) := (tail.reverse.dropWhile isIdle).reverse

/-- A path as it is shown once its idle end is cut off. A lone root keeps its slash. -/
def ofTrimmed (head : List Char) (tail : List (List Char)) : String :=
  match head, trimTail tail with
  | [], [] => "/"
  | head, tail => ofSegments (head :: tail)

def fileName? (path : String) : Option String :=
  match (components path).getLast? with
  | some (.name n) => some n
  | _ => none

/-- The path without its last component; none for a root and for an empty path. -/
def parent? (path : String) : Option String :=
  match segments path with
  | [] => none
  | head :: tail =>
    match trimTail tail with
    | [] => if head = [] then none else some ""
    | kept => some (ofTrimmed head kept.dropLast)

/-- What follows the last dot of the file name, unless that dot begins the name. -/
def extension? (path : String) : Option String :=
  (fileName? path).bind fun n =>
    let r := n.toList.reverse
    match r.dropWhile (· ≠ '.') with
    | [] => none
    | [_] => none
    | _ :: _ :: _ => some (String.ofList (r.takeWhile (· ≠ '.')).reverse)

/-! ## One path under another -/

def join (base name : String) : String :=
  match name.toList.head? with
  | some '/' => name
  | _ => if base.isEmpty || base.toList.getLast? = some '/' then base ++ name else base ++ "/" ++ name

/-- Drop the segments of `ss` that spell the components `base`; none if they do not. -/
def dropComponents? : List Component → List (List Char) → Option (List (List Char))
  | [], ss => some ss
  | _ :: _, [] => none
  | b :: bs, s :: ss =>
    match Component.ofSegment? s with
    | none => dropComponents? (b :: bs) ss
    | some c => if c = b then dropComponents? bs ss else none

/-- The part of `path` below `base`, with an idle start and an idle end cut off. -/
def below? (base path : String) : Option String :=
  match segments path with
  | [] => none
  | head :: tail =>
    match components base, Component.ofHead? head tail.isEmpty with
    | [], _ => some (if head = [] && tail.isEmpty then "" else ofTrimmed head tail)
    | _ :: _, none => none
    | b :: bs, some c =>
      if c = b then (dropComponents? bs tail).map fun rest => ofSegments (trimTail (rest.dropWhile isIdle)) else none

/-! ## Names that mean something here -/

def isClassFile (path : String) : Bool := extension? path = some "class"

def isArchive (path : String) : Bool :=
  match extension? path with
  | some e => e.map Char.toLower == "jar" || e.map Char.toLower == "zip"
  | none => false

/-- A nested class has a dollar sign in the last part of its file's name, whichever way the slashes lean. -/
def isNestedClass (entry : String) : Bool :=
  ((entry.toList.splitOnP fun c => c = '/' || c = '\\').getLastD []).contains '$'

end ClassAtlas.Path
