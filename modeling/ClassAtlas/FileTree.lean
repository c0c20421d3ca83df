import ClassAtlas.Record

/-
  ClassAtlas.FileTree — a file system, as far as this program looks at one.

  A tree of directories, files and symbolic links, and the directory that relative paths
  start from. A path is followed one name after the other: through links, which may be
  forty at most, and only through directories. A slash at its end asks for a directory.
-/

namespace ClassAtlas

inductive FileNode where
  | file (content : Bytes)
  | directory (entries : List (String × FileNode))
  | link (target : String)

namespace FileNode

def entries : FileNode → List (String × FileNode)
  | directory es => es
  | _ => []

def isDirectory : FileNode → Bool
  | directory _ => true
  | _ => false

/-- The node at the end of a list of names, links not followed. -/
def at? : FileNode → List String → Option FileNode
  | n, [] => some n
  | n, s :: ss => (n.entries.lookup s).bind fun c => c.at? ss

/-- Change the entry of that name, or make one. -/
def update (name : String) (f : Option FileNode → FileNode) : List (String × FileNode) → List (String × FileNode)
  | [] => [(name, f none)]
  | (k, c) :: rest => if k = name then (k, f (some c)) :: rest else (k, c) :: update name f rest

/-- Put `n` at the end of a list of names, with the directories on the way. A directory that
    is there already keeps what it has. -/
def put (n : FileNode) : List String → Option FileNode → FileNode
  | [], old => if n.isDirectory && old.any isDirectory then old.getD n else n
  | s :: ss, old => directory (update s (put n ss) ((old.map entries).getD []))

end FileNode

inductive FileError where
  | notFound
  | notDirectory
  | isDirectory
  | noDevice
  | tooManyLinks
  | nulInName
  deriving DecidableEq, Repr

def FileError.message : FileError → String
  | notFound => "No such file or directory (os error 2)"
  | notDirectory => "Not a directory (os error 20)"
  | isDirectory => "Is a directory (os error 21)"
  | noDevice => "No such device (os error 19)"
  | tooManyLinks => "Too many levels of symbolic links (os error 40)"
  | nulInName => "file name contained an unexpected NUL byte"

structure FileTree where
  root : FileNode
  /-- The names from the root to the working directory. -/
  workingDirectory : List String

namespace FileTree

/-- A tree with nothing but its working directory. -/
def empty (workingDirectory : List String) : FileTree :=
  ⟨(FileNode.directory []).put workingDirectory none, workingDirectory⟩

def isRooted (path : String) : Bool := path.toList.head? = some '/'

/-- The names to follow for a path. -/
def steps (path : String) : List String :=
  let names := ((path.toList.splitOn '/').filter (· ≠ [])).map String.ofList
  if path.toList.getLast? = some '/' then names ++ ["."] else names

def linkLimit : Nat := 40

/-- Follow `steps` from `here`, a list of names without links in it, to another such list. -/
def follow (t : FileTree) (links : Nat) (here : List String) (steps : List String) : Except FileError (List String) :=
  match steps with
  | [] => .ok here
  | s :: rest =>
    if !(t.root.at? here).any FileNode.isDirectory then .error .notDirectory
    else if s = "." then follow t links here rest
    else if s = ".." then follow t links here.dropLast rest
    else
      match t.root.at? (here ++ [s]) with
      | none => .error .notFound
      | some (.link target) =>
        match links with
        | 0 => .error .tooManyLinks
        | n + 1 =>
          if target = "" then .error .notFound
          else follow t n (if isRooted target then [] else here) (FileTree.steps target ++ rest)
      | some _ => follow t links (here ++ [s]) rest
  termination_by (links, steps.length)

/-- Where a path leads, as the names from the root. -/
def locate (t : FileTree) (path : String) : Except FileError (List String) :=
  if path = "" then .error .notFound
  else if path.toList.contains '\x00' then .error .nulInName
  else t.follow linkLimit (if isRooted path then [] else t.workingDirectory) (steps path)

def nodeAt? (t : FileTree) (path : String) : Option FileNode := (t.locate path).toOption.bind t.root.at?

def isDirectory (t : FileTree) (path : String) : Bool := (t.nodeAt? path).any FileNode.isDirectory

def isThere (t : FileTree) (path : String) : Bool := (t.nodeAt? path).isSome

/-- The node that a path leads to, if it can be opened. -/
def openNode (t : FileTree) (path : String) : Except FileError FileNode := do
  match t.root.at? (← t.locate path) with
  | some n => .ok n
  | none => .error .notFound

def read (t : FileTree) (path : String) : Except FileError Bytes := do
  match ← t.openNode path with
  | .file content => .ok content
  | _ => .error .isDirectory

/-- Put a node at a path. Links on the way there are followed. -/
def add (t : FileTree) (path : String) (n : FileNode) : FileTree :=
  let base := if isRooted path then [] else t.workingDirectory
  let names := (steps path).filter (· ≠ ".")
  let parent := (t.follow linkLimit base names.dropLast).toOption.getD (base ++ names.dropLast)
  { t with root := n.put (parent ++ names.getLast?.toList) (some t.root) }

end FileTree

end ClassAtlas
