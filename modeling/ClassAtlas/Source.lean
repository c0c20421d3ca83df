import ClassAtlas.FileTree
import ClassAtlas.Ignore.Rules
import ClassAtlas.Path

/-
  ClassAtlas.Source — what yields class files, and where to find it.

  A location is a directory, an archive or a class file. A directory is searched with all
  that is below it, links not followed, except what `.ignore` files in it and above it
  leave out. What is found comes in one order whatever the directory's own: class files
  before archives, each by their paths.
-/

namespace ClassAtlas

inductive Source where
  /-- A class file, and the directory that it was found under. -/
  | classFile (root path : String)
  | archive (path : String)
  deriving DecidableEq, Repr

namespace Source

/-- What is noted as the origin of a class. -/
def location : Source → String
  | classFile root _ => root
  | archive path => path

def order : Source → Source → Ordering
  | classFile r p, classFile r' p' => (Path.order r r').then (Path.order p p')
  | classFile _ _, archive _ => .lt
  | archive _, classFile _ _ => .gt
  | archive p, archive p' => Path.order p p'

/-- The source that a file found under `root` is, if it is one. -/
def ofFile? (root path : String) : Option Source :=
  if Path.isClassFile path then some (classFile root path)
  else if Path.isArchive path then some (archive path)
  else none

/-- The sources among files found under `root`, in their order. -/
def ofFiles (root : String) (paths : List String) : List Source :=
  (paths.filterMap (ofFile? root)).mergeSort fun a b => a.order b != .gt

end Source

inductive LocationError where
  | missing (location : String)
  | unsuited (location : String)
  deriving DecidableEq, Repr

def LocationError.message : LocationError → String
  | missing l => "Search location does not exist: " ++ l
  | unsuited l => "Not a directory, archive or class file: " ++ l

namespace FileTree

/-- The rules written in a directory. -/
def rulesIn (t : FileTree) (directory : List String) : Ignore.Rules :=
  match (t.follow linkLimit directory [".ignore"]).toOption.bind t.root.at? with
  | some (.file content) => Ignore.Rules.ofBytes content
  | _ => []

/-- The rules from above a directory, the nearest first. -/
def rulesAbove (t : FileTree) (directory : List String) : List Ignore.Scope :=
  (List.range directory.length).reverse.map fun k => ⟨t.rulesIn (directory.take k), directory.drop k⟩

mutual

/-- The regular files from an entry of the directory `here` on, as names from where the walk began. -/
def filesFrom (t : FileTree) (scopes : List Ignore.Scope) (here names : List String) (name : String) :
    FileNode → List (List String)
  | .file _ => if Ignore.isIgnored scopes name false then [] else [names ++ [name]]
  | .link _ => []
  | .directory es =>
    if Ignore.isIgnored scopes name true then []
    else
      let inside := here ++ [name]
      filesAmong t (⟨t.rulesIn inside, []⟩ :: scopes.map (·.enter name)) inside (names ++ [name]) es

def filesAmong (t : FileTree) (scopes : List Ignore.Scope) (here names : List String) :
    List (String × FileNode) → List (List String)
  | [] => []
  | (name, node) :: rest => filesFrom t scopes here names name node ++ filesAmong t scopes here names rest

end

/-- The paths of the regular files below a location. A lone dash would be standard input, which has none. -/
def walk (t : FileTree) (location : String) : List String :=
  match t.locate location with
  | .error _ => []
  | .ok here =>
    if Path.same location "-" then []
    else
      let scopes := ⟨t.rulesIn here, []⟩ :: t.rulesAbove here
      let files := filesAmong t scopes here [] (((t.root.at? here).map FileNode.entries).getD [])
      files.map fun names => names.foldl Path.join location

/-- The sources at a location, given the files below it in whatever order they are found. -/
def discoverAmong (t : FileTree) (files : List String) (location : String) : Except LocationError (List Source) :=
  if t.isDirectory location then .ok (Source.ofFiles location files)
  else if !t.isThere location then .error (.missing location)
  else if Path.isArchive location then .ok [.archive location]
  else if Path.isClassFile location then .ok [.classFile ((Path.parent? location).getD ".") location]
  else .error (.unsuited location)

/-- The sources at a location. -/
def discover (t : FileTree) (location : String) : Except LocationError (List Source) :=
  t.discoverAmong (t.walk location) location

end FileTree

end ClassAtlas
