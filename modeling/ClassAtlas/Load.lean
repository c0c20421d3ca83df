import ClassAtlas.Archive.Entry
import ClassAtlas.ClassFile.Read
import ClassAtlas.Source
import ClassAtlas.Survey

/-
  ClassAtlas.Load — from sources to the classes in them.

  A class file is one unit, named by its path below the root it was found under; an
  archive has a unit for each class file in it. A source that cannot be read to the end
  has none.
-/

namespace ClassAtlas

structure SourceUnit where
  entry : String
  bytes : Bytes
  deriving DecidableEq, Repr

inductive LoadError where
  | unread (path : String) (e : FileError)
  | unopened (path : String) (e : FileError)
  | unmapped (path : String) (e : FileError)
  | unstructured (path : String) (e : Archive.ArchiveError)
  | unopenedEntry (e : Archive.ArchiveError)
  | damagedEntry (path name : String) (d : Archive.Damage)
  deriving DecidableEq, Repr

/-- What went wrong, and then why. -/
def LoadError.chain : LoadError → List String
  | unread path e => ["Failed to read class file: " ++ path, e.message]
  | unopened path e => ["Failed to open archive: " ++ path, e.message]
  | unmapped path e => ["Failed to mmap archive: " ++ path, e.message]
  | unstructured path e => ("Failed to read zip structure: " ++ path) :: e.chain
  | unopenedEntry e => e.chain
  | damagedEntry path name d => ["Failed to inflate " ++ name ++ " in " ++ path, d.message]

def LoadError.message (e : LoadError) : String := String.intercalate ": " e.chain

/-- Which way a separator leans in an entry. -/
def leanForward (c : Char) : Char := if c = '\\' then '/' else c

/-- How a file is named in reports: its path below `root`, with slashes that lean forward. -/
def entryName (root path : String) : String := ((Path.below? root path).getD path).map leanForward

namespace Source

/-- The units among the entries of an archive. -/
def unitsOfEntries (path : String) (skipNested : Bool) (es : List Archive.Entry) : Except LoadError (List SourceUnit) :=
  match Archive.classFiles skipNested es with
  | .ok files => .ok (files.map fun f => ⟨f.1, f.2⟩)
  | .error (.unopened e) => .error (.unopenedEntry e)
  | .error (.damaged name d) => .error (.damagedEntry path name d)

/-- The units of a source. -/
def load (t : FileTree) (skipNested : Bool) : Source → Except LoadError (List SourceUnit)
  | classFile root path =>
    let entry := entryName root path
    if skipNested && Path.isNestedClass entry then .ok []
    else
      match t.read path with
      | .ok bytes => .ok [⟨entry, bytes⟩]
      | .error e => .error (.unread path e)
  | archive path =>
    match t.openNode path with
    | .error e => .error (.unopened path e)
    | .ok (.file bytes) =>
      match Archive.entries bytes with
      | .ok es => unitsOfEntries path skipNested es
      | .error e => .error (.unstructured path e)
    | .ok _ => .error (.unmapped path .noDevice)

/-- The record of a unit, or why there is none. -/
def decode (s : Source) (retain : Bool) (u : SourceUnit) : Except String ClassRecord :=
  match decodeUnit s.location retain u.bytes with
  | .ok (_, c) => .ok c
  | .error (.malformed e) => .error e.message
  | .error (.refused e) => .error e.message

/-- What comes of a source whose units are given. -/
def outcome (s : Source) (retain : Bool) (units : Except LoadError (List SourceUnit)) : Outcome :=
  ⟨s.location,
    match units with
    | .ok us => .ok (us.map fun u => (u.entry, s.decode retain u))
    | .error e => .error e.message⟩

end Source

namespace FileTree

/-- The sources at several locations, in the order of these. -/
def discoverAll (t : FileTree) : List String → Except LocationError (List Source)
  | [] => .ok []
  | l :: ls => do
    let here ← t.discover l
    let further ← t.discoverAll ls
    return here ++ further

/-- Look through all sources at the locations. -/
def survey (t : FileTree) (retain skipNested : Bool) (locations : List String) : Except LocationError Survey :=
  (t.discoverAll locations).map fun ss => Survey.ofOutcomes (ss.map fun s => s.outcome retain (s.load t skipNested))

end FileTree

end ClassAtlas
