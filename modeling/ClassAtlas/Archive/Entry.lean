import ClassAtlas.Archive.Checksum
import ClassAtlas.Archive.Directory
import ClassAtlas.Archive.Inflate
import ClassAtlas.Path

/-
  ClassAtlas.Archive.Entry — the entries of an archive, and the class files among them.

  Every entry is opened in turn, and the first that cannot be opened is the end of it,
  whether or not it is a class file. Of the others those are taken that are class files,
  not under `META-INF/`, and not nested when nested ones are not wanted; the first of them
  that is damaged is the end of it too.
-/

namespace ClassAtlas.Archive

/-- Why the content of an entry cannot be had. -/
inductive Damage where
  | badStream
  | badChecksum
  deriving DecidableEq, Repr

def Damage.message : Damage → String
  | badStream => "corrupt deflate stream"
  | badChecksum => "Invalid checksum"

/-- An opened entry: the data as it is stored, whether it is compressed, and its checksum. -/
structure Stored where
  data : Bytes
  isDeflated : Bool
  crc : Nat
  deriving DecidableEq, Repr

def Stored.content (s : Stored) : Except Damage Bytes :=
  match (if s.isDeflated then Inflate.inflate? s.data else some s.data) with
  | none => .error .badStream
  | some bytes => if (Checksum.crc32 bytes).toNat = s.crc then .ok bytes else .error .badChecksum

structure Entry where
  name : String
  opened : Except ArchiveError Stored

namespace Entry

def isDirectory (e : Entry) : Bool :=
  match e.name.toList.getLast? with
  | some c => c = '/' || c = '\\'
  | none => false

/-- A class file that is wanted. -/
def isWanted (skipNested : Bool) (e : Entry) : Bool :=
  !e.isDirectory && ".class".toList.isSuffixOf e.name.toList &&
    !"META-INF/".toList.isPrefixOf e.name.toList && !(skipNested && Path.isNestedClass e.name)

/-- The data behind the local header that `h` points to. -/
def openAt (a : Image) (h : Header) : Except ArchiveError Stored := do
  if h.isEncrypted then throw .passwordRequired
  if (← a.number h.start 4) ≠ 0x04034B50 then throw .badLocalHeader
  let nameLength ← a.number (h.start + 26) 2
  let extraLength ← a.number (h.start + 28) 2
  let start := h.start + 30 + nameLength + extraLength
  if h.method ≠ 0 && h.method ≠ 8 then throw .unknownMethod
  if h.hasAes then throw .wrongPassword
  return ⟨(a.extract start (start + h.compressedSize)).toList, h.method = 8, h.crc⟩

def ofHeader (a : Image) (h : Header) : Entry := ⟨h.name, openAt a h⟩

end Entry

/-- Why the class files of an archive cannot be had. -/
inductive EntryError where
  | unopened (e : ArchiveError)
  | damaged (name : String) (d : Damage)
  deriving DecidableEq, Repr

/-- The class files among entries, by name. -/
def classFiles (skipNested : Bool) : List Entry → Except EntryError (List (String × Bytes))
  | [] => .ok []
  | e :: es =>
    match e.opened with
    | .error x => .error (.unopened x)
    | .ok s =>
      if e.isWanted skipNested then
        match s.content with
        | .error d => .error (.damaged e.name d)
        | .ok bytes => (classFiles skipNested es).map ((e.name, bytes) :: ·)
      else classFiles skipNested es

/-- The entries of an archive, in the order of its directory. -/
def entries (bytes : Bytes) : Except ArchiveError (List Entry) :=
  let a : Image := bytes.toArray
  (headers a).map fun hs => hs.map (Entry.ofHeader a)

end ClassAtlas.Archive
