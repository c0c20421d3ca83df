import ClassAtlas.Program

/-
  ClassAtlas.Main — the command line: it reads the files that a run may look at into a
  tree, runs the program on them, and prints what comes of it.
-/

namespace ClassAtlas.Main

/-- Only class files, archives and rules are read; of other files it matters that they are there. -/
def isRead (name : String) : Bool := Path.isClassFile name || Path.isArchive name || name = ".ignore"

def readFile (path : String) : IO Bytes := do
  try return (← IO.FS.readBinFile path).toList catch _ => return []

/-- The node at a path without links on the way. -/
partial def readNode (path name : String) : IO FileNode := do
  let place ← IO.FS.realPath path
  match (← place.metadata).type with
  | .dir =>
    let entries ← place.readDir
    let nodes ← entries.toList.mapM fun e => do
      match (← e.path.symlinkMetadata).type with
      | .symlink =>
        if e.fileName = ".ignore" then pure (e.fileName, FileNode.file (← readFile e.path.toString))
        else pure (e.fileName, .link "")
      | _ => pure (e.fileName, ← readNode e.path.toString e.fileName)
    return .directory nodes
  | .file => if isRead name then return .file (← readFile path) else return .file []
  | _ => return .link ""

/-- The rules of the directories above a place. -/
def readRules (t : FileTree) (names : List String) : IO FileTree :=
  (List.range names.length).foldlM (fun t k => do
    let path := String.join ((names.take k).map ("/" ++ ·)) ++ "/.ignore"
    let content ← readFile path
    return if content.isEmpty then t else t.add path (.file content)) t

/-- Read what is at a location, and how it is reached from the working directory. -/
def readLocation (t : FileTree) (location : String) : IO FileTree := do
  try
    let place := (← IO.FS.realPath location).toString
    let t ← readRules (t.add place (← readNode place ((Path.fileName? location).getD ""))) (FileTree.steps place)
    return if (t.locate location).toOption = some (FileTree.steps place) then t else t.add location (.link place)
  catch _ => return t

def environment : IO Environment := do
  return ⟨← IO.getEnv "CLASSPATH", ← IO.getEnv "CLASS_META_THREADS", ← IO.getEnv "RUST_LOG",
    ← IO.getEnv "CLASS_META_LOG"⟩

def run (words : List String) : IO UInt32 := do
  let began ← IO.monoMsNow
  let env ← environment
  let here := FileTree.steps (← IO.currentDir).toString
  let t ← (Program.locations env words).foldlM readLocation (FileTree.empty here)
  let r := Program.run env t ((← IO.monoMsNow) - began) words
  (← IO.getStdout).putStr r.output
  (← IO.getStderr).putStr r.complaint
  return UInt32.ofNat r.exit

end ClassAtlas.Main

def main (words : List String) : IO UInt32 := ClassAtlas.Main.run words
