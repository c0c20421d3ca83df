import ClassAtlas.Invocation
import ClassAtlas.Load
import ClassAtlas.Pattern.Parse
import ClassAtlas.Render.Answer
import ClassAtlas.Settings

/-
  ClassAtlas.Program — one run of the program, from its arguments to what it prints.

  Settings are looked at first, the number of threads before the paths to search; then the
  locations are searched, and only then is a name pattern read. What is found does not
  depend on the number of threads.
-/

namespace ClassAtlas

inductive ProgramError where
  | settings (e : SettingsError)
  | location (e : LocationError)
  | badPattern (pattern : String) (e : PatternError)
  | unknownClass (e : UnknownClass)
  deriving DecidableEq, Repr

/-- What went wrong, and then why. -/
def ProgramError.chain : ProgramError → List String
  | settings e => e.chain
  | location e => [e.message]
  | badPattern pattern e => ["Invalid --name-regex: " ++ pattern, e.message]
  | unknownClass e => [e.message]

/-- The query that the options of a scan stand for, with what a name pattern accepts. -/
def ScanRequest.query (r : ScanRequest) (named : Option (String → Bool)) : Query :=
  .all (r.subclassOf.toList.map (fun base => .subclassOf (Name.normalize base)) ++
    r.annotatedWith.toList.map (fun name => .annotated (Name.normalize name) .onClass) ++
    r.memberAnnotatedWith.toList.map (fun name => .annotated (Name.normalize name) .onMember) ++
    (if r.allModifiers then [.allModifiers (Modifier.mask r.modifiers)]
     else if r.modifiers.isEmpty then []
     else [.anyModifier (Modifier.mask r.modifiers)]) ++
    named.toList.map .named)

def ScanRequest.namePredicate (r : ScanRequest) : Except ProgramError (Option (String → Bool)) :=
  match r.nameRegex with
  | none => .ok none
  | some pattern =>
    match Pattern.Regex.ofText pattern with
    | .ok regex => .ok (some regex.matchesText)
    | .error e => .error (.badPattern pattern e)

/-- The exit code, what is printed, and what is complained of. -/
structure RunResult where
  exit : Nat
  output : String
  complaint : String
  deriving DecidableEq, Repr

namespace Program

def surveyOf (env : Environment) (t : FileTree) (paths : List String) (retain skipNested : Bool) :
    Except ProgramError Survey := do
  let locations ← (Settings.searchPaths paths env.classpath).mapError .settings
  (t.survey retain skipNested locations).mapError .location

def inspected (r : ShowRequest) (s : Survey) : Except ProgramError Portrait :=
  (s.portrait (Name.normalize r.className)).mapError .unknownClass

/-- What a command prints. -/
def answer (env : Environment) (t : FileTree) (milliseconds : Nat) : Command → Except ProgramError String
  | .scan r => do
    let s ← surveyOf env t r.paths false r.skipInner
    let l := s.listing (r.query (← r.namePredicate)) milliseconds
    return match r.format with | .json => l.json | .text => l.text
  | .inspect r => do
    let p ← inspected r (← surveyOf env t r.paths r.retainBytecode false)
    return match r.format with | .json => p.json | .text => p.text

/-- The lines of a text, each with `indent` in front of it, the first with `first`. -/
def indented (first indent text : String) : String :=
  first ++ String.intercalate ("\n" ++ indent) ((text.toList.splitOn '\n').map String.ofList)

def numberMark (n : Nat) : String :=
  let digits := toString n
  String.ofList (List.replicate (5 - digits.length) ' ') ++ digits ++ ": "

/-- An error and its causes, which are numbered if they are several. -/
def complaint : List String → String
  | [] => ""
  | head :: causes =>
    let lines := match causes with
      | [] => []
      | [c] => ["", "Caused by:", indented "    " "    " c]
      | cs => ["", "Caused by:"] ++ cs.zipIdx.map fun p => indented (numberMark p.2) "       " p.1
    Render.lines (("Error: " ++ head) :: lines)

/-- A text that ends with a line feed. -/
def finished (s : String) : String := if s.toList.getLast? = some '\n' then s else s ++ "\n"

def help : String :=
  Render.lines ["Usage: class-meta [OPTIONS] <COMMAND>", "", "Commands:",
    "  scan  List the classes found under the search paths", "  show  Print one class",
    "  help  Print this message", "", "Options:", "  -v, --verbose...     Log more",
    "      --threads <N>    Number of worker threads", "  -h, --help           Print help"]

def run (env : Environment) (t : FileTree) (milliseconds : Nat) (words : List String) : RunResult :=
  match Invocation.ofArguments words with
  | .error .helpAsked => ⟨0, help, ""⟩
  | .error _ => ⟨2, "", help⟩
  | .ok i =>
    match (Settings.threads i.threads env.threads).mapError ProgramError.settings with
    | .error e => ⟨1, "", complaint e.chain⟩
    | .ok _ =>
      match answer env t milliseconds i.command with
      | .error e => ⟨1, "", complaint e.chain⟩
      | .ok text => ⟨0, finished text, ""⟩

/-- The locations that a run would search, for those that have to be read beforehand. -/
def locations (env : Environment) (words : List String) : List String :=
  match Invocation.ofArguments words with
  | .error _ => []
  | .ok i => ((Settings.searchPaths i.command.paths env.classpath).toOption).getD []

end Program

end ClassAtlas
