import ClassAtlas.Path
import ClassAtlas.Text.Blank
import ClassAtlas.Text.Number

/-
  ClassAtlas.Settings — what the environment decides where the command line is silent.

  Paths to search come from `CLASSPATH` when none are given, the number of threads from
  `CLASS_META_THREADS` when the flag is not, and what is logged from `RUST_LOG`, else from
  `CLASS_META_LOG`, else from how often `-v` was given.
-/

namespace ClassAtlas

structure Environment where
  classpath : Option String
  threads : Option String
  commonLog : Option String
  ownLog : Option String
  deriving DecidableEq, Repr

inductive SettingsError where
  | noSearchPaths
  | zeroThreadsGiven
  | zeroThreads (raw : String)
  | badThreads (raw : String) (e : Text.NumberError)
  deriving DecidableEq, Repr

/-- What went wrong, and then why. -/
def SettingsError.chain : SettingsError → List String
  | noSearchPaths => ["No search paths given and CLASSPATH is not set"]
  | zeroThreadsGiven => ["Invalid --threads value: 0 (must be at least 1)"]
  | zeroThreads raw => ["Invalid CLASS_META_THREADS value: " ++ raw ++ " (must be at least 1)"]
  | badThreads raw e => ["Invalid CLASS_META_THREADS value: " ++ raw, e.message]

namespace Settings

/-! ## Search paths -/

/-- A star as the last component means the directory that it is in. -/
def classpathEntry (entry : String) : String :=
  if Path.fileName? entry = some "*" then (Path.parent? entry).getD "." else entry

def classpathEntries (classpath : String) : List String :=
  (((classpath.toList.splitOn ':').map String.ofList).filter (· ≠ "")).map classpathEntry

def searchPaths (given : List String) (classpath : Option String) : Except SettingsError (List String) :=
  if given ≠ [] then .ok given
  else
    match (classpath.map classpathEntries).getD [] with
    | [] => .error .noSearchPaths
    | entries => .ok entries

/-! ## Threads -/

def isBlankText (s : String) : Bool := s.toList.all Text.isBlank

def trimmed (s : String) : String := String.ofList (Text.trim s.toList)

/-- The number of threads asked for; `none` leaves it to the machine. -/
def threads (given : Option Nat) (inEnvironment : Option String) : Except SettingsError (Option Nat) :=
  match given, inEnvironment with
  | some 0, _ => .error .zeroThreadsGiven
  | some n, _ => .ok (some n)
  | none, none => .ok none
  | none, some raw =>
    if isBlankText raw then .ok none
    else
      match Text.readCount (trimmed raw) with
      | .error e => .error (.badThreads raw e)
      | .ok 0 => .error (.zeroThreads raw)
      | .ok n => .ok (some n)

end Settings

/-! ## Logging -/

inductive LogLevel where
  | off
  | error
  | warn
  | info
  | debug
  | trace
  deriving DecidableEq, Repr

namespace LogLevel

def name : LogLevel → String
  | off => "off"
  | error => "error"
  | warn => "warn"
  | info => "info"
  | debug => "debug"
  | trace => "trace"

def all : List LogLevel := [off, error, warn, info, debug, trace]

def ofVerbosity : Nat → LogLevel
  | 0 => warn
  | 1 => info
  | 2 => debug
  | _ => trace

/-- A level by its number from 0, or by its name in letters of any case. -/
def ofText? (s : String) : Option LogLevel :=
  match Text.readCount s with
  | .ok n => all[n]?
  | .error _ => if s = "" then some error else all.find? fun l => l.name == s.map Char.toLower

end LogLevel

/-- What to log: from `target` if there is one, within `span` if there is one. -/
structure LogDirective where
  target : Option String
  span : Option String
  level : LogLevel
  deriving DecidableEq, Repr

namespace LogDirective

def text (d : LogDirective) : String :=
  let source := d.target.getD "" ++ (d.span.map fun s => "[" ++ s ++ "]").getD ""
  if source = "" then d.level.name else source ++ "=" ++ d.level.name

/-- What stands behind an equals sign; nothing there means everything. -/
def levelOf? (s : List Char) : Option LogLevel :=
  if s = [] then some .trace else LogLevel.ofText? (String.ofList s)

def canStart (c : Char) : Bool := c.isAlphanum || c = '-' || c = ':' || c = '_'

/-- `level`, `target`, `target=level`, and each with a span in brackets behind the target. -/
def parse? (text : String) : Option LogDirective :=
  let s := Text.trim text.toList
  let target := s.takeWhile fun c => c ≠ '=' && c ≠ '['
  let named : Option String := if target = [] then none else some (String.ofList target)
  if !(s.head?.any fun c => canStart c || c = '[') then none
  else
    match s.dropWhile fun c => c ≠ '=' && c ≠ '[' with
    | [] =>
      match LogLevel.ofText? (String.ofList target) with
      | some l => some ⟨none, none, l⟩
      | none => some ⟨named, none, .trace⟩
    | '=' :: level => (levelOf? level).map fun l => ⟨named, none, l⟩
    | _ :: inside =>
      let span := some (String.ofList (inside.takeWhile (· ≠ ']')))
      match inside.dropWhile (· ≠ ']') with
      | [']'] => some ⟨named, span, .trace⟩
      | ']' :: '=' :: level => (levelOf? level).map fun l => ⟨named, span, l⟩
      | _ => none

/-- The more particular directive first: the longer target, then the later one by its letters. -/
def before (a b : LogDirective) : Bool :=
  let key (d : LogDirective) : Nat := (d.target.map fun t => t.utf8ByteSize + 1).getD 0
  if key a ≠ key b then key b < key a else (b.target.getD "") < (a.target.getD "")

/-- Put `d` in its place, over one for the same target. -/
def insert (d : LogDirective) : List LogDirective → List LogDirective
  | [] => [d]
  | e :: es =>
    if d.target = e.target && d.span = e.span then d :: es
    else if d.before e then d :: e :: es
    else e :: insert d es

end LogDirective

namespace Settings

/-- A list of directives, as it is shown; none if one of them cannot be read. -/
def logFilter? (text : String) : Option String :=
  if text = "" then some ""
  else
    ((text.toList.splitOn ',').mapM fun d => LogDirective.parse? (String.ofList d)).map fun ds =>
      let (within, plain) := ds.partition (·.span.isSome)
      let sorted (ds : List LogDirective) : List LogDirective := ds.foldl (fun acc d => LogDirective.insert d acc) []
      String.intercalate "," ((sorted plain ++ sorted within).map LogDirective.text)

def logFilter (env : Environment) (verbosity : Nat) : String :=
  ((env.commonLog.bind logFilter?).orElse fun _ => env.ownLog.bind logFilter?).getD
    (LogLevel.ofVerbosity verbosity).name

end Settings

end ClassAtlas
