import ClassAtlas.Access
import ClassAtlas.Text.Number

/-
  ClassAtlas.Invocation — what a command line asks for.

  Words are read from the left. The first that is no option names the command (`scan`,
  `show` or `help`); what follows belongs to it. Some options take a value, attached
  (`--format=text`, `-ftext`) or as the next word; others are switches. After `--` every
  word is a positional one.

  An option's value is looked at when the word after it shows that it is complete, not
  before, so a fault further left may be overtaken by an unknown option further right. A
  value once accepted cannot be given again, except that `-v` counts, and that `--modifiers`
  and paths add up. `-v` and `--threads` may stand before the command or behind it, and
  behind it they win.
-/

namespace ClassAtlas

inductive UsageError where
  | helpAsked
  | nothingAsked
  | missingCommand
  | unknownCommand
  | unknownArgument
  | missingArgument
  | badValue
  | failedValue
  | repeated
  | unneededValue
  deriving DecidableEq, Repr

inductive OutputFormat where
  | json
  | text
  deriving DecidableEq, Repr

structure ScanRequest where
  paths : List String
  subclassOf : Option String
  annotatedWith : Option String
  memberAnnotatedWith : Option String
  modifiers : List Modifier
  allModifiers : Bool
  nameRegex : Option String
  skipInner : Bool
  format : OutputFormat
  deriving DecidableEq, Repr

structure ShowRequest where
  className : String
  paths : List String
  retainBytecode : Bool
  format : OutputFormat
  deriving DecidableEq, Repr

inductive Command where
  | scan (r : ScanRequest)
  | inspect (r : ShowRequest)
  deriving DecidableEq, Repr

def Command.paths : Command → List String
  | scan r => r.paths
  | inspect r => r.paths

structure Invocation where
  verbose : Nat
  threads : Option Nat
  command : Command
  deriving DecidableEq, Repr

namespace Invocation

inductive Level where
  | top
  | scan
  | inspect
  deriving DecidableEq, Repr

/-- What a word can be a value of, and the switches. -/
inductive Slot where
  | help
  | verbose
  | threads
  | subclassOf
  | annotatedWith
  | memberAnnotatedWith
  | modifiers
  | allModifiers
  | nameRegex
  | skipInner
  | retainBytecode
  | format
  | className
  | paths
  deriving DecidableEq, Repr

def Slot.takesValue : Slot → Bool
  | help | verbose | allModifiers | skipInner | retainBytecode => false
  | _ => true

def everywhere : List (String × Slot) := [("help", .help), ("verbose", .verbose), ("threads", .threads)]

def longNames : Level → List (String × Slot)
  | .top => everywhere
  | .scan =>
    everywhere ++ [("subclass-of", .subclassOf), ("annotated-with", .annotatedWith),
      ("member-annotated-with", .memberAnnotatedWith), ("modifiers", .modifiers), ("all-modifiers", .allModifiers),
      ("name-regex", .nameRegex), ("skip-inner", .skipInner), ("format", .format)]
  | .inspect => everywhere ++ [("retain-bytecode", .retainBytecode), ("format", .format)]

def shortNames : Level → List (Char × Slot)
  | .top => [('h', .help), ('v', .verbose)]
  | _ => [('h', .help), ('v', .verbose), ('f', .format)]

def long? (level : Level) (name : String) : Option Slot := ((longNames level).find? (·.1 == name)).map (·.2)

def short? (level : Level) (c : Char) : Option Slot := ((shortNames level).find? (·.1 == c)).map (·.2)

/-- The values accepted so far. -/
structure Given where
  verbose : Option Nat
  threads : Option Nat
  subclassOf : Option String
  annotatedWith : Option String
  memberAnnotatedWith : Option String
  modifiers : List Modifier
  allModifiers : Bool
  nameRegex : Option String
  skipInner : Bool
  retainBytecode : Bool
  format : Option OutputFormat
  className : Option String
  paths : List String

def Given.nothing : Given := ⟨none, none, none, none, none, [], false, none, false, false, none, none, []⟩

/-! ## Accepting values -/

/-- A value for a slot that takes one: refused if there is one already. -/
def once {α : Type} (old : Option α) (new : Except UsageError α) : Except UsageError (Option α) :=
  match old with
  | some _ => .error .repeated
  | none => new.map some

def switch (old : Bool) : Except UsageError Bool := if old then .error .repeated else .ok true

def formatOf : String → Except UsageError OutputFormat
  | "json" => .ok .json
  | "text" => .ok .text
  | _ => .error .badValue

def threadsOf (s : String) : Except UsageError Nat :=
  match Text.readCount s with
  | .ok n => .ok n
  | .error _ => .error .failedValue

/-- Modifiers by name, with commas between them. -/
def modifiersOf (s : String) : Except UsageError (List Modifier) :=
  (s.toList.splitOn ',').mapM fun m => ((Modifier.ofName? false (String.ofList m)).map .ok).getD (.error .badValue)

def pathOf (s : String) : Except UsageError String := if s = "" then .error .badValue else .ok s

/-- Take the value `v` for `slot`. -/
def Given.accept (g : Given) (slot : Slot) (v : String) : Except UsageError Given :=
  match slot with
  | .threads => do return { g with threads := ← once g.threads (threadsOf v) }
  | .subclassOf => do return { g with subclassOf := ← once g.subclassOf (.ok v) }
  | .annotatedWith => do return { g with annotatedWith := ← once g.annotatedWith (.ok v) }
  | .memberAnnotatedWith => do return { g with memberAnnotatedWith := ← once g.memberAnnotatedWith (.ok v) }
  | .modifiers => do return { g with modifiers := g.modifiers ++ (← modifiersOf v) }
  | .nameRegex => do return { g with nameRegex := ← once g.nameRegex (.ok v) }
  | .format => do return { g with format := ← once g.format (formatOf v) }
  | .className => do return { g with className := ← once g.className (.ok v) }
  | .paths => do return { g with paths := g.paths ++ [← pathOf v] }
  | .help | .verbose | .allModifiers | .skipInner | .retainBytecode => .ok g

/-- Turn a switch on; `-v` counts up to 255. -/
def Given.turnOn (g : Given) (slot : Slot) : Except UsageError Given :=
  match slot with
  | .help => .error .helpAsked
  | .verbose => .ok { g with verbose := some (min 255 (g.verbose.getD 0 + 1)) }
  | .allModifiers => do return { g with allModifiers := ← switch g.allModifiers }
  | .skipInner => do return { g with skipInner := ← switch g.skipInner }
  | .retainBytecode => do return { g with retainBytecode := ← switch g.retainBytecode }
  | _ => .ok g

/-! ## Reading words -/

/-- A slot whose values are still being gathered. -/
structure Pending where
  slot : Slot
  values : List String

structure Reader where
  level : Level
  given : Given
  pending : Option Pending
  /-- The next word is the value of this option, unless it looks like an option itself. -/
  awaiting : Option Slot
  /-- A `--` has been seen. -/
  onlyPositional : Bool

namespace Reader

def start (level : Level) : Reader := ⟨level, .nothing, none, none, false⟩

/-- Accept what was gathered. An option without its value is a fault. -/
def settle (r : Reader) : Except UsageError Reader :=
  match r.pending with
  | none => .ok r
  | some ⟨_, []⟩ => .error .badValue
  | some ⟨slot, values⟩ => do
    let given ← values.foldlM (fun g v => g.accept slot v) r.given
    return { r with given := given, pending := none }

def attach (r : Reader) (slot : Slot) (v : String) : Except UsageError Reader := do
  let r ← r.settle
  return { r with given := ← r.given.accept slot v, awaiting := none }

def await (r : Reader) (slot : Slot) : Except UsageError Reader := do
  let r ← r.settle
  return { r with pending := some ⟨slot, []⟩, awaiting := some slot }

def turnOn (r : Reader) (slot : Slot) : Except UsageError Reader := do
  let r ← r.settle
  return { r with given := ← r.given.turnOn slot, awaiting := none }

/-- A word after two dashes. -/
def readLong (r : Reader) (word : List Char) : Except UsageError Reader :=
  let name := String.ofList (word.takeWhile (· ≠ '='))
  let value? : Option String := match word.dropWhile (· ≠ '=') with
    | [] => none
    | _ :: v => some (String.ofList v)
  match long? r.level name, value? with
  | none, _ => .error .unknownArgument
  | some slot, some v => if slot.takesValue then r.attach slot v else .error .unneededValue
  | some slot, none => if slot.takesValue then r.await slot else r.turnOn slot

/-- The letters after one dash: switches, up to an option that takes the rest as its value. -/
def readShort (r : Reader) : List Char → Except UsageError Reader
  | [] => .ok r
  | c :: cs =>
    match short? r.level c with
    | none => .error .unknownArgument
    | some slot =>
      if slot.takesValue then
        match cs with
        | [] => r.await slot
        | '=' :: v => r.attach slot (String.ofList v)
        | v => r.attach slot (String.ofList v)
      else
        match r.turnOn slot with
        | .ok r' => readShort r' cs
        | .error e => .error e

/-- The slot that the next positional word fills. -/
def positional? (r : Reader) : Option Slot :=
  match r.level with
  | .top => none
  | .scan => some .paths
  | .inspect =>
    let named := r.given.className.isSome || r.pending.any (·.slot == .className) || r.pending.any (·.slot == .paths)
    some (if named then .paths else .className)

def readPositional (r : Reader) (word : String) : Except UsageError Reader :=
  match r.positional? with
  | none => .error .unknownCommand
  | some slot =>
    match r.pending with
    | some ⟨s, vs⟩ =>
      if s = slot && slot = .paths then .ok { r with pending := some ⟨s, vs ++ [word]⟩, awaiting := none }
      else do
        let r ← r.settle
        return { r with pending := some ⟨slot, [word]⟩, awaiting := none }
    | none => .ok { r with pending := some ⟨slot, [word]⟩, awaiting := none }

def readWord (r : Reader) (word : String) : Except UsageError Reader :=
  if r.onlyPositional then r.readPositional word
  else
    match word.toList with
    | ['-', '-'] => .ok { r with onlyPositional := true }
    | '-' :: '-' :: rest => r.readLong rest
    | '-' :: c :: cs => r.readShort (c :: cs)
    | _ =>
      match r.awaiting with
      | some slot => .ok { r with pending := some ⟨slot, [word]⟩, awaiting := none }
      | none => r.readPositional word

end Reader

/-- All words of a command, and the values they leave. -/
def readAll (level : Level) (words : List String) : Except UsageError Given := do
  let r ← words.foldlM Reader.readWord (Reader.start level)
  return (← r.settle).given

/-! ## Commands -/

def scanOf (words : List String) : Except UsageError (Given × Command) := do
  let g ← readAll .scan words
  if g.allModifiers && g.modifiers.isEmpty then throw .missingArgument
  return (g, .scan ⟨g.paths, g.subclassOf, g.annotatedWith, g.memberAnnotatedWith, g.modifiers, g.allModifiers,
    g.nameRegex, g.skipInner, g.format.getD .json⟩)

def inspectOf (words : List String) : Except UsageError (Given × Command) := do
  let g ← readAll .inspect words
  match g.className with
  | none => throw .missingArgument
  | some name => return (g, .inspect ⟨name, g.paths, g.retainBytecode, g.format.getD .json⟩)

/-- `help` goes on to name a command, or nothing. -/
def helpOn : List String → UsageError
  | [] => .helpAsked
  | ["scan"] => .helpAsked
  | ["show"] => .helpAsked
  | ["help"] => .helpAsked
  | _ => .unknownCommand

/-- Close the part before the command, and let the part behind it win. -/
def combine (r : Reader) (behind : Except UsageError (Given × Command)) : Except UsageError Invocation := do
  let (g, command) ← behind
  let r ← r.settle
  return ⟨(g.verbose.orElse fun _ => r.given.verbose).getD 0, g.threads.orElse fun _ => r.given.threads, command⟩

/-- Words up to the command's name, then the command. -/
def readTop (r : Reader) : List String → Except UsageError Invocation
  | [] => do
    let r ← r.settle
    if r.given.verbose.isNone && r.given.threads.isNone then throw .nothingAsked
    throw .missingCommand
  | word :: rest =>
    if r.onlyPositional && (word = "scan" || word = "show" || word = "help") then .error .unknownArgument
    else if r.onlyPositional || r.awaiting.isSome then next r word rest
    else if word = "scan" then combine r (scanOf rest)
    else if word = "show" then combine r (inspectOf rest)
    else if word = "help" then .error (helpOn rest)
    else next r word rest
where
  next (r : Reader) (word : String) (rest : List String) : Except UsageError Invocation :=
    match r.readWord word with
    | .ok r' => readTop r' rest
    | .error e => .error e

/-- The invocation that the words after the program's name spell. -/
def ofArguments (words : List String) : Except UsageError Invocation := readTop (Reader.start .top) words

end Invocation

end ClassAtlas
