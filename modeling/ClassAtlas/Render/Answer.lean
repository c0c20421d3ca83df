import ClassAtlas.Query
import ClassAtlas.Render.Text
import ClassAtlas.Survey

/-
  ClassAtlas.Render.Answer — the two answers of the program, and how each is written.

  A listing is what a survey found and a query accepts. A portrait is one class of a survey,
  with the classes directly under it.
-/

namespace ClassAtlas

structure Listing where
  units : Nat
  duplicates : Nat
  milliseconds : Nat
  failures : List Failure
  classes : List ClassRecord

structure Portrait where
  record : ClassRecord
  subclasses : List String
  units : Nat

/-- The survey has no class of that name. -/
structure UnknownClass where
  name : String
  units : Nat
  deriving DecidableEq, Repr

def UnknownClass.message (e : UnknownClass) : String :=
  "Class " ++ e.name ++ " not found (" ++ toString e.units ++ " units scanned)"

namespace Survey

def listing (s : Survey) (q : Query) (milliseconds : Nat) : Listing :=
  ⟨s.units, s.duplicates, milliseconds, s.failures, s.catalog.matching q⟩

def portrait (s : Survey) (name : String) : Except UnknownClass Portrait :=
  match s.catalog.find? name with
  | none => .error ⟨name, s.units⟩
  | some c => .ok ⟨c, (s.catalog.directSubclasses name).map (·.name), s.units⟩

end Survey

namespace Listing

def text (l : Listing) : String :=
  Render.lines ([ "scanned_units: " ++ toString l.units, "classes: " ++ toString l.classes.length,
      "duration_ms: " ++ toString l.milliseconds ] ++
    l.classes.map (fun c => "- " ++ Render.declaration c ++ "  [" ++ c.location ++ "]") ++
    l.failures.map fun f => "! " ++ f.location ++ " " ++ f.entry.getD "" ++ ": " ++ f.message)

def failureJson (f : Failure) : Render.Json :=
  .obj [("location", .str f.location), ("entry", .ofOption .str f.entry), ("message", .str f.message)]

def json (l : Listing) : String :=
  Render.Json.pretty 0 (.obj [("scanned_units", .int l.units), ("duplicates", .int l.duplicates),
    ("duration_ms", .int l.milliseconds), ("failures", .arr (l.failures.map failureJson)),
    ("classes", .arr (l.classes.map Render.classJson))])

end Listing

namespace Portrait

def text (p : Portrait) : String :=
  Render.lines (Render.classLines p.record ++
    (if p.subclasses.isEmpty then [] else ["direct_subclasses: " ++ String.intercalate ", " p.subclasses]) ++
    (match p.record.digest? with | none => [] | some d => ["bytecode_sha256: " ++ d]))

def json (p : Portrait) : String :=
  Render.Json.pretty 0
    (.obj [("kind", .str p.record.access.kind.keyword), ("modifiers", .strings p.record.access.keywords),
    ("class", Render.classJson p.record), ("direct_subclasses", .strings p.subclasses),
    ("bytecode_sha256", .ofOption .str p.record.digest?), ("scanned_units", .int p.units)])

end Portrait

end ClassAtlas
