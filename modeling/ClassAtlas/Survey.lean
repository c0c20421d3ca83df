import ClassAtlas.Catalog

/-
  ClassAtlas.Survey — what came of looking through the sources.

  Sources are taken in the order in which they were discovered, and the units of each in
  the order of the source. A source that cannot be read is one failure; a unit that cannot
  be decoded is another, which names its entry. Every unit is counted, whatever came of it.
-/

namespace ClassAtlas

structure Failure where
  location : String
  /-- The unit that failed; none when the whole source did. -/
  entry : Option String
  message : String
  deriving DecidableEq, Repr

/-- One source after the attempt to read it: its units by entry, or why there are none. -/
structure Outcome where
  location : String
  units : Except String (List (String × Except String ClassRecord))

structure Survey where
  catalog : Catalog
  failures : List Failure
  units : Nat
  duplicates : Nat

namespace Survey

def empty : Survey := ⟨.empty, [], 0, 0⟩

def addRecord (s : Survey) (r : ClassRecord) : Survey :=
  let (catalog, isNew) := s.catalog.insert r
  { s with catalog := catalog, duplicates := if isNew then s.duplicates else s.duplicates + 1 }

def addFailure (s : Survey) (f : Failure) : Survey := { s with failures := s.failures ++ [f] }

def addUnit (location : String) (s : Survey) (u : String × Except String ClassRecord) : Survey :=
  let s := { s with units := s.units + 1 }
  match u.2 with
  | .ok r => s.addRecord r
  | .error message => s.addFailure ⟨location, some u.1, message⟩

def addOutcome (s : Survey) (o : Outcome) : Survey :=
  match o.units with
  | .ok us => us.foldl (addUnit o.location) s
  | .error message => s.addFailure ⟨o.location, none, message⟩

def ofOutcomes (os : List Outcome) : Survey := os.foldl addOutcome empty

end Survey

end ClassAtlas
