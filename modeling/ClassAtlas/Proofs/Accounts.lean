import ClassAtlas.Proofs.Lookup
import ClassAtlas.Survey

/-
  ClassAtlas.Proofs.Accounts — the books of a survey.

  A source yields units, and with them records and failures (`Outcome.loaded`,
  `Outcome.records`, `Outcome.failures`), whatever the other sources do. A survey keeps the
  first record of each name, counts those that came too late, and has every failure in its
  place (`Accounts`): one unit enters one line into the books, and so a whole survey has the
  lines of all its sources (`accounts_ofOutcomes`). Nothing is entered twice, so the books
  balance.

  A failure is entered among the failures only. Surveys that differ in nothing but their
  failures (`Alike`) go on alike whatever sources come next, so taking a failing source or
  unit out changes what came of no other.
-/

namespace ClassAtlas

/-- The record of a unit, if there is one. -/
def unitRecord : String × Except String ClassRecord → List ClassRecord
  | (_, .ok r) => [r]
  | (_, .error _) => []

/-- What a unit leaves among the failures. -/
def unitFailure (location : String) : String × Except String ClassRecord → List Failure
  | (_, .ok _) => []
  | (entry, .error message) => [⟨location, some entry, message⟩]

namespace Outcome

/-- The units that were loaded from a source. -/
def loaded (o : Outcome) : List (String × Except String ClassRecord) :=
  match o.units with
  | .ok us => us
  | .error _ => []

/-- The records that a source yields, in the order of its units. -/
def records (o : Outcome) : List ClassRecord := o.loaded.flatMap unitRecord

/-- Its failures: those of its units, or the one that left it without any. -/
def failures (o : Outcome) : List Failure :=
  match o.units with
  | .ok us => us.flatMap (unitFailure o.location)
  | .error message => [⟨o.location, none, message⟩]

/-- A unit gives a record, or else a failure that names it. -/
theorem length_loaded (o : Outcome) : o.loaded.length = o.records.length + o.failures.countP (·.entry.isSome) := by
  rcases o with ⟨location, message | us⟩
  · rfl
  · show us.length = (us.flatMap unitRecord).length + (us.flatMap (unitFailure location)).countP (·.entry.isSome)
    induction us with
    | nil => rfl
    | cons u us ih =>
      simp only [List.length_cons, List.flatMap_cons, List.length_append, List.countP_append, ih]
      rcases u with ⟨entry, message | r⟩
      · simp only [unitRecord, unitFailure, List.length_nil, List.countP_cons, List.countP_nil,
          Option.isSome_some, if_true]
        omega
      · simp only [unitRecord, unitFailure, List.length_cons, List.length_nil, List.countP_nil]
        omega

theorem length_flatMap_loaded (os : List Outcome) :
    (os.flatMap loaded).length = (os.flatMap records).length + (os.flatMap failures).countP (·.entry.isSome) := by
  induction os with
  | nil => rfl
  | cons o os ih =>
    simp only [List.flatMap_cons, List.length_append, List.countP_append, ih, o.length_loaded]
    omega

end Outcome

namespace Survey

/-! ## What the books hold -/

structure Accounts (s : Survey) (records : List ClassRecord) (failures : List Failure) (units : Nat) : Prop where
  /-- Under a name stands the first record of that name. -/
  find : ∀ name, s.catalog.find? name = records.find? (·.name == name)
  duplicates : s.catalog.records.length + s.duplicates = records.length
  failures : s.failures = failures
  units : s.units = units

variable {s : Survey} {records : List ClassRecord} {failures : List Failure} {units : Nat}

theorem accounts_addRecord (h : Accounts s records failures units) (r : ClassRecord) :
    Accounts (s.addRecord r) (records ++ [r]) failures units where
  find := by
    intro name
    show (s.catalog.insert r).1.find? name = _
    rw [Catalog.find?_insert, h.find, List.find?_append]
    by_cases hr : r.name = name <;> simp [hr]
  duplicates := by
    have hcount := h.duplicates
    show (s.catalog.insert r).1.records.length + (if (s.catalog.insert r).2 then s.duplicates else s.duplicates + 1) = _
    rw [Catalog.length_insert, Catalog.insert_isNew, List.length_append, List.length_singleton]
    cases (s.catalog.find? r.name).isSome <;> simp <;> omega
  failures := h.failures
  units := h.units

theorem accounts_addFailure (h : Accounts s records failures units) (f : Failure) :
    Accounts (s.addFailure f) records (failures ++ [f]) units :=
  ⟨h.find, h.duplicates, by rw [addFailure, h.failures], h.units⟩

theorem accounts_addUnit (h : Accounts s records failures units) (location : String)
    (u : String × Except String ClassRecord) :
    Accounts (addUnit location s u) (records ++ unitRecord u) (failures ++ unitFailure location u) (units + 1) := by
  have hcounted : Accounts { s with units := s.units + 1 } records failures (units + 1) :=
    ⟨h.find, h.duplicates, h.failures, by rw [h.units]⟩
  rcases u with ⟨entry, message | r⟩
  · simp only [unitRecord, List.append_nil]
    exact accounts_addFailure hcounted ⟨location, some entry, message⟩
  · simp only [unitFailure, List.append_nil]
    exact accounts_addRecord hcounted r

theorem accounts_addUnits (location : String) (us : List (String × Except String ClassRecord))
    (h : Accounts s records failures units) :
    Accounts (us.foldl (addUnit location) s) (records ++ us.flatMap unitRecord)
      (failures ++ us.flatMap (unitFailure location))
      (units + us.length) := by
  induction us generalizing s records failures units with
  | nil => simpa using h
  | cons u us ih =>
    have hrest := ih (accounts_addUnit h location u)
    rw [List.append_assoc, List.append_assoc, Nat.add_assoc, Nat.add_comm 1] at hrest
    exact hrest

theorem accounts_addOutcome (h : Accounts s records failures units) (o : Outcome) :
    Accounts (s.addOutcome o) (records ++ o.records) (failures ++ o.failures) (units + o.loaded.length) := by
  rcases o with ⟨location, message | us⟩
  · simp only [Outcome.records, Outcome.loaded, List.flatMap_nil, List.append_nil]
    exact accounts_addFailure h ⟨location, none, message⟩
  · exact accounts_addUnits location us h

theorem accounts_addOutcomes (os : List Outcome) (h : Accounts s records failures units) :
    Accounts (os.foldl addOutcome s) (records ++ os.flatMap Outcome.records) (failures ++ os.flatMap Outcome.failures)
      (units + (os.flatMap Outcome.loaded).length) := by
  induction os generalizing s records failures units with
  | nil => simpa using h
  | cons o os ih =>
    have hrest := ih (accounts_addOutcome h o)
    rw [List.append_assoc, List.append_assoc, Nat.add_assoc, ← List.length_append] at hrest
    exact hrest

theorem accounts_ofOutcomes (os : List Outcome) :
    Accounts (ofOutcomes os) (os.flatMap Outcome.records) (os.flatMap Outcome.failures)
      (os.flatMap Outcome.loaded).length := by
  have hempty : Accounts empty [] [] 0 := ⟨fun _ => rfl, rfl, rfl, rfl⟩
  have hall := accounts_addOutcomes os hempty
  rw [List.nil_append, List.nil_append, Nat.zero_add] at hall
  exact hall

/-! ## What a failure changes -/

/-- `s` has `extra` units more than `t`, and otherwise they differ in their failures at most. -/
structure Alike (extra : Nat) (s t : Survey) : Prop where
  catalog : s.catalog = t.catalog
  units : s.units = t.units + extra
  duplicates : s.duplicates = t.duplicates

variable {extra : Nat} {t : Survey}

theorem alike_addUnit (h : Alike extra s t) (location : String) (u : String × Except String ClassRecord) :
    Alike extra (addUnit location s u) (addUnit location t u) := by
  have hunits : s.units + 1 = t.units + 1 + extra := by rw [h.units]; omega
  rcases u with ⟨entry, message | r⟩
  · exact ⟨h.catalog, hunits, h.duplicates⟩
  · refine ⟨?_, hunits, ?_⟩
    · show (s.catalog.insert r).1 = (t.catalog.insert r).1
      rw [h.catalog]
    · show (if (s.catalog.insert r).2 then s.duplicates else s.duplicates + 1) =
        if (t.catalog.insert r).2 then t.duplicates else t.duplicates + 1
      rw [h.catalog, h.duplicates]

theorem alike_addUnits (location : String) (us : List (String × Except String ClassRecord)) (h : Alike extra s t) :
    Alike extra (us.foldl (addUnit location) s) (us.foldl (addUnit location) t) := by
  induction us generalizing s t with
  | nil => exact h
  | cons u us ih => exact ih (alike_addUnit h location u)

theorem alike_addOutcomes (os : List Outcome) (h : Alike extra s t) :
    Alike extra (os.foldl addOutcome s) (os.foldl addOutcome t) := by
  induction os generalizing s t with
  | nil => exact h
  | cons o os ih =>
    refine ih ?_
    rcases o with ⟨location, message | us⟩
    · exact ⟨h.catalog, h.units, h.duplicates⟩
    · exact alike_addUnits location us h

/-- A source that fails. -/
theorem alike_failedSource (before after : List Outcome) (location message : String) :
    Alike 0 (ofOutcomes (before ++ ⟨location, .error message⟩ :: after)) (ofOutcomes (before ++ after)) := by
  simp only [ofOutcomes, List.foldl_append, List.foldl_cons]
  exact alike_addOutcomes after ⟨rfl, rfl, rfl⟩

/-- A unit that fails; it is still counted. -/
theorem alike_failedUnit (before after : List Outcome) (location entry message : String)
    (us vs : List (String × Except String ClassRecord)) :
    Alike 1 (ofOutcomes (before ++ ⟨location, .ok (us ++ (entry, .error message) :: vs)⟩ :: after))
      (ofOutcomes (before ++ ⟨location, .ok (us ++ vs)⟩ :: after)) := by
  simp only [ofOutcomes, List.foldl_append, List.foldl_cons]
  apply alike_addOutcomes
  simp only [addOutcome, List.foldl_append, List.foldl_cons]
  exact alike_addUnits location vs ⟨rfl, rfl, rfl⟩

/-! ## The whole survey -/

/-- The books of every survey: the catalog holds the first record of each name that any source yields, in
    the order of the sources and of their units, and nothing else; the other records are its duplicates;
    failures stand in that order too, and every unit is counted, as a class, a duplicate or a failure. A
    source that fails might as well not be there, and so might a unit, but that it is counted. -/
theorem ofOutcomes_balanced (os : List Outcome) :
    let s := ofOutcomes os
    let records := os.flatMap Outcome.records
    (∀ name, s.catalog.find? name = records.find? (·.name == name)) ∧
      (∀ r, r ∈ s.catalog.records ↔ records.find? (·.name == r.name) = some r) ∧
      s.catalog.records.length + s.duplicates = records.length ∧
      s.failures = os.flatMap Outcome.failures ∧
      s.units = (os.flatMap Outcome.loaded).length ∧
      s.units = s.catalog.records.length + s.duplicates + s.failures.countP (·.entry.isSome) ∧
      (∀ before after location message, os = before ++ ⟨location, .error message⟩ :: after →
        Alike 0 s (ofOutcomes (before ++ after))) ∧
      ∀ before after location us entry message vs,
        os = before ++ ⟨location, .ok (us ++ (entry, .error message) :: vs)⟩ :: after →
          Alike 1 s (ofOutcomes (before ++ ⟨location, .ok (us ++ vs)⟩ :: after)) := by
  intro s records
  have h : Accounts s records (os.flatMap Outcome.failures) (os.flatMap Outcome.loaded).length := accounts_ofOutcomes os
  refine ⟨h.find, fun r => ?_, h.duplicates, h.failures, h.units, ?_, ?_, ?_⟩
  · rw [s.catalog.mem_records_iff, h.find]
  · rw [h.units, h.duplicates, h.failures]
    exact Outcome.length_flatMap_loaded os
  · rintro before after location message rfl
    exact alike_failedSource before after location message
  · rintro before after location us entry message vs rfl
    exact alike_failedUnit before after location entry message us vs

end Survey

end ClassAtlas
