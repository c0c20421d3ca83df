import ClassAtlas.Load
import ClassAtlas.Proofs.Accounts

/-
  ClassAtlas.Proofs.Spoiling — one bad entry spoils its archive.

  An entry is at fault when it cannot be opened, wanted or not, and when it is wanted and its
  content is damaged (`Entry.fault?`). An archive without such an entry yields every class file
  that is wanted, in its order; with one it yields none, and the first fault is all that is
  heard of it (`classFiles_eq`). So what becomes of a sound class file hangs on all other
  entries of its archive (`archive_all_or_nothing`): a survey books the archive as a whole, as
  one failure that names no entry.
-/

namespace ClassAtlas

namespace Archive

variable (skipNested : Bool)

/-- What is wrong with an entry. -/
def Entry.fault? (e : Entry) : Option EntryError :=
  match e.opened with
  | .error x => some (.unopened x)
  | .ok s =>
    if e.isWanted skipNested then
      match s.content with
      | .error d => some (.damaged e.name d)
      | .ok _ => none
    else none

/-- The class file in an entry, if it is wanted and can be had. -/
def Entry.classFile? (e : Entry) : Option (String × Bytes) :=
  match e.opened with
  | .error _ => none
  | .ok s =>
    if e.isWanted skipNested then
      match s.content with
      | .error _ => none
      | .ok bytes => some (e.name, bytes)
    else none

/-- The first fault, or all that is wanted. -/
theorem classFiles_eq (es : List Entry) :
    classFiles skipNested es =
      match es.findSome? (Entry.fault? skipNested) with
      | some x => .error x
      | none => .ok (es.filterMap (Entry.classFile? skipNested)) := by
  induction es with
  | nil => rfl
  | cons e es ih =>
    rw [classFiles, List.findSome?_cons, List.filterMap_cons, Entry.fault?, Entry.classFile?]
    cases e.opened with
    | error x => rfl
    | ok s =>
      cases e.isWanted skipNested with
      | false =>
        simp only [Bool.false_eq_true, if_false]
        exact ih
      | true =>
        simp only [if_true]
        cases s.content with
        | error d => rfl
        | ok bytes =>
          rw [ih]
          cases es.findSome? (Entry.fault? skipNested) with
          | some x => rfl
          | none => rfl

end Archive

namespace Source

open Archive

/-- The units that an archive should yield: the class files that are wanted and can be had. -/
def soundUnits (skipNested : Bool) (es : List Entry) : List SourceUnit :=
  (es.filterMap (Entry.classFile? skipNested)).map fun f => ⟨f.1, f.2⟩

theorem unitsOfEntries_of_sound {skipNested : Bool} {es : List Entry}
    (h : es.findSome? (Entry.fault? skipNested) = none) (path : String) :
    unitsOfEntries path skipNested es = .ok (soundUnits skipNested es) := by
  rw [unitsOfEntries, classFiles_eq, h]
  rfl

theorem unitsOfEntries_of_fault {skipNested : Bool} {es : List Entry} {x : EntryError}
    (h : es.findSome? (Entry.fault? skipNested) = some x) (path : String) :
    ∃ err, unitsOfEntries path skipNested es = .error err := by
  rw [unitsOfEntries, classFiles_eq, h]
  cases x with
  | unopened e => exact ⟨_, rfl⟩
  | damaged name d => exact ⟨_, rfl⟩

/-- An archive without a fault yields its sound class files in their order. With a fault it is booked as
    one failure of no entry and nothing else. So its sound class files are among its units if and only if
    no entry is at fault, or there are none of them. -/
theorem archive_all_or_nothing (path : String) (skipNested retain : Bool) (es : List Entry) :
    let units := unitsOfEntries path skipNested es
    let booked := (archive path).outcome retain units
    (match es.findSome? (Entry.fault? skipNested) with
      | none => units = .ok (soundUnits skipNested es)
      | some _ => booked.loaded = [] ∧ ∃ message, booked.failures = [⟨path, none, message⟩]) ∧
      ((∀ u ∈ soundUnits skipNested es, ∃ us, units = .ok us ∧ u ∈ us) ↔
        (∀ e ∈ es, e.fault? skipNested = none) ∨ soundUnits skipNested es = []) := by
  intro units booked
  have hfault : (∀ e ∈ es, e.fault? skipNested = none) ↔ es.findSome? (Entry.fault? skipNested) = none :=
    List.findSome?_eq_none_iff.symm
  rw [hfault]
  cases hfound : es.findSome? (Entry.fault? skipNested) with
  | none =>
    have hunits : units = .ok (soundUnits skipNested es) := unitsOfEntries_of_sound hfound path
    refine ⟨hunits, ?_⟩
    simp only [true_or, iff_true]
    exact fun u hu => ⟨_, hunits, hu⟩
  | some x =>
    obtain ⟨err, herr⟩ := unitsOfEntries_of_fault hfound path
    have hunits : units = .error err := herr
    refine ⟨?_, ?_⟩
    · simp only [booked, hunits]
      exact ⟨rfl, err.message, rfl⟩
    · -- no unit is there, so none may be missed
      constructor
      · intro hkept
        refine Or.inr (List.eq_nil_iff_forall_not_mem.mpr fun u hu => ?_)
        obtain ⟨us, hus, -⟩ := hkept u hu
        rw [hunits] at hus
        cases hus
      · rintro (h | h)
        · cases h
        · intro u hu
          rw [h] at hu
          cases hu

/-- A class file that is stored as it is, behind it a text that no method is known for. -/
def spoiledEntries : List Entry :=
  [⟨"A.class", .ok ⟨[0x78], false, 0x8CDC1683⟩⟩, ⟨"notes.txt", .error .unknownMethod⟩]

/-- The class file is sound and wanted, the text is neither, and still the class file is not had. -/
theorem text_spoils_class :
    soundUnits false spoiledEntries = [⟨"A.class", [0x78]⟩] ∧
      unitsOfEntries "lib.jar" false spoiledEntries = .error (.unopenedEntry .unknownMethod) := by
  decide +kernel

end Source

end ClassAtlas
