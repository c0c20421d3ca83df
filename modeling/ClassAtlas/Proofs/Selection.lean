import ClassAtlas.Program
import ClassAtlas.Proofs.Descent
import ClassAtlas.Proofs.Elements

/-
  ClassAtlas.Proofs.Selection — what the options of a scan select.

  Each option puts its own condition on a class (`ScanRequest.Wants`), and the classes listed
  are those of the survey's catalog that meet them all, in the order of their names. The query
  behind it asks in other terms, which come down to these:
  - Modifiers are asked for by one mask. A flag is a single bit, so a mask shares a bit with
    an access word if some flag in it is set there, and is contained in it if all are
    (`hasAny_mask`, `hasAll_mask`).
  - A chain of supertypes is followed through the whole catalog, whatever else is asked for.
  As the conditions have to be met together, an option more never lists a class more
  (`ScanRequest.Adds`).
-/

namespace ClassAtlas

/-! ## Masks -/

/-- The bit at place `i` of an access word or a mask. -/
def bitOf (w : UInt16) (i : Nat) : Bool := w.toBitVec.getLsbD i

theorem eq_of_bitOf {v w : UInt16} (h : ∀ i, bitOf v i = bitOf w i) : v = w :=
  UInt16.toBitVec_inj.mp (BitVec.eq_of_getLsbD_eq fun i _ => h i)

theorem bitOf_and (v w : UInt16) (i : Nat) : bitOf (v &&& w) i = (bitOf v i && bitOf w i) := by
  rw [bitOf, UInt16.toBitVec_and, BitVec.getLsbD_and, bitOf, bitOf]

theorem bitOf_or (v w : UInt16) (i : Nat) : bitOf (v ||| w) i = (bitOf v i || bitOf w i) := by
  rw [bitOf, UInt16.toBitVec_or, BitVec.getLsbD_or, bitOf, bitOf]

theorem bitOf_zero (i : Nat) : bitOf 0 i = false := by
  simp [bitOf]

theorem and_ne_zero_iff (v w : UInt16) : v &&& w ≠ 0 ↔ ∃ i, bitOf v i = true ∧ bitOf w i = true := by
  constructor
  · intro h
    by_contra hnone
    refine h (eq_of_bitOf fun i => ?_)
    rw [bitOf_and, bitOf_zero, Bool.eq_false_iff]
    intro hboth
    exact hnone ⟨i, Bool.and_eq_true_iff.mp hboth⟩
  · rintro ⟨i, hv, hw⟩ h
    have hbit := bitOf_and v w i
    rw [h, hv, hw, bitOf_zero] at hbit
    cases hbit

theorem and_eq_right_iff (v w : UInt16) : v &&& w = w ↔ ∀ i, bitOf w i = true → bitOf v i = true := by
  constructor
  · intro h i hw
    have hbit := bitOf_and v w i
    rw [h, hw, Bool.and_true] at hbit
    exact hbit.symm
  · intro h
    refine eq_of_bitOf fun i => ?_
    rw [bitOf_and]
    cases hw : bitOf w i with
    | false => rw [Bool.and_false]
    | true => rw [h i hw, Bool.and_true]

namespace Modifier

/-- The place of the one bit of the modifier's flag. -/
def place : Modifier → Nat
  | publicBit => 0
  | privateBit => 1
  | protectedBit => 2
  | staticBit => 3
  | finalBit => 4
  | interfaceBit => 9
  | abstractBit => 10
  | syntheticBit => 12
  | annotationBit => 13
  | enumBit => 14

theorem bitOf_flag (m : Modifier) (i : Nat) : bitOf m.flag i = true ↔ i = m.place := by
  have hflag : m.flag.toBitVec = BitVec.twoPow 16 m.place := by cases m <;> rfl
  have hplace : m.place < 16 := by cases m <;> decide
  rw [bitOf, hflag, BitVec.getLsbD_twoPow]
  simp [hplace, eq_comm]

theorem bitOf_mask (ms : List Modifier) (i : Nat) : bitOf (mask ms) i = true ↔ ∃ m ∈ ms, i = m.place := by
  have hfold : ∀ acc : UInt16, bitOf (ms.foldl (fun acc m => acc ||| m.flag) acc) i = true ↔
      bitOf acc i = true ∨ ∃ m ∈ ms, i = m.place := by
    induction ms with
    | nil => simp
    | cons m ms ih =>
      intro acc
      rw [List.foldl_cons, ih, bitOf_or, Bool.or_eq_true, bitOf_flag]
      simp [or_assoc]
  rw [mask, hfold, bitOf_zero]
  simp

end Modifier

namespace Access

/-- The modifier's flag is set. -/
def Carries (a : Access) (m : Modifier) : Prop := a.bits &&& m.flag ≠ 0

variable (a : Access)

theorem carries_iff (m : Modifier) : a.Carries m ↔ bitOf a.bits m.place = true := by
  rw [Carries, and_ne_zero_iff]
  simp [Modifier.bitOf_flag]

theorem hasAny_mask (ms : List Modifier) : a.hasAny (Modifier.mask ms) = true ↔ ∃ m ∈ ms, a.Carries m := by
  rw [hasAny, bne_iff_ne, and_ne_zero_iff]
  simp only [Modifier.bitOf_mask, carries_iff]
  constructor
  · rintro ⟨i, ha, m, hm, rfl⟩
    exact ⟨m, hm, ha⟩
  · rintro ⟨m, hm, ha⟩
    exact ⟨m.place, ha, m, hm, rfl⟩

theorem hasAll_mask (ms : List Modifier) : a.hasAll (Modifier.mask ms) = true ↔ ∀ m ∈ ms, a.Carries m := by
  rw [hasAll, beq_iff_eq, and_eq_right_iff]
  simp only [Modifier.bitOf_mask, carries_iff]
  constructor
  · intro h m hm
    exact h m.place ⟨m, hm, rfl⟩
  · rintro h i ⟨m, hm, rfl⟩
    exact h m hm

end Access

/-! ## Annotations -/

namespace ClassRecord

theorem memberIsAnnotated_iff (c : ClassRecord) (name : String) :
    c.memberIsAnnotated name = true ↔
      (∃ f ∈ c.fields, ∃ a ∈ f.annotations, a.name = name) ∨
        ∃ m ∈ c.methods, ∃ a ∈ m.annotations, a.name = name := by
  simp only [memberIsAnnotated, Bool.or_eq_true, List.any_eq_true, isPresent_iff]

end ClassRecord

/-! ## Options -/

theorem Query.acceptsAll_iff (catalog : Catalog) (c : ClassRecord) (qs : List Query) :
    acceptsAll catalog c qs = true ↔ ∀ q ∈ qs, accepts catalog c q = true := by
  induction qs with
  | nil => simp [acceptsAll]
  | cons q qs ih => rw [acceptsAll, Bool.and_eq_true, ih, List.forall_mem_cons]

namespace ScanRequest

/-- What is asked of a class among `classes`, by one option each. An option that is not given asks nothing. -/
structure Wants (r : ScanRequest) (named : Option (String → Bool)) (classes : List ClassRecord)
    (c : ClassRecord) : Prop where
  descends : ∀ base ∈ r.subclassOf,
    c.name ≠ Name.normalize base ∧ ∃ super ∈ c.supertypes, Leads classes (Name.normalize base) super
  annotated : ∀ name ∈ r.annotatedWith, ∃ a ∈ c.annotations, a.name = Name.normalize name
  memberAnnotated : ∀ name ∈ r.memberAnnotatedWith,
    (∃ f ∈ c.fields, ∃ a ∈ f.annotations, a.name = Name.normalize name) ∨
      ∃ m ∈ c.methods, ∃ a ∈ m.annotations, a.name = Name.normalize name
  someModifier : r.modifiers ≠ [] → r.allModifiers = false → ∃ m ∈ r.modifiers, c.access.Carries m
  everyModifier : r.allModifiers = true → ∀ m ∈ r.modifiers, c.access.Carries m
  named : ∀ accepts ∈ named, accepts c.name = true

/-- The options given in `r` are given in `s` with the same values, and perhaps some more are. -/
structure Adds (r : ScanRequest) (named : Option (String → Bool)) (s : ScanRequest) (named' : Option (String → Bool)) :
    Prop where
  subclassOf : ∀ base ∈ r.subclassOf, s.subclassOf = some base
  annotatedWith : ∀ name ∈ r.annotatedWith, s.annotatedWith = some name
  memberAnnotatedWith : ∀ name ∈ r.memberAnnotatedWith, s.memberAnnotatedWith = some name
  modifiers : r.modifiers ≠ [] → s.modifiers = r.modifiers
  allModifiers : r.allModifiers = true → s.allModifiers = true
  named : ∀ accepts ∈ named, named' = some accepts

variable {r s : ScanRequest} {named named' : Option (String → Bool)} {classes : List ClassRecord} {c : ClassRecord}

theorem Wants.of_adds (h : s.Wants named' classes c) (hadds : r.Adds named s named') : r.Wants named classes c where
  descends base hbase := h.descends base (hadds.subclassOf base hbase)
  annotated name hname := h.annotated name (hadds.annotatedWith name hname)
  memberAnnotated name hname := h.memberAnnotated name (hadds.memberAnnotatedWith name hname)
  someModifier := by
    intro hgiven _
    have hsame := hadds.modifiers hgiven
    cases hall : s.allModifiers with
    | false =>
      rw [← hsame]
      exact h.someModifier (by rwa [hsame]) hall
    | true =>
      -- all of a list that is not empty are some of it
      obtain ⟨m, hm⟩ := List.exists_mem_of_ne_nil _ hgiven
      exact ⟨m, hm, h.everyModifier hall m (by rwa [hsame])⟩
  everyModifier := by
    intro hall m hm
    have hsame := hadds.modifiers (List.ne_nil_of_mem hm)
    exact h.everyModifier (hadds.allModifiers hall) m (by rwa [hsame])
  named accepts haccepts := h.named accepts (hadds.named accepts haccepts)

/-- What the query asks about modifiers. -/
theorem accepts_modifiers_iff (catalog : Catalog) :
    (∀ q ∈ (if r.allModifiers then [.allModifiers (Modifier.mask r.modifiers)]
        else if r.modifiers.isEmpty then [] else [.anyModifier (Modifier.mask r.modifiers)] : List Query),
      Query.accepts catalog c q = true) ↔
      (r.modifiers ≠ [] → r.allModifiers = false → ∃ m ∈ r.modifiers, c.access.Carries m) ∧
        (r.allModifiers = true → ∀ m ∈ r.modifiers, c.access.Carries m) := by
  cases hall : r.allModifiers with
  | true => simp [Query.accepts, Access.hasAll_mask]
  | false =>
    by_cases hgiven : r.modifiers = []
    · simp [hgiven]
    · simp [hgiven, Query.accepts, Access.hasAny_mask]

theorem accepts_query_iff (catalog : Catalog) :
    Query.accepts catalog c (r.query named) = true ↔ r.Wants named catalog.records c := by
  rw [query, Query.accepts, Query.acceptsAll_iff]
  simp only [List.forall_mem_append, accepts_modifiers_iff, List.forall_mem_map, Option.mem_toList, Query.accepts,
    descends_iff, ClassRecord.isAnnotated, isPresent_iff, ClassRecord.memberIsAnnotated_iff]
  constructor
  · rintro ⟨⟨⟨⟨hdescends, hannotated⟩, hmember⟩, hsome, hevery⟩, hnamed⟩
    exact ⟨hdescends, hannotated, hmember, hsome, hevery, hnamed⟩
  · intro h
    exact ⟨⟨⟨⟨h.descends, h.annotated⟩, h.memberAnnotated⟩, h.someModifier, h.everyModifier⟩, h.named⟩

end ScanRequest

/-- A scan lists the classes of the survey's catalog that meet what each of its options asks, in strictly
    increasing order of their names. If options are added to it, it lists none but those. -/
theorem listing_selects (s : Survey) (r : ScanRequest) (named : Option (String → Bool)) (milliseconds : Nat) :
    let listed := (s.listing (r.query named) milliseconds).classes
    (∀ c, c ∈ listed ↔ c ∈ s.catalog.records ∧ r.Wants named s.catalog.records c) ∧
      listed.Pairwise (fun a b => a.name < b.name) ∧
      ∀ r' named', r.Adds named r' named' → (s.listing (r'.query named') milliseconds).classes ⊆ listed := by
  intro listed
  have hlisted : ∀ r' named' c, c ∈ (s.listing (ScanRequest.query r' named') milliseconds).classes ↔
      c ∈ s.catalog.records ∧ r'.Wants named' s.catalog.records c := by
    intro r' named' c
    rw [← ScanRequest.accepts_query_iff]
    exact List.mem_filter
  refine ⟨hlisted r named, ?_, ?_⟩
  · exact s.catalog.sorted.filter _
  · intro r' named' hadds c hc
    obtain ⟨hmem, hwants⟩ := (hlisted r' named' c).mp hc
    exact (hlisted r named c).mpr ⟨hmem, hwants.of_adds hadds⟩

/-! ## A class between -/

/-- A public class, under a base that is not in the catalog. -/
def ClassRecord.between : ClassRecord := ClassRecord.new ⟨0x01⟩ "app/Mid" (some "app/Base") [] "/classes"

/-- A public and final class under that one. -/
def ClassRecord.leaf : ClassRecord := ClassRecord.new ⟨0x11⟩ "app/Leaf" (some "app/Mid") [] "/classes"

def Survey.family : Survey := ⟨⟨[.leaf, .between], by decide⟩, [], 2, 0⟩

/-- Classes under the base. -/
def ScanRequest.underBase : ScanRequest := ⟨[], some "app/Base", none, none, [], false, none, false, .json⟩

/-- Those that are final. -/
def ScanRequest.finalUnderBase : ScanRequest := { underBase with modifiers := [.finalBit] }

/-- The leaf is listed, although the class that leads from it to the base is not final and so is not listed. -/
theorem listing_selects_leaf :
    let listed := (Survey.family.listing (ScanRequest.finalUnderBase.query none) 0).classes
    ClassRecord.leaf ∈ listed ∧ ClassRecord.between ∉ listed ∧
      ScanRequest.underBase.Adds none ScanRequest.finalUnderBase none ∧
      listed ⊆ (Survey.family.listing (ScanRequest.underBase.query none) 0).classes := by
  intro listed
  obtain ⟨hmem, -, -⟩ := listing_selects Survey.family ScanRequest.finalUnderBase none 0
  obtain ⟨-, -, hfewer⟩ := listing_selects Survey.family ScanRequest.underBase none 0
  have hbase : Name.normalize "app/Base" = "app.Base" := by decide
  have hsuper : "app.Base" ∈ ClassRecord.between.supertypes := by decide
  have hleads : Leads Survey.family.catalog.records "app.Base" ClassRecord.between.name :=
    .up (List.mem_cons_of_mem _ List.mem_cons_self) hsuper .here
  have hadds : ScanRequest.underBase.Adds none ScanRequest.finalUnderBase none :=
    ⟨fun _ h => h, fun _ h => h, fun _ h => h, fun h => absurd rfl h, fun h => h, fun _ h => h⟩
  have hfinal : ∀ c : ClassRecord, c.access.Carries .finalBit ↔ c.access.bits &&& 0x10 ≠ 0 := fun _ => Iff.rfl
  refine ⟨(hmem _).mpr ⟨List.mem_cons_self, ?_⟩, fun h => ?_, hadds, hfewer _ _ hadds⟩
  · refine ⟨fun base h => ?_, by simp [ScanRequest.finalUnderBase, ScanRequest.underBase],
      by simp [ScanRequest.finalUnderBase, ScanRequest.underBase], fun _ _ => ⟨.finalBit, List.mem_cons_self, ?_⟩,
      by simp [ScanRequest.finalUnderBase, ScanRequest.underBase], by simp⟩
    · cases h
      rw [hbase]
      exact ⟨by decide, "app.Mid", by decide, hleads⟩
    · rw [hfinal]
      decide
  · obtain ⟨m, hm, hcarries⟩ := ((hmem _).mp h).2.someModifier (by decide) rfl
    obtain rfl := List.mem_singleton.mp hm
    rw [hfinal] at hcarries
    exact hcarries (by decide)

end ClassAtlas
