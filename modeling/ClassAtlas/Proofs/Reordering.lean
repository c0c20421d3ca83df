import ClassAtlas.Proofs.History
import ClassAtlas.Proofs.Retention
import ClassAtlas.Proofs.Skipping

/-
  ClassAtlas.Proofs.Reordering — the attributes of a table may stand in any order.

  All attributes of a table write into one place, and there some are replaced by later ones and
  some are put behind earlier ones. Taken apart, what comes of a table is a handful of lists:
  the signatures, the constants, the lists of exceptions, the annotations that are seen, and
  those that are not. Each of them has one name that alone adds to it (`TiedTo`). Where a table
  has no known name twice, at most one attribute adds to each list, and a list to which one
  attribute adds does not know where that attribute stood (`flatMap_eq_of_perm`).

  The annotations of an element are both lists in one, the first of each type kept. Keeping the
  first of each type goes along with taking the lists apart as long as no type is in both
  (`filter_firstOfType`). What is left of the order is which of the two lists comes first, and
  that is all that differs between the records.
-/

namespace ClassAtlas

/-! ## The first of each type, in two lists -/

/-- Where a flag goes with the type, the first of each type are found among those of a flag alone. -/
theorem filter_firstOfType {as : List AnnotationRecord} (visible : Bool)
    (hapart : ∀ a ∈ as, ∀ b ∈ as, a.name = b.name → a.visible = b.visible) :
    (firstOfType as).filter (·.visible == visible) = firstOfType (as.filter (·.visible == visible)) := by
  induction as with
  | nil => rfl
  | cons a as ih =>
    have hrest := ih fun b hb c hc => hapart b (List.mem_cons_of_mem a hb) c (List.mem_cons_of_mem a hc)
    rw [firstOfType, List.filter_cons, List.filter_cons, List.filter_filter]
    cases hflag : a.visible == visible with
    | true =>
      rw [if_pos rfl, if_pos rfl, firstOfType, ← hrest, List.filter_filter]
      congr 2
      funext b
      exact Bool.and_comm _ _
    | false =>
      rw [if_neg Bool.false_ne_true, if_neg Bool.false_ne_true, ← hrest]
      -- what shares the type of `a` shares its flag, and is dropped for that
      refine List.filter_congr fun b hb => ?_
      have hsame := hapart a List.mem_cons_self b (List.mem_cons_of_mem a ((firstOfType_sublist as).subset hb))
      by_cases hname : b.name = a.name
      · rw [← hsame hname.symm, hflag, Bool.false_and]
      · simp [hname]

/-! ## Records but for the order of annotations -/

/-- All is the same but the annotations, and of these the ones that are seen are the same on each element
    and in the same order, and so are the ones that are not. -/
def ClassRecord.SameButOrder (c c' : ClassRecord) : Prop :=
  c'.bare = c.bare ∧
    ∀ (element : Option Member) (visible : Bool),
      (c'.annotationsOf element).filter (·.visible == visible) = (c.annotationsOf element).filter (·.visible == visible)

/-! ## What does not hang on annotations -/

def Attributes.answers (a : Attributes) : Attributes := { a with annotations := [], parameterAnnotations := [] }

def MemberInfo.answers (m : MemberInfo) : MemberInfo := { m with attributes := m.attributes.answers }

namespace ClassFile

/-- But for annotations, the record is made of the single answers of the members. -/
theorem bare_record (c : ClassFile) (location : String) (bytecode : Option Bytes) :
    (c.record location bytecode).bare =
      ({ c with
        fields := c.fields.map MemberInfo.answers, methods := c.methods.map MemberInfo.answers,
        attributes := Attributes.none } : ClassFile).record location bytecode := by
  simp only [record, ClassRecord.bare, List.map_map]
  rfl

/-! ## Lists that one attribute adds to -/

/-- Where at most one part gives anything, the parts may come in any order. -/
theorem flatMap_eq_of_perm {α β : Type} {f : α → List β} {as bs : List α} (h : as.Perm bs)
    (hone : as.countP (fun a => !(f a).isEmpty) ≤ 1) : as.flatMap f = bs.flatMap f := by
  induction h with
  | nil => rfl
  | cons a _ ih =>
    rw [List.flatMap_cons, List.flatMap_cons, ih (le_trans (List.sublist_cons_self _ _).countP_le hone)]
  | swap a b as =>
    have hempty : f a = [] ∨ f b = [] := by
      by_contra hboth
      obtain ⟨ha, hb⟩ := not_or.mp hboth
      simp [ha, hb] at hone
    simp only [List.flatMap_cons]
    rcases hempty with hempty | hempty <;> rw [hempty] <;> simp
  | trans h _ ih ih' => exact (ih hone).trans (ih' (by rwa [← h.countP_eq]))

/-- Only an attribute of that name gives anything. -/
def TiedTo {β : Type} (f : Attribute → List β) (name : String) : Prop :=
  f .skipped = [] ∧ ∀ (n : String) (said : Attribute), Says n said → f said ≠ [] → n = name

theorem tiedTo_answers :
    TiedTo Attribute.signatures "Signature" ∧ TiedTo Attribute.constants "ConstantValue" ∧
      TiedTo Attribute.exceptionLists "Exceptions" := by
  refine ⟨⟨rfl, ?_⟩, ⟨rfl, ?_⟩, ⟨rfl, ?_⟩⟩
  all_goals
    intro n said hsays hgiven
    cases hsays <;> first | rfl | exact absurd rfl hgiven

theorem tiedTo_notes (visible : Bool) :
    TiedTo (fun said => (said.notes.map AnnotationInfo.toRecord).filter (·.visible == visible))
      (notesName visible) := by
  refine ⟨rfl, fun n said hsays hgiven => ?_⟩
  obtain ⟨note, hnote⟩ := List.exists_mem_of_ne_nil _ hgiven
  obtain ⟨hlisted, hflag⟩ := List.mem_filter.mp hnote
  obtain ⟨info, hinfo, rfl⟩ := List.mem_map.mp hlisted
  cases hsays with
  | @annotations visible' as hseen =>
    have hseen' : info.toRecord.visible = visible' := (hseen info hinfo).1
    rw [← hseen', beq_iff_eq.mp hflag]
  | _ => cases hinfo

variable {pool : Pool} {as bs : List RawAttribute}

/-- What one name alone adds to is the same in any order, where there is one attribute of that name at most. -/
theorem flatMap_said_of_perm {β : Type} {f : Attribute → List β} {name : String} (hf : TiedTo f name) (h : as.Perm bs)
    (hone : as.countP (·.isNamed pool name) ≤ 1) :
    as.flatMap (fun a => f (a.said pool)) = bs.flatMap (fun a => f (a.said pool)) := by
  refine flatMap_eq_of_perm h (le_trans (List.countP_mono_left fun a _ hgiven => ?_) hone)
  have hgiven' : f (a.said pool) ≠ [] := by simpa using hgiven
  rcases a.said_cases pool with hsaid | ⟨n, hn, hsays⟩
  · exact absurd (by rw [hsaid, hf.1]) hgiven'
  · rwa [← hf.2 n _ hsays hgiven']

/-! ## One table -/

/-- No known name stands twice in the table. -/
def Once (pool : Pool) (as : List RawAttribute) : Prop := ∀ name ∈ knownAttributes, as.countP (·.isNamed pool name) ≤ 1

theorem answers_of_perm (hperm : as.Perm bs) (honce : Once pool as) :
    (attributesSaid pool bs).answers = (attributesSaid pool as).answers := by
  obtain ⟨htiedSignatures, htiedConstants, htiedExceptions⟩ := tiedTo_answers
  have hsignatures := flatMap_said_of_perm htiedSignatures hperm (honce _ (by decide))
  have hconstants := flatMap_said_of_perm htiedConstants hperm (honce _ (by decide))
  have hexceptions := flatMap_said_of_perm htiedExceptions hperm (honce _ (by decide))
  simp only [attributesSaid, sum_eq, List.flatMap_map, Attributes.answers, hsignatures, hconstants, hexceptions]

theorem notesName_known (visible : Bool) : notesName visible ∈ knownAttributes := by
  cases visible <;> decide

theorem filter_notes_of_perm (hperm : as.Perm bs) (honce : Once pool as) (visible : Bool)
    (hapart : ∀ a ∈ as.flatMap (RawAttribute.notes pool), ∀ b ∈ as.flatMap (RawAttribute.notes pool),
      a.name = b.name → a.visible = b.visible) :
    (firstOfType (bs.flatMap (RawAttribute.notes pool))).filter (·.visible == visible) =
      (firstOfType (as.flatMap (RawAttribute.notes pool))).filter (·.visible == visible) := by
  have hsame := flatMap_said_of_perm (tiedTo_notes visible) hperm (honce _ (notesName_known visible))
  have hnotes : (bs.flatMap (RawAttribute.notes pool)).Perm (as.flatMap (RawAttribute.notes pool)) :=
    hperm.symm.flatMap_right _
  have hapart' : ∀ a ∈ bs.flatMap (RawAttribute.notes pool), ∀ b ∈ bs.flatMap (RawAttribute.notes pool),
      a.name = b.name → a.visible = b.visible :=
    fun a ha b hb => hapart a (hnotes.mem_iff.mp ha) b (hnotes.mem_iff.mp hb)
  rw [filter_firstOfType visible hapart, filter_firstOfType visible hapart', List.filter_flatMap,
    List.filter_flatMap]
  exact congrArg firstOfType hsame.symm

/-! ## One member -/

/-- The member has its attributes in another order. -/
def RawMember.Reordered (m m' : RawMember) : Prop :=
  ∃ t : Table RawAttribute, m.attributes.entries.Perm t.entries ∧ m' = { m with attributes := t }

theorem RawMember.Reordered.said {m m' : RawMember} (h : m.Reordered m') (honce : Once pool m.attributes.entries)
    (hok : (m.meaning pool).isOk) : (m'.meaning pool).isOk ∧ (m'.said pool).answers = (m.said pool).answers := by
  obtain ⟨t, hperm, rfl⟩ := h
  cases hmeaning : m.meaning pool with
  | error e =>
    rw [hmeaning] at hok
    cases hok
  | ok info =>
    obtain ⟨haccess, hname, hdescriptor, hattributes⟩ := meaning_ok_iff.mp hmeaning
    obtain ⟨hread, hsaid⟩ := attributesMeaning_ok_iff.mp hattributes
    have hattributes' : attributesMeaning pool t = .ok (attributesSaid pool t.entries) :=
      attributesMeaning_ok_iff.mpr ⟨fun a ha => hread a (hperm.mem_iff.mpr ha), rfl⟩
    have hmeaning' : ({ m with attributes := t } : RawMember).meaning pool =
        .ok { info with attributes := attributesSaid pool t.entries } :=
      meaning_ok_iff.mpr ⟨haccess, hname, hdescriptor, hattributes'⟩
    rw [RawMember.said, RawMember.said, hmeaning, hmeaning']
    refine ⟨rfl, ?_⟩
    show ({ info with attributes := (attributesSaid pool t.entries).answers } : MemberInfo) = _
    rw [answers_of_perm hperm honce, hsaid]
    rfl

theorem said_reordered {ms ms' : List RawMember} (h : List.Forall₂ RawMember.Reordered ms ms')
    (honce : ∀ m ∈ ms, Once pool m.attributes.entries) (hok : ∀ m ∈ ms, (m.meaning pool).isOk) :
    (∀ m ∈ ms', (m.meaning pool).isOk) ∧
      (ms'.map (RawMember.said pool)).map MemberInfo.answers =
        (ms.map (RawMember.said pool)).map MemberInfo.answers := by
  induction h with
  | nil => exact ⟨List.forall_mem_nil _, rfl⟩
  | cons hm _ ih =>
    obtain ⟨honceFirst, honceRest⟩ := List.forall_mem_cons.mp honce
    obtain ⟨hokFirst, hokRest⟩ := List.forall_mem_cons.mp hok
    obtain ⟨hfirst, hfirstSaid⟩ := hm.said honceFirst hokFirst
    obtain ⟨hrest, hrestSaid⟩ := ih honceRest hokRest
    refine ⟨List.forall_mem_cons.mpr ⟨hfirst, hrest⟩, ?_⟩
    rw [List.map_cons, List.map_cons, List.map_cons, List.map_cons, hfirstSaid, hrestSaid]

theorem once_of_mem {ms : List RawMember} (h : ∀ i : Nat, Once pool ((ms[i]?.map (·.attributes.entries)).getD []))
    {m : RawMember} (hm : m ∈ ms) : Once pool m.attributes.entries := by
  obtain ⟨i, hi⟩ := List.getElem?_of_mem hm
  have honce := h i
  rwa [hi] at honce

theorem attributes_reordered {ms ms' : List RawMember} (h : List.Forall₂ RawMember.Reordered ms ms') (i : Nat) :
    ((ms[i]?.map (·.attributes.entries)).getD []).Perm ((ms'[i]?.map (·.attributes.entries)).getD []) := by
  induction h generalizing i with
  | nil => exact .nil
  | cons hm _ ih =>
    cases i with
    | zero =>
      obtain ⟨t, hperm, rfl⟩ := hm
      exact hperm
    | succ i => exact ih i

/-! ## The whole file -/

namespace Layout

/-- Each table has its attributes in another order, or in the same. -/
inductive Reordered (l : Layout) : Layout → Prop
  | mk (fields methods : Table RawMember) (attributes : Table RawAttribute) :
      List.Forall₂ RawMember.Reordered l.fields.entries fields.entries →
      List.Forall₂ RawMember.Reordered l.methods.entries methods.entries →
      l.attributes.entries.Perm attributes.entries →
      Reordered l { l with fields := fields, methods := methods, attributes := attributes }

/-- No table has a known name twice, and no element has annotations of one type that are seen and others
    that are not. -/
structure Unambiguous (l : Layout) : Prop where
  once : ∀ element, Once l.head.pool (l.attributesOf element)
  apart : ∀ element, ∀ a ∈ (l.attributesOf element).flatMap (RawAttribute.notes l.head.pool),
    ∀ b ∈ (l.attributesOf element).flatMap (RawAttribute.notes l.head.pool), a.name = b.name → a.visible = b.visible

variable {l l' : Layout}

theorem Reordered.attributesOf (h : l.Reordered l') (element : Option Member) :
    (l.attributesOf element).Perm (l'.attributesOf element) := by
  cases h with
  | mk fields methods attributes hfields hmethods hattributes =>
    rcases element with _ | (i | i)
    · exact hattributes
    · exact attributes_reordered hfields i
    · exact attributes_reordered hmethods i

theorem Reordered.meaning (h : l.Reordered l') (hl : l.Unambiguous) {c : ClassFile} (hc : l.meaning = .ok c)
    (location : String) (bytecode : Option Bytes) :
    ∃ c', l'.meaning = .ok c' ∧ c'.version = c.version ∧
      (c.record location bytecode).SameButOrder (c'.record location bytecode) := by
  have htables := h.attributesOf
  cases h with
  | mk fields methods attributes hfields hmethods hattributes =>
    obtain ⟨⟨hfieldsOk, hmethodsOk, hattributesOk⟩, hfile⟩ := meaning_ok_iff.mp hc
    have honceFields := fun m => once_of_mem (m := m) fun i => hl.once (some (.field i))
    have honceMethods := fun m => once_of_mem (m := m) fun i => hl.once (some (.method i))
    obtain ⟨hfieldsOk', hfieldsSaid⟩ := said_reordered hfields honceFields hfieldsOk
    obtain ⟨hmethodsOk', hmethodsSaid⟩ := said_reordered hmethods honceMethods hmethodsOk
    have hattributesOk' := fun a ha => hattributesOk a (hattributes.mem_iff.mpr ha)
    have hc' := (meaning_ok_iff (l := { l with fields := fields, methods := methods, attributes := attributes })).mpr
      ⟨⟨hfieldsOk', hmethodsOk', hattributesOk'⟩, rfl⟩
    refine ⟨_, hc', by rw [← hfile]; rfl, ?_, fun element visible => ?_⟩
    · rw [bare_record, bare_record, ← hfile]
      simp only [Head.file, hfieldsSaid, hmethodsSaid]
    · rw [annotationsOf_record hc, annotationsOf_record hc']
      exact filter_notes_of_perm (htables element) (hl.once element) visible (hl.apart element)

end Layout

/-- A file that is accepted has a layout, and with any layout of it in which no table has a known name
    twice and no element annotations of one type both seen and not: whatever the order in which the
    attributes of its tables are put, the file is accepted, and its record is the same but for the order
    between the annotations of an element that are seen and those that are not. -/
theorem attribute_order_immaterial (location : String) (bs : Bytes) (version : ClassVersion)
    (record : ClassRecord) (h : decodeUnit location false bs = .ok (version, record)) :
    (∃ l : Layout, l.bytes = bs) ∧
      ∀ l l' : Layout, l.bytes = bs → l.Unambiguous → l.Reordered l' →
        ∃ record', decodeUnit location false l'.bytes = .ok (version, record') ∧ record.SameButOrder record' := by
  rw [decodeUnit_eq] at h
  cases hparse : parse bs with
  | error e =>
    rw [hparse] at h
    cases h
  | ok c =>
    rw [hparse] at h
    cases h
    refine ⟨exists_layout hparse, ?_⟩
    rintro l l' rfl hl hreordered
    rw [l.parse_bytes] at hparse
    obtain ⟨c', hc', hversion, hsame⟩ := hreordered.meaning hl hparse location none
    refine ⟨c'.record location none, ?_, hsame⟩
    rw [decodeUnit_eq, l'.parse_bytes, hc', ← hversion]
    rfl

/-! ## The hidden annotation first -/

def Layout.swapped : Layout := { annotated with attributes := ⟨[RawAttribute.hidden, RawAttribute.seen], by decide⟩ }

theorem annotated_unambiguous : Layout.annotated.Unambiguous where
  once := by
    rintro (_ | (i | i))
    · show Once Head.annotated.pool [RawAttribute.seen, RawAttribute.hidden]
      unfold Once
      decide
    · intro name _
      exact Nat.zero_le 1
    · intro name _
      exact Nat.zero_le 1
  apart := by
    rintro (_ | (i | i)) a ha b hb hname
    · -- one is of type `V`, the other of type `T`
      change a ∈ (Layout.annotatedRecord "").annotations at ha
      change b ∈ (Layout.annotatedRecord "").annotations at hb
      rcases List.mem_pair.mp ha with rfl | rfl <;> rcases List.mem_pair.mp hb with rfl | rfl
      · rfl
      · exact absurd hname (by decide)
      · exact absurd hname (by decide)
      · rfl
    · cases ha
    · cases ha

theorem attribute_order_immaterial_swapped :
    ∃ record, decodeUnit "A.class" false Layout.swapped.bytes = .ok (⟨52, 0⟩, record) ∧
      (Layout.annotatedRecord "A.class").SameButOrder record := by
  have hreordered : Layout.annotated.Reordered Layout.swapped := .mk _ _ _ .nil .nil (List.Perm.swap _ _ _)
  exact (attribute_order_immaterial "A.class" Layout.annotated.bytes ⟨52, 0⟩ (Layout.annotatedRecord "A.class")
    (decodeUnit_annotated "A.class")).2 Layout.annotated Layout.swapped rfl annotated_unambiguous hreordered

end ClassFile

end ClassAtlas
