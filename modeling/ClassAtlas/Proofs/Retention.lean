import ClassAtlas.Proofs.Replay
import ClassAtlas.Proofs.Tags
import Mathlib.Data.List.Forall2

/-
  ClassAtlas.Proofs.Retention — whether an annotation is seen, down to the last one nested in it.

  A class file says in one place whether a running program sees an annotation: in the name of
  the attribute that lists it. From there the flag goes two ways. The annotation itself carries
  it into the stream; those nested in its values travel inside of them. Both ways are followed
  from the attribute on:
  - whatever the reader of values takes, at any depth, each annotation in it has the reader's
    flag (`yields_value`);
  - what an attribute says hangs on its name (`Says`), and a list of annotations comes from one
    of the two names only, which is the flag;
  - the annotations of an element are those that its table lists, attribute by attribute
    (`sum_eq`), and of each type the first (`Layout.annotationsOf_record`).
-/

namespace ClassAtlas

/-! ## Annotations within values -/

/-- `b` stands in the value, within arrays and annotations of any depth. -/
inductive AnnotationRecord.OccursIn (b : AnnotationRecord) : Value → Prop
  | here : OccursIn b (.nested b)
  | param {a : AnnotationRecord} {p : String × Value} : p ∈ a.params → OccursIn b p.2 → OccursIn b (.nested a)
  | item {v : Value} {vs : List Value} : v ∈ vs → OccursIn b v → OccursIn b (.array vs)

/-- `b` is nested in one of the parameters of `a`. -/
def AnnotationRecord.Inside (b a : AnnotationRecord) : Prop := ∃ p ∈ a.params, b.OccursIn p.2

namespace Value

/-- A running program sees all annotations in the value, or none of them. -/
def SeenAs (visible : Bool) (v : Value) : Prop := ∀ b : AnnotationRecord, b.OccursIn v → b.visible = visible

variable {visible : Bool}

theorem seenAs_nested {a : AnnotationRecord} (h : a.visible = visible) (hparams : ∀ p ∈ a.params, p.2.SeenAs visible) :
    (Value.nested a).SeenAs visible := by
  intro b hb
  cases hb with
  | here => exact h
  | param hp hb => exact hparams _ hp b hb

theorem seenAs_array {vs : List Value} (h : ∀ v ∈ vs, v.SeenAs visible) : (Value.array vs).SeenAs visible := by
  intro b hb
  cases hb with
  | item hv hb => exact h _ hv b hb

end Value

/-- The annotation and all that are nested in it are seen alike. -/
def AnnotationInfo.SeenAs (visible : Bool) (a : AnnotationInfo) : Prop :=
  a.visible = visible ∧ ∀ p ∈ a.pairs, p.2.SeenAs visible

theorem AnnotationInfo.SeenAs.inside {visible : Bool} {a : AnnotationInfo} (h : a.SeenAs visible) {b : AnnotationRecord}
    (hb : b.Inside a.toRecord) : b.visible = visible := by
  obtain ⟨p, hp, hb⟩ := hb
  exact h.2 p hp b hb

/-! ## What holds of whatever is taken -/

namespace Decode

variable {α β : Type} {p : Decode α} {P : α → Prop} {Q : β → Prop}

/-- If `p` takes anything, `P` holds of it. -/
def Yields (p : Decode α) (P : α → Prop) : Prop := ∀ ⦃bs rest : Bytes⦄ ⦃a : α⦄, p bs = .ok (a, rest) → P a

theorem yields_any (p : Decode α) : Yields p fun _ => True := fun _ _ _ _ => trivial

theorem yields_pure {b : β} (h : Q b) : Yields (pure b : Decode β) Q := by
  intro bs rest b' hread
  cases hread
  exact h

theorem Yields.bind {f : α → Decode β} (hp : Yields p P) (hf : ∀ a, P a → Yields (f a) Q) : Yields (p >>= f) Q := by
  intro bs rest b h
  obtain ⟨a, mid, hfirst, hthen⟩ := ok_of_bind h
  exact hf a (hp hfirst) hthen

theorem Yields.map {g : α → β} (hp : Yields p P) (hg : ∀ a, P a → Q (g a)) : Yields (p >>= fun a => pure (g a)) Q :=
  hp.bind fun a ha => yields_pure (hg a ha)

theorem Yields.times (hp : Yields p P) (n : Nat) : Yields (times p n) fun as => ∀ a ∈ as, P a := by
  induction n with
  | zero => exact yields_pure (List.forall_mem_nil P)
  | succ n ih => exact hp.bind fun a ha => ih.map fun as has => List.forall_mem_cons.mpr ⟨ha, has⟩

theorem Yields.counted (hp : Yields p P) : Yields (counted p) fun as => ∀ a ∈ as, P a :=
  (yields_any u2).bind fun n _ => hp.times n.toNat

end Decode

namespace ClassFile

open Decode

/-! ## The reader's flag -/

variable {pool : Pool} {visible : Bool}

/-- A value made of constants has no annotation in it. -/
theorem seenAs_constant {α : Type} {p : Decode α} {make : α → Value} {bs rest : Bytes} {v : Value}
    (h : (p >>= fun a => pure (make a)) bs = .ok (v, rest))
    (hmake : ∀ (a : α) (b : AnnotationRecord), ¬b.OccursIn (make a)) :
    v.SeenAs visible :=
  (yields_any p).map (fun a _ b hb => absurd hb (hmake a b)) h

theorem yields_number (tag : UInt8) :
    Yields (constantAt pool >>= fun c => check (numberValue tag c)) (Value.SeenAs visible) := by
  refine (yields_any _).bind fun c _ => ?_
  intro bs rest v h b hb
  obtain ⟨hnumber, -⟩ := ok_of_check h
  unfold numberValue at hnumber
  split at hnumber <;> cases hnumber <;> cases hb

theorem yields_raw {value : Decode Value} (h : Yields value (Value.SeenAs visible)) :
    Yields (readRaw pool visible value) (AnnotationInfo.SeenAs visible) := by
  have hpair : Yields (readPair pool value) fun p => p.2.SeenAs visible :=
    (yields_any (textAt pool)).bind fun name _ => h.map fun v hv => hv
  exact (yields_any (textAt pool)).bind fun descriptor _ => hpair.counted.map fun pairs hpairs => ⟨rfl, hpairs⟩

/-- Each annotation in a value, at any depth, has the flag that the value is read with. -/
theorem yields_value (depth : Nat) : Yields (readValue pool visible depth) (Value.SeenAs visible) := by
  induction depth with
  | zero =>
    intro bs rest v h
    cases h
  | succ depth ih =>
    intro bs rest v h
    obtain ⟨tag, mid, -, harm⟩ := ok_of_bind (p := u1) h
    generalize Char.ofNat tag.toNat = letter at harm
    split at harm
    · exact seenAs_constant harm fun _ _ => nofun
    · exact seenAs_constant harm fun _ _ => nofun
    · exact seenAs_constant harm fun _ _ => nofun
    · exact seenAs_constant harm fun _ _ => nofun
    · exact seenAs_constant harm fun _ _ => nofun
    · exact yields_number tag harm
    · exact yields_number tag harm
    · exact yields_number tag harm
    · exact seenAs_constant harm fun _ _ => nofun
    · obtain ⟨typeName, mid', -, hname⟩ := ok_of_bind harm
      exact seenAs_constant hname fun _ _ => nofun
    · exact seenAs_constant harm fun _ _ => nofun
    · exact ((yields_raw ih).map fun raw hraw => Value.seenAs_nested hraw.1 hraw.2) harm
    · exact (ih.counted.map fun vs hvs => Value.seenAs_array hvs) harm
    · cases harm

theorem yields_annotated : Yields (readAnnotated pool visible) (AnnotationInfo.SeenAs visible) :=
  fun bs _ _ h => yields_raw (yields_value bs.length) h

/-! ## What an attribute of a name says -/

/-- Under this name the annotations are listed that a running program sees, or those that it does not. -/
def notesName (visible : Bool) : String :=
  if visible then "RuntimeVisibleAnnotations" else "RuntimeInvisibleAnnotations"

/-- An attribute of that name may say this. -/
inductive Says : String → Attribute → Prop
  | signature (s : String) : Says "Signature" (.signature s)
  | constant (c : Option Constant) : Says "ConstantValue" (.constant c)
  | exceptions (names : List String) : Says "Exceptions" (.exceptions names)
  | annotations (visible : Bool) {as : List AnnotationInfo} :
      (∀ a ∈ as, a.SeenAs visible) → Says (notesName visible) (.annotations as)
  | parameterAnnotations {name : String} (as : List (UInt8 × AnnotationInfo)) :
      name ∈ ["RuntimeVisibleParameterAnnotations", "RuntimeInvisibleParameterAnnotations"] →
        Says name (.parameterAnnotations as)
  | skipped (name : String) : Says name .skipped

theorem yields_body (name : String) : Yields (readBody pool name) (Says name) := by
  unfold readBody
  split
  · exact (yields_any _).map fun s _ => .signature s
  · exact (yields_any _).map fun c _ => .constant c
  · exact (yields_any _).map fun names _ => .exceptions names
  · exact yields_annotated.counted.map fun as has => .annotations true has
  · exact yields_annotated.counted.map fun as has => .annotations false has
  · exact (yields_any _).map fun as _ => .parameterAnnotations as (by decide)
  · exact (yields_any _).map fun as _ => .parameterAnnotations as (by decide)
  · exact yields_pure (.skipped _)

/-! ## What the attributes of a table add up to -/

namespace Attribute

def signatures : Attribute → List String
  | .signature s => [s]
  | _ => []

def constants : Attribute → List (Option Constant)
  | .constant c => [c]
  | _ => []

def exceptionLists : Attribute → List (List String)
  | .exceptions names => [names]
  | _ => []

def notes : Attribute → List AnnotationInfo
  | .annotations as => as
  | _ => []

def parameterNotes : Attribute → List (UInt8 × AnnotationInfo)
  | .parameterAnnotations as => as
  | _ => []

end Attribute

/-- Of single answers the last one stands; annotations come one attribute after the other. -/
theorem sum_eq (said : List Attribute) :
    said.foldl Attributes.add Attributes.none =
      ⟨(said.flatMap Attribute.signatures).getLast?, (said.flatMap Attribute.constants).getLast?.join,
        (said.flatMap Attribute.exceptionLists).getLast?, said.flatMap Attribute.notes,
        said.flatMap Attribute.parameterNotes⟩ := by
  induction said using List.reverseRecOn with
  | nil => rfl
  | append_singleton said a ih =>
    rw [List.foldl_append, ih, List.foldl_cons, List.foldl_nil]
    cases a <;> simp [Attributes.add, Attribute.signatures, Attribute.constants, Attribute.exceptionLists,
      Attribute.notes, Attribute.parameterNotes]

namespace RawAttribute

/-- The attribute's name stands in the pool as that text. -/
def isNamed (pool : Pool) (a : RawAttribute) (name : String) : Bool := pool.entry? a.nameIndex == some (.utf8 name)

theorem isNamed_iff {a : RawAttribute} {name : String} :
    a.isNamed pool name ↔ pool.entry? a.nameIndex = some (.utf8 name) :=
  beq_iff_eq

theorem isNamed_inj {a : RawAttribute} {m n : String} (hm : a.isNamed pool m) (hn : a.isNamed pool n) : m = n := by
  have hboth := (isNamed_iff.mp hm).symm.trans (isNamed_iff.mp hn)
  cases hboth
  rfl

/-- The two names tell the flag. -/
theorem isNamed_notesName {a : RawAttribute} (h : a.isNamed pool (notesName visible)) :
    a.isNamed pool "RuntimeVisibleAnnotations" = visible := by
  cases visible with
  | true => exact h
  | false =>
    refine Bool.eq_false_iff.mpr fun hother => ?_
    have hsame := isNamed_inj hother h
    exact absurd hsame (by decide)

theorem isNamed_of_text {a : RawAttribute} {name : String} (h : pool.text a.nameIndex = .ok name) :
    a.isNamed pool name := by
  unfold Pool.text at h
  split at h
  · next hentry =>
    cases h
    exact isNamed_iff.mpr hentry
  · cases h

theorem says_of_meaning {a : RawAttribute} {said : Attribute} (h : a.meaning pool = .ok said) :
    ∃ name, a.isNamed pool name ∧ Says name said := by
  obtain ⟨name, htext, hbody⟩ := bind_eq_ok h
  cases hread : readBody pool name a.body with
  | error e =>
    rw [hread] at hbody
    cases hbody
  | ok r =>
    rw [hread] at hbody
    cases hbody
    exact ⟨name, isNamed_of_text htext, yields_body name hread⟩

/-- What the attribute says, which is nothing where it cannot be read. -/
def said (pool : Pool) (a : RawAttribute) : Attribute := (a.meaning pool).toOption.getD .skipped

theorem said_cases (pool : Pool) (a : RawAttribute) :
    a.said pool = .skipped ∨ ∃ name, a.isNamed pool name ∧ Says name (a.said pool) := by
  unfold said
  cases hmeaning : a.meaning pool with
  | error e => exact Or.inl rfl
  | ok answer => exact Or.inr (says_of_meaning hmeaning)

/-- The annotations that the attribute lists for its element. -/
def notes (pool : Pool) (a : RawAttribute) : List AnnotationRecord := (a.said pool).notes.map AnnotationInfo.toRecord

/-- An annotation that is listed has the flag of the list's name, and so has each that is nested in it. -/
theorem visible_of_mem_notes {a : RawAttribute} {note : AnnotationRecord} (h : note ∈ a.notes pool) :
    a.isNamed pool (notesName note.visible) ∧ ∀ b : AnnotationRecord, b.Inside note → b.visible = note.visible := by
  obtain ⟨info, hinfo, rfl⟩ := List.mem_map.mp h
  rcases said_cases pool a with hsaid | ⟨name, hname, hsays⟩
  · rw [hsaid] at hinfo
    cases hinfo
  · generalize a.said pool = answer at hinfo hsays
    cases hsays with
    | @annotations visible as hseen =>
      have hflag : info.toRecord.visible = visible := (hseen info hinfo).1
      rw [hflag]
      exact ⟨hname, fun b hb => (hseen info hinfo).inside hb⟩
    | _ => cases hinfo

end RawAttribute

/-! ## The annotations of an element -/

theorem mapM_ok_iff {ε α β : Type} {f : α → Except ε β} (d : β) {xs : List α} {ys : List β} :
    xs.mapM f = .ok ys ↔ (∀ x ∈ xs, (f x).isOk) ∧ xs.map (fun x => (f x).toOption.getD d) = ys := by
  induction xs generalizing ys with
  | nil =>
    rw [List.mapM_nil, List.map_nil]
    exact ⟨fun h => ⟨List.forall_mem_nil _, Except.ok.inj h⟩, fun h => congrArg Except.ok h.2⟩
  | cons x xs ih =>
    rw [List.mapM_cons, List.map_cons, List.forall_mem_cons]
    cases hx : f x with
    | error e =>
      constructor
      · intro h
        cases h
      · rintro ⟨⟨herror, -⟩, -⟩
        cases herror
    | ok y =>
      constructor
      · intro h
        obtain ⟨ys', hys, hpure⟩ := bind_eq_ok (x := xs.mapM f) h
        cases hpure
        obtain ⟨hok, hrest⟩ := ih.mp hys
        exact ⟨⟨rfl, hok⟩, congrArg (y :: ·) hrest⟩
      · rintro ⟨⟨-, hok⟩, rfl⟩
        have hys := ih.mpr ⟨hok, rfl⟩
        show (xs.mapM f >>= fun ys' => pure (y :: ys')) = _
        rw [hys]
        rfl

/-- What a table says, the attributes that cannot be read left out. -/
def attributesSaid (pool : Pool) (as : List RawAttribute) : Attributes :=
  (as.map (RawAttribute.said pool)).foldl Attributes.add Attributes.none

theorem attributesMeaning_ok_iff {t : Table RawAttribute} {attributes : Attributes} :
    attributesMeaning pool t = .ok attributes ↔
      (∀ a ∈ t.entries, (a.meaning pool).isOk) ∧ attributesSaid pool t.entries = attributes := by
  constructor
  · intro h
    obtain ⟨said, hsaid, hpure⟩ := bind_eq_ok h
    cases hpure
    obtain ⟨hok, rfl⟩ := (mapM_ok_iff .skipped).mp hsaid
    exact ⟨hok, rfl⟩
  · rintro ⟨hok, rfl⟩
    rw [attributesMeaning, (mapM_ok_iff .skipped).mpr ⟨hok, rfl⟩]
    rfl

/-- An element has the annotations that its table lists, of each type the first. -/
theorem attached_attributesSaid (as : List RawAttribute) :
    (attributesSaid pool as).attached = firstOfType (as.flatMap (RawAttribute.notes pool)) := by
  rw [Attributes.attached, attributesSaid, sum_eq, List.map_flatMap, List.flatMap_map]
  rfl

theorem RawMember.meaning_ok_iff {m : RawMember} {info : MemberInfo} :
    m.meaning pool = .ok info ↔
      info.access = ⟨m.access⟩ ∧ pool.text m.nameIndex = .ok info.name ∧
        pool.text m.descriptorIndex = .ok info.descriptor ∧
        attributesMeaning pool m.attributes = .ok info.attributes := by
  constructor
  · intro h
    obtain ⟨name, hname, h⟩ := bind_eq_ok h
    obtain ⟨descriptor, hdescriptor, h⟩ := bind_eq_ok h
    obtain ⟨attributes, hattributes, hpure⟩ := bind_eq_ok h
    cases hpure
    exact ⟨rfl, hname, hdescriptor, hattributes⟩
  · rintro ⟨haccess, hname, hdescriptor, hattributes⟩
    rw [RawMember.meaning, hname, hdescriptor, hattributes, ← haccess]
    rfl

/-- What is told of a member that can be read. -/
def RawMember.said (pool : Pool) (m : RawMember) : MemberInfo := (m.meaning pool).toOption.getD default

theorem RawMember.said_attributes {m : RawMember} (h : (m.meaning pool).isOk) :
    (m.said pool).attributes = attributesSaid pool m.attributes.entries := by
  unfold RawMember.said
  cases hmeaning : m.meaning pool with
  | error e =>
    rw [hmeaning] at h
    cases h
  | ok info => exact (attributesMeaning_ok_iff.mp (meaning_ok_iff.mp hmeaning).2.2.2).2.symm

/-- The annotations of the member at a place, or none where there is no such member. -/
theorem attached_getElem? {ms : List RawMember} (h : ∀ m ∈ ms, (m.meaning pool).isOk) (i : Nat) :
    ((ms.map (RawMember.said pool))[i]?.map (·.attributes.attached)).getD [] =
      firstOfType ((ms[i]?.map (·.attributes.entries)).getD [] |>.flatMap (RawAttribute.notes pool)) := by
  rw [List.getElem?_map]
  cases hi : ms[i]? with
  | none => rfl
  | some m =>
    show (m.said pool).attributes.attached = _
    rw [RawMember.said_attributes (h m (List.mem_of_getElem? hi)), attached_attributesSaid]
    rfl

namespace Layout

/-- The attributes in the table of the class itself or of a member; none where there is no such member. -/
def attributesOf (l : Layout) : Option Member → List RawAttribute
  | none => l.attributes.entries
  | some (.field i) => (l.fields.entries[i]?.map (·.attributes.entries)).getD []
  | some (.method i) => (l.methods.entries[i]?.map (·.attributes.entries)).getD []

theorem meaning_ok_iff {l : Layout} {c : ClassFile} :
    l.meaning = .ok c ↔
      ((∀ m ∈ l.fields.entries, (m.meaning l.head.pool).isOk) ∧
        (∀ m ∈ l.methods.entries, (m.meaning l.head.pool).isOk) ∧
        ∀ a ∈ l.attributes.entries, (a.meaning l.head.pool).isOk) ∧
      l.head.file (l.fields.entries.map (RawMember.said l.head.pool))
        (l.methods.entries.map (RawMember.said l.head.pool))
        (attributesSaid l.head.pool l.attributes.entries) = c := by
  constructor
  · intro h
    obtain ⟨fields, hfields, h⟩ := bind_eq_ok h
    obtain ⟨methods, hmethods, h⟩ := bind_eq_ok h
    obtain ⟨attributes, hattributes, hpure⟩ := bind_eq_ok h
    cases hpure
    obtain ⟨hfieldsOk, rfl⟩ := (mapM_ok_iff default).mp hfields
    obtain ⟨hmethodsOk, rfl⟩ := (mapM_ok_iff default).mp hmethods
    obtain ⟨hattributesOk, rfl⟩ := attributesMeaning_ok_iff.mp hattributes
    exact ⟨⟨hfieldsOk, hmethodsOk, hattributesOk⟩, rfl⟩
  · rintro ⟨⟨hfields, hmethods, hattributes⟩, rfl⟩
    rw [meaning, (mapM_ok_iff default).mpr ⟨hfields, rfl⟩, (mapM_ok_iff default).mpr ⟨hmethods, rfl⟩,
      attributesMeaning_ok_iff.mpr ⟨hattributes, rfl⟩]
    rfl

theorem annotationsOf_record {l : Layout} {c : ClassFile} (h : l.meaning = .ok c) (location : String)
    (bytecode : Option Bytes) (element : Option Member) :
    (c.record location bytecode).annotationsOf element =
      firstOfType ((l.attributesOf element).flatMap (RawAttribute.notes l.head.pool)) := by
  obtain ⟨⟨hfields, hmethods, -⟩, rfl⟩ := meaning_ok_iff.mp h
  rcases element with _ | (i | i)
  · exact attached_attributesSaid _
  · rw [attributesOf, ← attached_getElem? hfields i]
    simp only [ClassRecord.annotationsOf, ClassFile.record, Head.file, List.getElem?_map, Option.map_map]
    rfl
  · rw [attributesOf, ← attached_getElem? hmethods i]
    simp only [ClassRecord.annotationsOf, ClassFile.record, Head.file, List.getElem?_map, Option.map_map]
    rfl

end Layout

/-- A file that is accepted has a layout, and with any layout of it: the record holds of each element, the
    class or a member, the annotations that the attributes of its table list, of each type the first; each
    of them stands in such an attribute, and it is visible just if that attribute is named
    `RuntimeVisibleAnnotations`; and all annotations that are nested in it, at any depth, are as visible
    as itself. -/
theorem nested_seen_alike (location : String) (retain : Bool) (bs : Bytes) (version : ClassVersion)
    (record : ClassRecord) (h : decodeUnit location retain bs = .ok (version, record)) :
    (∃ l : Layout, l.bytes = bs) ∧
      ∀ l : Layout, l.bytes = bs → ∀ element : Option Member,
        record.annotationsOf element = firstOfType ((l.attributesOf element).flatMap (RawAttribute.notes l.head.pool)) ∧
          ∀ note ∈ record.annotationsOf element,
            (∀ b : AnnotationRecord, b.Inside note → b.visible = note.visible) ∧
              (∃ a ∈ l.attributesOf element, note ∈ a.notes l.head.pool) ∧
                ∀ a ∈ l.attributesOf element, note ∈ a.notes l.head.pool →
                  (note.visible = true ↔ a.isNamed l.head.pool "RuntimeVisibleAnnotations") := by
  rw [decodeUnit_eq] at h
  cases hparse : parse bs with
  | error e =>
    rw [hparse] at h
    cases h
  | ok c =>
    rw [hparse] at h
    cases h
    refine ⟨exists_layout hparse, ?_⟩
    rintro l rfl element
    rw [l.parse_bytes] at hparse
    have hlist := Layout.annotationsOf_record hparse location (if retain then some l.bytes else none) element
    refine ⟨hlist, fun note hnote => ?_⟩
    rw [hlist] at hnote
    obtain ⟨a, ha, hlisted⟩ := List.mem_flatMap.mp ((firstOfType_sublist _).subset hnote)
    refine ⟨(RawAttribute.visible_of_mem_notes hlisted).2, ⟨a, ha, hlisted⟩, fun a' _ hlisted' => ?_⟩
    rw [RawAttribute.isNamed_notesName (RawAttribute.visible_of_mem_notes hlisted').1]

/-! ## Two lists of annotations -/

def annotatedConstants : List PoolEntry :=
  [.utf8 "A", .classRef 1, .utf8 "RuntimeVisibleAnnotations", .utf8 "RuntimeInvisibleAnnotations",
    .utf8 "LV;", .utf8 "LT;", .utf8 "v", .utf8 "LU;"]

def Head.annotated : Head := ⟨⟨52, 0⟩, .ofEntries annotatedConstants, 0x21, "A", none, []⟩

def Head.annotatedBytes : Bytes :=
  longBytes 0xCAFEBABE ++ [0, 0, 0, 52, 0, 9] ++ annotatedConstants.flatMap PoolEntry.bytes ++
    [0, 0x21, 0, 2, 0, 0, 0, 0]

/-- `@V` -/
def RawAttribute.seen : RawAttribute := ⟨3, [0, 1, 0, 5, 0, 0], by decide⟩

/-- `@T(v = [@U])` -/
def RawAttribute.hidden : RawAttribute := ⟨4, [0, 1, 0, 6, 0, 1, 0, 7, 91, 0, 1, 64, 0, 8, 0, 0], by decide⟩

/-- A class `A` with an annotation that is seen, and one that is not and has another nested in it. -/
def Layout.annotated : Layout where
  head := Head.annotated
  front := Head.annotatedBytes
  front_reads := fun _ => by rfl
  fields := .empty
  methods := .empty
  attributes := ⟨[RawAttribute.seen, RawAttribute.hidden], by decide⟩
  rest := []

def Layout.annotatedRecord (location : String) : ClassRecord :=
  { ClassRecord.new ⟨0x21⟩ "A" none [] location with
    annotations := [⟨"V", true, []⟩, ⟨"T", false, [("v", .array [.nested ⟨"U", false, []⟩])]⟩] }

theorem decodeUnit_annotated (location : String) :
    decodeUnit location false Layout.annotated.bytes = .ok (⟨52, 0⟩, Layout.annotatedRecord location) := by
  rw [decodeUnit_eq, Layout.parse_bytes]
  rfl

theorem nested_seen_alike_hidden :
    ∃ note ∈ (Layout.annotatedRecord "A.class").annotationsOf none,
      (∃ b : AnnotationRecord, b.name = "U" ∧ b.Inside note ∧ b.visible = note.visible) ∧
        note ∈ RawAttribute.hidden.notes Head.annotated.pool ∧
          (note.visible = true ↔ RawAttribute.hidden.isNamed Head.annotated.pool "RuntimeVisibleAnnotations") := by
  let inner : AnnotationRecord := ⟨"U", false, []⟩
  let note : AnnotationRecord := ⟨"T", false, [("v", .array [.nested inner])]⟩
  have hnote : note ∈ (Layout.annotatedRecord "A.class").annotationsOf none :=
    List.mem_cons_of_mem _ (List.mem_singleton.mpr rfl)
  have hinner : inner.Inside note := ⟨_, List.mem_singleton.mpr rfl, .item (List.mem_singleton.mpr rfl) .here⟩
  have hlisted : note ∈ RawAttribute.hidden.notes Head.annotated.pool := List.mem_singleton.mpr rfl
  obtain ⟨-, hnotes⟩ := (nested_seen_alike "A.class" false Layout.annotated.bytes ⟨52, 0⟩
    (Layout.annotatedRecord "A.class") (decodeUnit_annotated "A.class")).2 Layout.annotated rfl none
  obtain ⟨hnested, -, hfrom⟩ := hnotes note hnote
  have hhidden : RawAttribute.hidden ∈ Layout.annotated.attributesOf none :=
    List.mem_cons_of_mem _ (List.mem_singleton.mpr rfl)
  exact ⟨note, hnote, ⟨inner, rfl, hinner, hnested inner hinner⟩, hlisted,
    hfrom RawAttribute.hidden hhidden hlisted⟩

end ClassFile

end ClassAtlas
