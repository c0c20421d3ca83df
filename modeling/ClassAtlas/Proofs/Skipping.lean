import ClassAtlas.Proofs.Layout
import ClassAtlas.Proofs.Replay

/-
  ClassAtlas.Proofs.Skipping — attributes of other names might as well not be there.

  Seven attributes are known by name (`knownAttributes`). One of any other name may stand in
  any table of a class file, at any place and with anything in its body, also with bytes that
  would be an annotation elsewhere: as it is measured by its length alone, the next entry is
  found behind it, and as it says nothing, its element is told as before. So a layout means the
  same before and after it has gained such an attribute (`meaning_gains`), and the same file
  comes of the bytes of both: accepted or refused, told in the same events, written down in the
  same record.
-/

namespace ClassAtlas.ClassFile

open Decode

def knownAttributes : List String :=
  ["Signature", "ConstantValue", "Exceptions", "RuntimeVisibleAnnotations", "RuntimeInvisibleAnnotations",
    "RuntimeVisibleParameterAnnotations", "RuntimeInvisibleParameterAnnotations"]

variable {pool : Pool} {a : RawAttribute}

theorem readBody_of_unknown {name : String} (h : name ∉ knownAttributes) : readBody pool name = pure .skipped := by
  simp only [knownAttributes, List.mem_cons, List.not_mem_nil, or_false, not_or] at h
  obtain ⟨hsignature, hconstant, hexceptions, hvisible, hinvisible, hparameters, hhidden⟩ := h
  unfold readBody
  split
  · exact absurd rfl hsignature
  · exact absurd rfl hconstant
  · exact absurd rfl hexceptions
  · exact absurd rfl hvisible
  · exact absurd rfl hinvisible
  · exact absurd rfl hparameters
  · exact absurd rfl hhidden
  · rfl

/-! ## One attribute more -/

/-- The attribute's name is a text of the pool, and none of the seven. -/
def RawAttribute.IsUnknown (pool : Pool) (a : RawAttribute) : Prop :=
  ∃ name, pool.entry? a.nameIndex = some (.utf8 name) ∧ name ∉ knownAttributes

def RawMember.Gains (a : RawAttribute) (m m' : RawMember) : Prop :=
  ∃ t, m.attributes.Gains a t ∧ m' = { m with attributes := t }

/-- The class or one of its members has the attribute `a` more than before. -/
inductive Layout.Gains (l : Layout) (a : RawAttribute) : Layout → Prop
  | onClass (t : Table RawAttribute) : l.attributes.Gains a t → Gains l a { l with attributes := t }
  | onField (t : Table RawMember) : l.fields.Changes (RawMember.Gains a) t → Gains l a { l with fields := t }
  | onMethod (t : Table RawMember) : l.methods.Changes (RawMember.Gains a) t → Gains l a { l with methods := t }

theorem Layout.Gains.head_eq {l l' : Layout} (h : l.Gains a l') : l'.head = l.head := by
  cases h with
  | onClass => rfl
  | onField => rfl
  | onMethod => rfl

/-! ## Nothing is said -/

theorem RawAttribute.IsUnknown.meaning_eq (h : a.IsUnknown pool) : a.meaning pool = .ok .skipped := by
  obtain ⟨name, hentry, hname⟩ := h
  have htext : pool.text a.nameIndex = .ok name := by rw [Pool.text, hentry]
  unfold RawAttribute.meaning
  rw [htext]
  show (readBody pool name a.body).map (·.1) = _
  rw [readBody_of_unknown hname]
  rfl

/-- Where an attribute is skipped, the ones in front of it and behind it add up to the same. -/
theorem attributesMeaning_gains (ha : a.meaning pool = .ok .skipped) {t t' : Table RawAttribute} (h : t.Gains a t') :
    attributesMeaning pool t' = attributesMeaning pool t := by
  obtain ⟨before, after, hold, hnew⟩ := h
  unfold attributesMeaning
  rw [hold, hnew]
  simp only [List.mapM_append, List.mapM_cons, ha, bind_assoc, pure_bind]
  congr 1
  funext as
  show (after.mapM (RawAttribute.meaning pool) >>= fun bs =>
    pure ((as ++ .skipped :: bs).foldl Attributes.add Attributes.none)) = _
  simp only [List.foldl_append, List.foldl_cons, Attributes.add]

theorem RawMember.meaning_gains (ha : a.meaning pool = .ok .skipped) {m m' : RawMember} (h : m.Gains a m') :
    m'.meaning pool = m.meaning pool := by
  obtain ⟨t, ht, rfl⟩ := h
  unfold RawMember.meaning
  rw [attributesMeaning_gains ha ht]

theorem mapM_changes (ha : a.meaning pool = .ok .skipped) {t t' : Table RawMember}
    (h : t.Changes (RawMember.Gains a) t') :
    t'.entries.mapM (RawMember.meaning pool) = t.entries.mapM (RawMember.meaning pool) := by
  obtain ⟨before, m, m', after, hm, hold, hnew⟩ := h
  rw [hold, hnew]
  simp only [List.mapM_append, List.mapM_cons, RawMember.meaning_gains ha hm]

theorem Layout.meaning_gains {l l' : Layout} (ha : a.IsUnknown l.head.pool) (h : l.Gains a l') :
    l'.meaning = l.meaning := by
  have hskipped := ha.meaning_eq
  cases h with
  | onClass t ht =>
    unfold Layout.meaning
    rw [attributesMeaning_gains hskipped ht]
  | onField t ht =>
    unfold Layout.meaning
    rw [mapM_changes hskipped ht]
  | onMethod t ht =>
    unfold Layout.meaning
    rw [mapM_changes hskipped ht]

/-- Bytes that parse alike are told alike. -/
theorem readClass_congr {bs bs' : Bytes} (h : parse bs' = parse bs) {σ ε : Type}
    (receive : σ → Event → Except ε σ) (s : σ) :
    readClass receive s bs' = readClass receive s bs := by
  unfold readClass
  rw [h]

/-- A file that is accepted has a layout, and with any layout of it: whichever table of the class, of a
    field or of a method gains or loses an attribute of a name that is not known, at whatever place and
    with whatever body, the file is accepted as the same class, so that its version is the same, every
    receiver is told the same events, and without its bytes the record is the same. -/
theorem unknown_attributes_inert (bs : Bytes) (c : ClassFile) (h : parse bs = .ok c) :
    (∃ l : Layout, l.bytes = bs) ∧
      ∀ (l l' : Layout) (a : RawAttribute), l.bytes = bs → a.IsUnknown l.head.pool → l.Gains a l' ∨ l'.Gains a l →
        parse l'.bytes = .ok c ∧
          (∀ (σ ε : Type) (receive : σ → Event → Except ε σ) (s : σ),
            readClass receive s l'.bytes = readClass receive s bs) ∧
          ∀ location, decodeUnit location false l'.bytes = decodeUnit location false bs := by
  refine ⟨exists_layout h, ?_⟩
  rintro l l' a rfl ha hgains
  have hmeaning : l'.meaning = l.meaning := by
    rcases hgains with hgains | hgains
    · exact Layout.meaning_gains ha hgains
    · have ha' : a.IsUnknown l'.head.pool := by rwa [← hgains.head_eq]
      exact (Layout.meaning_gains ha' hgains).symm
  have hparse : parse l'.bytes = parse l.bytes := by rw [l'.parse_bytes, l.parse_bytes, hmeaning]
  refine ⟨by rw [hparse, h], fun σ ε receive s => readClass_congr hparse receive s, fun location => ?_⟩
  unfold decodeUnit
  rw [readClass_congr hparse]
  rfl

/-! ## A field between two files -/

/-- A class `A`, its name and further texts in the pool. -/
def Head.plain : Head :=
  ⟨⟨52, 0⟩,
    .ofEntries [.utf8 "A", .classRef 1, .utf8 "f", .utf8 "I", .utf8 "Signature", .utf8 "TT;", .utf8 "Note"],
    0x21, "A", none, []⟩

def Head.plainBytes : Bytes :=
  [0xCA, 0xFE, 0xBA, 0xBE, 0, 0, 0, 52, 0, 8, 1, 0, 1, 65, 7, 0, 1, 1, 0, 1, 102, 1, 0, 1, 73, 1, 0, 9, 83,
    105, 103, 110, 97, 116, 117, 114, 101, 1, 0, 3, 84, 84, 59, 1, 0, 4, 78, 111, 116, 101, 0, 0x21, 0, 2, 0, 0, 0, 0]

def RawAttribute.signature : RawAttribute := ⟨5, [0, 6], by decide⟩

/-- Under its own name this body would be another signature. -/
def RawAttribute.note : RawAttribute := ⟨7, [0, 4], by decide⟩

/-- The class with a field `f` that has a signature. -/
def Layout.plain : Layout where
  head := Head.plain
  front := Head.plainBytes
  front_reads := fun _ => by rfl
  fields := ⟨[⟨2, 3, 4, ⟨[RawAttribute.signature], by decide⟩⟩], by decide⟩
  methods := ⟨[], by decide⟩
  attributes := ⟨[], by decide⟩
  rest := []

def Layout.noted : Layout :=
  { plain with fields := ⟨[⟨2, 3, 4, ⟨[RawAttribute.signature, RawAttribute.note], by decide⟩⟩], by decide⟩ }

def Layout.plainFile : ClassFile :=
  Head.plain.file [⟨⟨2⟩, "f", "I", { Attributes.none with signature := some "TT;" }⟩] [] Attributes.none

theorem plain_gains_note : Layout.plain.Gains RawAttribute.note Layout.noted := by
  refine .onField _ ⟨[], _, _, [], ?_, rfl, rfl⟩
  exact ⟨_, ⟨[RawAttribute.signature], [], rfl, rfl⟩, rfl⟩

theorem unknown_attributes_inert_noted :
    parse Layout.plain.bytes = .ok Layout.plainFile ∧ RawAttribute.note.IsUnknown Layout.plain.head.pool ∧
      Layout.plain.Gains RawAttribute.note Layout.noted ∧ Layout.noted.bytes ≠ Layout.plain.bytes ∧
      parse Layout.noted.bytes = .ok Layout.plainFile := by
  have hparse : parse Layout.plain.bytes = .ok Layout.plainFile := by rw [Layout.parse_bytes]; rfl
  have hunknown : RawAttribute.note.IsUnknown Layout.plain.head.pool := ⟨"Note", rfl, by decide⟩
  have hinert := (unknown_attributes_inert Layout.plain.bytes Layout.plainFile hparse).2
    Layout.plain Layout.noted RawAttribute.note
    rfl hunknown (Or.inl plain_gains_note)
  exact ⟨hparse, hunknown, plain_gains_note, by decide, hinert.1⟩

end ClassAtlas.ClassFile
