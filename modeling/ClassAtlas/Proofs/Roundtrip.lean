import ClassAtlas.Proofs.Members
import ClassAtlas.Proofs.Replay
import Mathlib.Tactic.MkIffOfInductiveProp

/-
  ClassAtlas.Proofs.Roundtrip — a class file that was written is decoded to the record of its outline.

  The writer's pool is done only when the whole body is, and it stands in front of the body:
  so the body is read against the very pool that it left. A reader gets back the outline as a
  class file, and the record of that class file is the outline's own.
-/

namespace ClassAtlas

/-- Everything in it can be counted: each text in two bytes, each list in two (the parameters of a method in one), each
    body of an attribute in four, and the numbers of the constants that it takes in two. -/
@[mk_iff]
structure ClassOutline.Fits (c : ClassOutline) : Prop where
  name : ClassFile.fitsText c.name
  super : ∀ s ∈ c.super, ClassFile.fitsText s
  interfaceCount : c.interfaces.length < 2 ^ 16
  interfaces : ∀ n ∈ c.interfaces, ClassFile.fitsText n
  fieldCount : c.fields.length < 2 ^ 16
  fields : ∀ m ∈ c.fields, m.Fits
  methodCount : c.methods.length < 2 ^ 16
  methods : ∀ m ∈ c.methods, m.Fits
  signature : ∀ s ∈ c.signature, ClassFile.fitsText s
  visible : Listable c.visible
  visibleBody : notesSize c.visible < 2 ^ 32
  invisible : Listable c.invisible
  invisibleBody : notesSize c.invisible < 2 ^ 32
  pool : ClassFile.nextNumber (ClassFile.Write.body c []).2 < 2 ^ 16

instance (c : ClassOutline) : Decidable c.Fits := decidable_of_iff _ (ClassOutline.fits_iff c).symm

/-! ## The outline as a class file -/

namespace ClassOutline

open ClassFile (Attribute)

def table (c : ClassOutline) : List Attribute :=
  c.signature.toList.map .signature ++ noteAttributes true c.visible ++ noteAttributes false c.invisible

/-- The class as a reader of the file has it. -/
def file (c : ClassOutline) : ClassFile where
  version := ⟨52, 0⟩
  access := c.access
  name := c.name
  super := c.super
  interfaces := c.interfaces
  fields := c.fields.map MemberOutline.info
  methods := c.methods.map MemberOutline.info
  attributes := ⟨c.signature, none, none, c.visible.map (·.info true) ++ c.invisible.map (·.info false), []⟩

theorem foldl_table (c : ClassOutline) :
    c.table.foldl ClassFile.Attributes.add ClassFile.Attributes.none = c.file.attributes := by
  unfold table
  simp only [List.foldl_append, foldl_signature, foldl_noteAttributes, ClassFile.Attributes.none, Option.or_none,
    List.nil_append, file]

theorem length_table (c : ClassOutline) : c.table.length < 2 ^ 16 := by
  have hsignature := Option.length_toList_le (o := c.signature)
  have hvisible := length_noteAttributes true c.visible
  have hinvisible := length_noteAttributes false c.invisible
  simp only [table, List.length_append, List.length_map]
  omega

end ClassOutline

/-- Annotations that were written are attached as the outline has them. -/
theorem attached_eq (visible invisible : List AnnotationOutline) (a : Attributes)
    (h : a.annotations = visible.map (·.info true) ++ invisible.map (·.info false)) :
    a.attached = outlinedAnnotations visible invisible := by
  have hvisible (v : Bool) : AnnotationInfo.toRecord ∘ AnnotationOutline.info v = AnnotationOutline.toRecord v :=
    funext (AnnotationOutline.toRecord_info v)
  unfold Attributes.attached outlinedAnnotations
  rw [h, List.map_append, List.map_map, List.map_map, hvisible, hvisible]

theorem MemberOutline.field_info (m : MemberOutline) (owner : String) : m.info.field owner = m.field owner := by
  unfold MemberInfo.field MemberOutline.field
  rw [attached_eq m.visible m.invisible _ rfl]
  rfl

theorem MemberOutline.method_info (m : MemberOutline) (owner : String) : m.info.method owner = m.method owner := by
  unfold MemberInfo.method MemberOutline.method
  rw [attached_eq m.visible m.invisible _ rfl]
  rfl

theorem ClassOutline.record_file (c : ClassOutline) (location : String) (bytecode : Option Bytes) :
    c.file.record location bytecode = c.record location bytecode := by
  have hfields : c.file.fields.map (·.field (Name.external c.file.name)) =
      c.fields.map (·.field (Name.external c.name)) := by
    rw [ClassOutline.file, List.map_map]
    exact List.map_congr_left fun m _ => m.field_info (Name.external c.name)
  have hmethods : c.file.methods.map (·.method (Name.external c.file.name)) =
      c.methods.map (·.method (Name.external c.name)) := by
    rw [ClassOutline.file, List.map_map]
    exact List.map_congr_left fun m _ => m.method_info (Name.external c.name)
  have hattached : c.file.attributes.attached = outlinedAnnotations c.visible c.invisible :=
    attached_eq c.visible c.invisible _ rfl
  unfold ClassFile.record ClassOutline.record
  rw [hattached, hfields, hmethods]
  rfl

namespace ClassFile

open Decode

/-! ## The body -/

theorem writes_superclass {o : Option String} (h : ∀ s ∈ o, fitsText s) :
    Writes (Write.superclass o) fun pool bs => ∃ i : UInt16, bs = wordBytes i.toNat ∧ readSuper pool i = .ok o := by
  cases o with
  | none => exact .pure fun _ => ⟨0, rfl, rfl⟩
  | some s =>
    apply (writes_index (writes_className (h s rfl))).mono
    intro pool bs hbs
    obtain ⟨i, ⟨hi, hfound⟩, rfl⟩ := hbs
    refine ⟨i, rfl, ?_⟩
    rw [readSuper, if_neg hi, hfound]
    rfl

theorem writes_members {ms : List MemberOutline} (hcount : ms.length < 2 ^ 16) (h : ∀ m ∈ ms, m.Fits) :
    Writes (Write.each Write.member ms) fun pool parts =>
      Reads (counted (readMember pool)) (countedBytes parts) (ms.map MemberOutline.info) :=
  (writes_each fun m hm => writes_member (h m hm)).mono fun _ _ hparts => reads_countedBytes hcount hparts

theorem writes_body {c : ClassOutline} (h : c.Fits) :
    Writes (Write.body c) fun pool bs => Reads (readRest ⟨52, 0⟩ pool) bs c.file := by
  refine (writes_index (writes_className h.name)).bind fun name => ?_
  refine (writes_superclass h.super).bind fun super => ?_
  refine (writes_classNames h.interfaceCount h.interfaces).bind fun interfaces => ?_
  refine (writes_members h.fieldCount h.fields).bind fun fields => ?_
  refine (writes_members h.methodCount h.methods).bind fun methods => ?_
  refine (writes_signature h.signature).bind fun signature => ?_
  refine (writes_annotations (by decide) (fun _ => rfl) h.visible h.visibleBody).bind fun visible => ?_
  refine (writes_annotations (by decide) (fun _ => rfl) h.invisible h.invisibleBody).map
    fun pool invisible hinvisible hvisible hsignature hmethods hfields hinterfaces hsuper hname => ?_
  obtain ⟨i, ⟨-, hnamed⟩, rfl⟩ := hname
  obtain ⟨j, rfl, hsupered⟩ := hsuper
  have htable : List.Forall₂ (Reads (readAttribute pool)) (signature ++ visible ++ invisible) c.table :=
    List.rel_append (List.rel_append hsignature hvisible) hinvisible
  have hcount : (signature ++ visible ++ invisible).length < 2 ^ 16 := by
    rw [htable.length_eq]
    exact c.length_table
  have hattributes := (reads_counted hcount htable).map fun as => as.foldl Attributes.add Attributes.none
  rw [c.foldl_table] at hattributes
  have hread := hattributes.map fun a => ClassFile.mk ⟨52, 0⟩ c.access c.name c.super c.interfaces
    (c.fields.map MemberOutline.info) (c.methods.map MemberOutline.info) a
  simp only [List.append_assoc] at hread ⊢
  refine (reads_u2 c.access.bits).bind ((reads_u2 i).bind ((reads_u2 j).bind (.found hnamed (.found hsupered ?_))))
  exact hinterfaces.2.bind (hfields.bind (hmethods.bind hread))

/-! ## The file -/

theorem reads_magic : Reads readMagic (longBytes 0xCAFEBABE) () := by
  have hmagic : Reads (if magic = magic then pure () else fail .badMagic) [] () := Reads.pure ()
  exact (reads_u4 magic).bind hmagic

theorem reads_write {c : ClassOutline} (h : c.Fits) : Reads read (write c) c.file := by
  obtain ⟨added, hadded, hfits⟩ := (writes_body h).grows []
  have hpool : ∀ e ∈ (Write.body c []).2, e.fits := by
    rw [hadded]
    exact hfits
  have hbody := (writes_body h).good [] _ (List.prefix_refl _) h.pool
  have hwrite : write c = longBytes 0xCAFEBABE ++ (wordBytes 0 ++ (wordBytes 52 ++
      ((wordBytes (nextNumber (Write.body c []).2) ++ (Write.body c []).2.flatMap PoolEntry.bytes) ++
        (Write.body c []).1))) := by
    unfold write
    simp only [List.append_assoc]
    rfl
  rw [hwrite]
  exact reads_magic.bind ((reads_u2 0).bind ((reads_u2 52).bind ((reads_pool _ hpool h.pool).bind hbody)))

theorem parse_write {c : ClassOutline} (h : c.Fits) : parse (write c) = .ok c.file := by
  rw [parse, (reads_write h).run]
  rfl

end ClassFile

/-- Decoding undoes encoding: the unit that was written for an outline is accepted, and its record is the outline's. -/
theorem decodeUnit_write (c : ClassOutline) (h : c.Fits) (location : String) (retain : Bool) :
    decodeUnit location retain (ClassFile.write c) =
      .ok (⟨52, 0⟩, c.record location (if retain then some (ClassFile.write c) else none)) := by
  rw [decodeUnit_eq, ClassFile.parse_write h]
  simp only [ClassOutline.record_file]
  rfl

/-- A class with something of every kind: two annotations of one type, values within values, a constant of two numbers,
    a method with a signature, code, an exception and an annotated parameter. -/
def ClassOutline.specimen : ClassOutline where
  access := ⟨0x0021⟩
  name := "a/B"
  super := some "java/lang/Object"
  interfaces := ["c/D"]
  signature := none
  visible := [⟨"Lp/Outer;", [("v", .nested ⟨"Lp/Inner;", [("n", .array [.long (-1), .char 'x', .array []])]⟩)]⟩]
  invisible := [⟨"Lp/Outer;", []⟩]
  fields := [⟨⟨0x0002⟩, "f", "J", none, some (.long 7), none, [], [], [], false⟩]
  methods := [⟨⟨0x0001⟩, "m", "(I)V", some "<T:Ljava/lang/Object;>(I)V", none, some ["a/E"], [], [],
    [[⟨"Lp/P;", []⟩]], true⟩]

theorem ClassOutline.specimen_fits : ClassOutline.specimen.Fits := by decide +kernel

theorem decodeUnit_write_specimen :
    ClassOutline.specimen.Fits ∧
      decodeUnit "b.jar" true (ClassFile.write ClassOutline.specimen) =
        .ok (⟨52, 0⟩, ClassOutline.specimen.record "b.jar" (some (ClassFile.write ClassOutline.specimen))) :=
  ⟨ClassOutline.specimen_fits, decodeUnit_write ClassOutline.specimen ClassOutline.specimen_fits "b.jar" true⟩

end ClassAtlas
