import ClassAtlas.Proofs.Nesting
import Mathlib.Tactic.MkIffOfInductiveProp

/-
  ClassAtlas.Proofs.Members — the attributes of an element, and a field or a method with its own.

  A table of attributes is read as a list, each by its name, and the list is then folded into
  what it says of the element. The writer has a fixed order for them and leaves out what is
  not there; so what a reader finds is a list that the outline alone determines, and the fold
  over it gives back the outline's own parts.
-/

namespace ClassAtlas

/-! ## What fits -/

/-- How many bytes a counted list of annotations takes. -/
def notesSize (as : List AnnotationOutline) : Nat := 2 + (as.map AnnotationOutline.size).sum

/-- Annotations that a count of two bytes can number. -/
@[mk_iff]
structure Listable (as : List AnnotationOutline) : Prop where
  count : as.length < 2 ^ 16
  each : ∀ a ∈ as, a.fits

@[mk_iff]
structure MemberOutline.Fits (m : MemberOutline) : Prop where
  name : ClassFile.fitsText m.name
  descriptor : ClassFile.fitsText m.descriptor
  signature : ∀ s ∈ m.signature, ClassFile.fitsText s
  constant : ∀ c ∈ m.constant, ClassFile.Constant.fits c
  exceptions : ∀ names ∈ m.exceptions, names.length < 2 ^ 16 ∧ ∀ n ∈ names, ClassFile.fitsText n
  visible : Listable m.visible
  visibleBody : notesSize m.visible < 2 ^ 32
  invisible : Listable m.invisible
  invisibleBody : notesSize m.invisible < 2 ^ 32
  parameterCount : m.parameters.length < 2 ^ 8
  parameters : ∀ as ∈ m.parameters, Listable as
  parameterBody : 1 + (m.parameters.map notesSize).sum < 2 ^ 32

instance (as : List AnnotationOutline) : Decidable (Listable as) := decidable_of_iff _ (listable_iff as).symm

instance (m : MemberOutline) : Decidable m.Fits := decidable_of_iff _ (MemberOutline.fits_iff m).symm

/-! ## What a reader finds -/

open ClassFile (Attribute)

/-- The annotations of each parameter in turn, with its number. -/
def numberedNotes (parameters : List (List AnnotationOutline)) (first : Nat) : List (List (UInt8 × AnnotationInfo)) :=
  (parameters.zipIdx first).map fun p => p.1.map fun a => (UInt8.ofNat p.2, a.info true)

/-- Code is skipped. -/
def codeAttributes (hasCode : Bool) : List Attribute := if hasCode then [.skipped] else []

def noteAttributes (visible : Bool) (as : List AnnotationOutline) : List Attribute :=
  if as.isEmpty then [] else [.annotations (as.map (·.info visible))]

def parameterAttributes (parameters : List (List AnnotationOutline)) : List Attribute :=
  if parameters.isEmpty then [] else [.parameterAnnotations (numberedNotes parameters 0).flatten]

namespace MemberOutline

def table (m : MemberOutline) : List Attribute :=
  codeAttributes m.hasCode ++ m.signature.toList.map .signature ++
    m.constant.toList.map (fun c => .constant (some c)) ++ m.exceptions.toList.map .exceptions ++
    noteAttributes true m.visible ++ noteAttributes false m.invisible ++
    parameterAttributes m.parameters

/-- The member as a reader of the file has it. -/
def info (m : MemberOutline) : MemberInfo where
  access := m.access
  name := m.name
  descriptor := m.descriptor
  attributes := ⟨m.signature, m.constant, m.exceptions, m.visible.map (·.info true) ++ m.invisible.map (·.info false),
    (numberedNotes m.parameters 0).flatten⟩

end MemberOutline

/-! ## The table folded -/

section Fold

variable (a : Attributes)

theorem foldl_codeAttributes (hasCode : Bool) : (codeAttributes hasCode).foldl ClassFile.Attributes.add a = a := by
  cases hasCode <;> rfl

theorem foldl_signature (o : Option String) :
    (o.toList.map Attribute.signature).foldl ClassFile.Attributes.add a = { a with signature := o.or a.signature } := by
  cases o <;> rfl

theorem foldl_constant (o : Option Constant) :
    (o.toList.map fun c => Attribute.constant (some c)).foldl ClassFile.Attributes.add a =
      { a with constant := o.or a.constant } := by
  cases o <;> rfl

theorem foldl_exceptions (o : Option (List String)) :
    (o.toList.map Attribute.exceptions).foldl ClassFile.Attributes.add a =
      { a with exceptions := o.or a.exceptions } := by
  cases o <;> rfl

theorem foldl_noteAttributes (visible : Bool) (as : List AnnotationOutline) :
    (noteAttributes visible as).foldl ClassFile.Attributes.add a =
      { a with annotations := a.annotations ++ as.map (·.info visible) } := by
  cases as with
  | nil => simp [noteAttributes]
  | cons b bs => rfl

theorem foldl_parameterAttributes (parameters : List (List AnnotationOutline)) :
    (parameterAttributes parameters).foldl ClassFile.Attributes.add a =
      { a with parameterAnnotations := a.parameterAnnotations ++ (numberedNotes parameters 0).flatten } := by
  cases parameters with
  | nil => simp [parameterAttributes, numberedNotes]
  | cons as rest => rfl

end Fold

/-- Every attribute has its own place, so the fold puts each part of the outline where it belongs. -/
theorem MemberOutline.foldl_table (m : MemberOutline) :
    m.table.foldl ClassFile.Attributes.add ClassFile.Attributes.none = m.info.attributes := by
  unfold MemberOutline.table
  simp only [List.foldl_append, foldl_codeAttributes, foldl_signature, foldl_constant, foldl_exceptions,
    foldl_noteAttributes, foldl_parameterAttributes, ClassFile.Attributes.none, Option.or_none,
    List.nil_append, MemberOutline.info]

theorem length_noteAttributes (visible : Bool) (as : List AnnotationOutline) :
    (noteAttributes visible as).length ≤ 1 := by
  unfold noteAttributes
  split <;> simp

/-- There are at most seven, so their count can always be written. -/
theorem MemberOutline.length_table (m : MemberOutline) : m.table.length < 2 ^ 16 := by
  have hcode : (codeAttributes m.hasCode).length ≤ 1 := by cases m.hasCode <;> decide
  have hsignature := Option.length_toList_le (o := m.signature)
  have hconstant := Option.length_toList_le (o := m.constant)
  have hexceptions := Option.length_toList_le (o := m.exceptions)
  have hvisible := length_noteAttributes true m.visible
  have hinvisible := length_noteAttributes false m.invisible
  have hparameters : (parameterAttributes m.parameters).length ≤ 1 := by
    unfold parameterAttributes
    split <;> simp
  simp only [MemberOutline.table, List.length_append, List.length_map]
  omega

namespace ClassFile

open Decode

variable {pool : Pool}

/-! ## Bodies -/

/-- What reads the whole body reads the front of it. -/
theorem body_of_reads {name : String} {bs : Bytes} {a : Attribute} (h : Reads (readBody pool name) bs a) :
    (readBody pool name bs).map (·.1) = .ok a := by
  rw [h.run]
  rfl

theorem length_flatten {α : Type} {size : α → Nat} {parts : List Bytes} {xs : List α}
    (h : List.Forall₂ (fun part x => part.length = size x) parts xs) : parts.flatten.length = (xs.map size).sum := by
  induction h with
  | nil => rfl
  | cons hone _ ih => rw [List.flatten_cons, List.length_append, hone, ih, List.map_cons, List.sum_cons]

theorem reads_countedBytes {α β : Type} {p : Decode β} {f : α → β} {parts : List Bytes} {xs : List α}
    (hcount : xs.length < 2 ^ 16) (h : List.Forall₂ (fun part x => Reads p part (f x)) parts xs) :
    Reads (counted p) (countedBytes parts) (xs.map f) := by
  rw [← h.length_eq] at hcount
  exact reads_counted hcount (List.forall₂_map_right_iff.mpr h)

/-- A list behind its count, each of its parts spelled. -/
theorem spells_counted {α β : Type} {p : Pool → Decode β} {f : α → β} {size : α → Nat} {parts : List Bytes}
    {xs : List α} (hcount : xs.length < 2 ^ 16)
    (h : List.Forall₂ (fun part x => Spells p (f x) (size x) pool part) parts xs) :
    Spells (fun pool => counted (p pool)) (xs.map f) (2 + (xs.map size).sum) pool (countedBytes parts) := by
  constructor
  · rw [length_countedBytes, length_flatten (h.imp fun _ _ hpart => hpart.1)]
  · exact reads_countedBytes hcount (h.imp fun _ _ hpart => hpart.2)

theorem SpellsNote.spells {visible : Bool} {a : AnnotationOutline} {bs : Bytes} (h : SpellsNote visible a pool bs) :
    Spells (fun pool => readAnnotated pool visible) (a.info visible) a.size pool bs := by
  refine ⟨h.1, fun rest => h.2 _ ?_ rest⟩
  rw [List.length_append, h.1]
  exact Nat.le_add_right ..

theorem writes_notes (visible : Bool) {as : List AnnotationOutline} (h : Listable as) :
    Writes (Write.each Write.annotated as) fun pool parts =>
      Spells (fun pool => counted (readAnnotated pool visible)) (as.map (·.info visible)) (notesSize as) pool
        (countedBytes parts) :=
  (writes_each fun a ha => writes_annotated visible a (h.each a ha)).mono fun _ _ hparts =>
    spells_counted h.count (hparts.imp fun _ _ hnote => hnote.spells)

theorem writes_classNames {names : List String} (hcount : names.length < 2 ^ 16) (h : ∀ n ∈ names, fitsText n) :
    Writes (Write.each (fun n => Write.index (Write.className n)) names) fun pool parts =>
      Spells (fun pool => counted (classNameAt pool)) names (2 + (names.map fun _ => 2).sum) pool
        (countedBytes parts) := by
  apply (writes_each fun n hn => writes_index (writes_className (h n hn))).mono
  intro pool parts hparts
  have hnames := spells_counted (f := id) hcount (hparts.imp fun _ _ hname => hname.spells)
  rwa [List.map_id] at hnames

/-! ## Attributes -/

theorem writes_code (hasCode : Bool) :
    Writes (Write.optional "Code" pure (if hasCode then some Write.emptyCode else none)) fun pool parts =>
      List.Forall₂ (Reads (readAttribute pool)) parts (codeAttributes hasCode) := by
  have hshort : Write.emptyCode.length < 2 ^ 32 := by decide
  cases hasCode with
  | false => exact .pure fun _ => .nil
  | true =>
    refine writes_optional (by decide) (fun _ => .skipped) fun bs hbs => .pure fun pool => ⟨?_, rfl⟩
    rw [← Option.some.inj hbs]
    exact hshort

theorem writes_signature {o : Option String} (h : ∀ s ∈ o, fitsText s) :
    Writes (Write.optional "Signature" Write.text o) fun pool parts =>
      List.Forall₂ (Reads (readAttribute pool)) parts (o.toList.map .signature) := by
  refine writes_optional (by decide) .signature ?_
  intro s hs
  refine (writes_text (h s hs)).mono fun pool bs hbs => ⟨by rw [hbs.1]; decide, body_of_reads ?_⟩
  exact hbs.2.map Attribute.signature

theorem writes_constantValue {o : Option Constant} (h : ∀ c ∈ o, Constant.fits c) :
    Writes (Write.optional "ConstantValue" (fun c => Write.index (Write.constant c)) o) fun pool parts =>
      List.Forall₂ (Reads (readAttribute pool)) parts (o.toList.map fun c => .constant (some c)) := by
  refine writes_optional (by decide) (fun c => .constant (some c)) ?_
  intro c hc
  apply (writes_index (writes_constant (h c hc))).mono
  intro pool bs hnumber
  have hbs := hnumber.spells
  exact ⟨by rw [hbs.1]; decide, body_of_reads (hbs.2.map Attribute.constant)⟩

theorem writes_exceptions {o : Option (List String)}
    (h : ∀ names ∈ o, names.length < 2 ^ 16 ∧ ∀ n ∈ names, fitsText n) :
    Writes (Write.optional "Exceptions"
        (fun names => do return countedBytes (← Write.each (fun n => Write.index (Write.className n)) names)) o)
      fun pool parts => List.Forall₂ (Reads (readAttribute pool)) parts (o.toList.map .exceptions) := by
  refine writes_optional (by decide) .exceptions ?_
  intro names hnames
  obtain ⟨hcount, hfits⟩ := h names hnames
  refine (writes_classNames hcount hfits).map fun pool parts hparts => ⟨?_, body_of_reads ?_⟩
  · rw [hparts.1, List.map_const', List.sum_replicate_nat]
    omega
  · exact hparts.2.map Attribute.exceptions

/-- The two attributes that list annotations differ in their name and in what their reader says of them. -/
theorem writes_annotations {name : String} {visible : Bool} {as : List AnnotationOutline} (hname : fitsText name)
    (hread : ∀ pool, readBody pool name = counted (readAnnotated pool visible) >>= fun as => pure (.annotations as))
    (h : Listable as) (hbody : notesSize as < 2 ^ 32) :
    Writes (Write.annotations name as) fun pool parts =>
      List.Forall₂ (Reads (readAttribute pool)) parts (noteAttributes visible as) := by
  unfold Write.annotations noteAttributes
  split
  · exact .pure fun _ => .nil
  · refine (writes_notes visible h).bind fun parts => ?_
    apply (writes_framed hname (countedBytes parts)).map
    intro pool frame hframe hparts
    have hnotes : Reads (readBody pool name) (countedBytes parts) (.annotations (as.map (·.info visible))) := by
      rw [hread]
      exact hparts.2.map Attribute.annotations
    exact .cons (hframe (by rw [hparts.1]; exact hbody) _ (body_of_reads hnotes)) .nil

/-! ## Parameters -/

/-- The lists are read in the order of their parameters, each with its number. -/
theorem reads_numbered {lists : List Bytes} {ps : List (List AnnotationOutline)} (first : Nat)
    (h : List.Forall₂ (fun part as => Spells (fun pool => counted (readAnnotated pool true)) (as.map (·.info true))
      (notesSize as) pool part) lists ps) :
    Reads (each (fun i => do
        let as ← counted (readAnnotated pool true)
        return as.map fun a => (UInt8.ofNat i, a)) (List.range' first ps.length)) lists.flatten
          (numberedNotes ps first) := by
  induction h generalizing first with
  | nil => exact Reads.pure []
  | cons hone _ ih =>
    have hfirst := hone.2.map fun as => as.map fun a => (UInt8.ofNat first, a)
    rw [List.map_map] at hfirst
    rw [List.length_cons, List.range'_succ, List.flatten_cons, numberedNotes, List.zipIdx_cons, List.map_cons]
    exact hfirst.bind ((ih (first + 1)).map _)

theorem writes_parameters {ps : List (List AnnotationOutline)} (hcount : ps.length < 2 ^ 8) (h : ∀ as ∈ ps, Listable as)
    (hbody : 1 + (ps.map notesSize).sum < 2 ^ 32) :
    Writes (Write.parameters ps) fun pool parts =>
      List.Forall₂ (Reads (readAttribute pool)) parts (parameterAttributes ps) := by
  unfold Write.parameters parameterAttributes
  split
  · exact .pure fun _ => .nil
  · have hlists : Writes (Write.each (fun as => do return countedBytes (← Write.each Write.annotated as)) ps) _ :=
      writes_each fun as has => (writes_notes true (h as has)).map fun _ _ hpart => hpart
    refine hlists.bind fun lists => ?_
    apply (writes_framed (by decide) _).map
    intro pool frame hframe hparts
    have hlength : (UInt8.ofNat ps.length :: lists.flatten).length < 2 ^ 32 := by
      rw [List.length_cons, length_flatten (hparts.imp fun _ _ hpart => hpart.1), Nat.add_comm]
      exact hbody
    refine .cons (hframe hlength _ (body_of_reads ?_)) .nil
    have hnumbers : (UInt8.ofNat ps.length).toNat = ps.length := UInt8.toNat_ofNat_of_lt' hcount
    have hread := (reads_numbered 0 hparts).map List.flatten
    rw [← List.range_eq_range', ← hnumbers] at hread
    have hall : Reads (readParameters pool true) (UInt8.ofNat ps.length :: lists.flatten)
      (numberedNotes ps 0).flatten :=
      (reads_u1 _).bind hread
    exact hall.map Attribute.parameterAnnotations

/-! ## Members -/

theorem writes_member {m : MemberOutline} (h : m.Fits) :
    Writes (Write.member m) fun pool bs => Reads (readMember pool) bs m.info := by
  refine (writes_text h.name).bind fun name => ?_
  refine (writes_text h.descriptor).bind fun descriptor => ?_
  refine (writes_code m.hasCode).bind fun code => ?_
  refine (writes_signature h.signature).bind fun signature => ?_
  refine (writes_constantValue h.constant).bind fun value => ?_
  refine (writes_exceptions h.exceptions).bind fun exceptions => ?_
  refine (writes_annotations (by decide) (fun _ => rfl) h.visible h.visibleBody).bind fun visible => ?_
  refine (writes_annotations (by decide) (fun _ => rfl) h.invisible h.invisibleBody).bind fun invisible => ?_
  refine (writes_parameters h.parameterCount h.parameters h.parameterBody).map
    fun pool onParameters honParameters hinvisible hvisible hexceptions hvalue hsignature hcode hdescriptor hname => ?_
  have htable : List.Forall₂ (Reads (readAttribute pool))
      (code ++ signature ++ value ++ exceptions ++ visible ++ invisible ++ onParameters) m.table :=
    List.rel_append (List.rel_append
      (List.rel_append (List.rel_append (List.rel_append (List.rel_append hcode hsignature)
      hvalue) hexceptions) hvisible) hinvisible) honParameters
  have hcount : (code ++ signature ++ value ++ exceptions ++ visible ++ invisible ++ onParameters).length < 2 ^ 16 := by
    rw [htable.length_eq]
    exact m.length_table
  have hattributes := (reads_counted hcount htable).map fun as => as.foldl Attributes.add Attributes.none
  rw [m.foldl_table] at hattributes
  have hread := hattributes.map fun a => MemberInfo.mk m.access m.name m.descriptor a
  rw [List.append_assoc, List.append_assoc]
  exact (reads_u2 m.access.bits).bind (hname.2.bind (hdescriptor.2.bind hread))

end ClassFile

end ClassAtlas
