import ClassAtlas.Proofs.Writing

/-
  ClassAtlas.Proofs.Nesting — values within values, written and read back.

  A value says what it is by its tag, and then names constants or holds values of its own.
  The reader goes down one level of its depth for each level of nesting. A value that nests
  is longer than what it holds, so its length is depth enough, and that is the depth that a
  reader of a whole body starts with. Writer and reader are followed by one induction over
  the outline, with a case for each kind of value.
-/

namespace ClassAtlas

/-! ## What fits -/

mutual

/-- Its texts and its lists can be counted. -/
def Element.fits : Element → Bool
  | .str s => ClassFile.fitsText s
  | .enumConstant t c => ClassFile.fitsText t && ClassFile.fitsText c
  | .classLiteral d => ClassFile.fitsText d
  | .nested a => a.fits
  | .array items => decide (items.length < 2 ^ 16) && elementsFit items
  | _ => true

def AnnotationOutline.fits : AnnotationOutline → Bool
  | ⟨descriptor, ps⟩ => ClassFile.fitsText descriptor && (decide (ps.length < 2 ^ 16) && pairsFit ps)

def elementsFit : List Element → Bool
  | [] => true
  | e :: es => e.fits && elementsFit es

def pairsFit : List (String × Element) → Bool
  | [] => true
  | (name, e) :: ps => ClassFile.fitsText name && (e.fits && pairsFit ps)

end

mutual

/-- How many bytes it takes. -/
def Element.size : Element → Nat
  | .enumConstant _ _ => 5
  | .nested a => 1 + a.size
  | .array items => 3 + elementsSize items
  | _ => 3

def AnnotationOutline.size : AnnotationOutline → Nat
  | ⟨_, ps⟩ => 4 + pairsSize ps

def elementsSize : List Element → Nat
  | [] => 0
  | e :: es => e.size + elementsSize es

def pairsSize : List (String × Element) → Nat
  | [] => 0
  | (_, e) :: ps => 2 + e.size + pairsSize ps

end

theorem Element.size_pos (e : Element) : 0 < e.size := by
  cases e <;> simp [Element.size]

/-- The annotation as a reader of the file has it. -/
def AnnotationOutline.info (visible : Bool) : AnnotationOutline → AnnotationInfo
  | ⟨descriptor, ps⟩ => ⟨descriptor, visible, pairValues visible ps⟩

theorem AnnotationOutline.toRecord_info (visible : Bool) (a : AnnotationOutline) :
    (a.info visible).toRecord = a.toRecord visible := by
  cases a with
  | mk descriptor ps => rfl

namespace ClassFile

open Decode

/-! ## Tags -/

/-- Behind its tag stands the number of a constant. -/
theorem writes_tagged {α : Type} {tag : Char} {w : Write UInt16} {q : Pool → UInt16 → Except DecodeError α} {a : α}
    (hw : Writes w (Finds q a)) :
    Writes (Write.tagged tag w) fun pool bs =>
      ∃ number, bs = UInt8.ofNat tag.toNat :: number ∧
        Spells (fun pool => u2 >>= fun i => check (q pool i)) a 2 pool number :=
  (writes_index hw).map fun _ number h => ⟨number, rfl, h.spells⟩

theorem charOfCode_toNat (c : Char) : charOfCode (Int32.ofNat c.toNat) = c := by
  have hvalid : c.toNat.isValidChar := c.valid
  have hlt : c.toNat < 2 ^ 32 := c.val.toNat_lt
  have hcode : (Int32.ofNat c.toNat).toUInt32.toNat = c.toNat := Nat.mod_eq_of_lt hlt
  unfold charOfCode
  rw [hcode]
  exact (if_pos hvalid).trans (Char.ofNat_toNat c)

/-! ## One value -/

/-- A reader of values reads `e` from `bs` at whatever depth is enough for its length. -/
def SpellsValue (visible : Bool) (e : Element) (pool : Pool) (bs : Bytes) : Prop :=
  bs.length = e.size ∧ ∀ depth, e.size ≤ depth → Reads (readValue pool visible depth) bs (e.value visible)

/-- The same of one value after another. -/
def SpellsValues (visible : Bool) (es : List Element) (pool : Pool) (parts : List Bytes) : Prop :=
  parts.flatten.length = elementsSize es ∧
    ∀ depth, elementsSize es ≤ depth →
      List.Forall₂ (Reads (readValue pool visible depth)) parts (elementValues visible es)

def SpellsPairs (visible : Bool) (ps : List (String × Element)) (pool : Pool) (parts : List Bytes) : Prop :=
  parts.flatten.length = pairsSize ps ∧
    ∀ depth, pairsSize ps ≤ depth →
      List.Forall₂ (Reads (readPair pool (readValue pool visible depth))) parts (pairValues visible ps)

def SpellsNote (visible : Bool) (a : AnnotationOutline) (pool : Pool) (bs : Bytes) : Prop :=
  bs.length = a.size ∧
    ∀ depth, a.size ≤ depth → Reads (readRaw pool visible (readValue pool visible depth)) bs (a.info visible)

variable (visible : Bool)

/-- A value takes at least one byte, so depth that is enough is not 0. -/
theorem spellsValue_of_succ {e : Element} {pool : Pool} {bs : Bytes} (hlength : bs.length = e.size)
    (h : ∀ depth, e.size ≤ depth + 1 → Reads (readValue pool visible (depth + 1)) bs (e.value visible)) :
    SpellsValue visible e pool bs := by
  refine ⟨hlength, fun depth hdepth => ?_⟩
  have hpos : 0 < e.size := e.size_pos
  obtain ⟨d, rfl⟩ : ∃ d, depth = d + 1 := Nat.exists_eq_succ_of_ne_zero (by omega)
  exact h d hdepth

/-- A value that is a tag and a constant takes three bytes and one level of depth. -/
theorem writes_leaf {α : Type} {e : Element} {tag : Char} {w : Write UInt16}
    {q : Pool → UInt16 → Except DecodeError α} {a : α}
    (hw : Writes w (Finds q a)) (hsize : e.size = 3)
    (hread : ∀ pool number depth, Reads (u2 >>= fun i => check (q pool i)) number a →
      Reads (readValue pool visible (depth + 1)) (UInt8.ofNat tag.toNat :: number) (e.value visible)) :
    Writes (Write.tagged tag w) (SpellsValue visible e) := by
  apply (writes_tagged hw).mono
  intro pool bs h
  obtain ⟨number, rfl, hlength, hnumber⟩ := h
  exact spellsValue_of_succ visible (by rw [hsize, List.length_cons, hlength]) fun depth _ =>
    hread pool number depth hnumber

/-- The five kinds whose constant is an integer; `f` is what the reader makes of it. -/
theorem writes_integerLeaf {e : Element} {tag : Char} {v : Int32} (f : Int32 → Value) (hsize : e.size = 3)
    (hvalue : f v = e.value visible)
    (hread : ∀ pool number depth, Reads (integerAt pool >>= fun w => pure (f w)) number (f v) →
      Reads (readValue pool visible (depth + 1)) (UInt8.ofNat tag.toNat :: number) (f v)) :
    Writes (Write.tagged tag (Write.fresh (.integer v))) (SpellsValue visible e) := by
  refine writes_leaf visible (writes_integer v) hsize ?_
  intro pool number depth h
  rw [← hvalue]
  exact hread pool number depth (h.map f)

theorem writes_byte (v : Int8) : Writes (Write.element (.byte v)) (SpellsValue visible (.byte v)) :=
  writes_integerLeaf visible (fun w => .byte w.toInt8) rfl (congrArg Value.byte (Int8.toInt8_toInt32 v))
    fun _ _ _ h => (reads_u1 _).bind h

theorem writes_char (c : Char) : Writes (Write.element (.char c)) (SpellsValue visible (.char c)) :=
  writes_integerLeaf visible (fun w => .char (charOfCode w)) rfl (congrArg Value.char (charOfCode_toNat c))
    fun _ _ _ h => (reads_u1 _).bind h

theorem writes_short (v : Int16) : Writes (Write.element (.short v)) (SpellsValue visible (.short v)) :=
  writes_integerLeaf visible (fun w => .short w.toInt16) rfl (congrArg Value.short (Int16.toInt16_toInt32 v))
    fun _ _ _ h => (reads_u1 _).bind h

theorem writes_int (v : Int32) : Writes (Write.element (.int v)) (SpellsValue visible (.int v)) :=
  writes_integerLeaf visible .int rfl rfl fun _ _ _ h => (reads_u1 _).bind h

theorem writes_boolean (b : Bool) : Writes (Write.element (.boolean b)) (SpellsValue visible (.boolean b)) :=
  writes_integerLeaf visible (fun w => .boolean (w != 0)) rfl (by cases b <;> rfl) fun _ _ _ h => (reads_u1 _).bind h

theorem writes_long (v : Int64) : Writes (Write.element (.long v)) (SpellsValue visible (.long v)) :=
  writes_leaf visible (writes_constant (c := .long v) rfl) rfl
    fun _ _ _ h => (reads_u1 _).bind (h.check rfl)

theorem writes_float (bits : UInt32) : Writes (Write.element (.float bits)) (SpellsValue visible (.float bits)) :=
  writes_leaf visible (writes_constant (c := .float bits) rfl) rfl
    fun _ _ _ h => (reads_u1 _).bind (h.check rfl)

theorem writes_double (bits : UInt64) : Writes (Write.element (.double bits)) (SpellsValue visible (.double bits)) :=
  writes_leaf visible (writes_constant (c := .double bits) rfl) rfl
    fun _ _ _ h => (reads_u1 _).bind (h.check rfl)

theorem writes_str {s : String} (hs : fitsText s) : Writes (Write.element (.str s)) (SpellsValue visible (.str s)) :=
  writes_leaf visible (writes_string hs) rfl fun _ _ _ h => (reads_u1 _).bind (h.map Value.str)

theorem writes_classLiteral {d : String} (hd : fitsText d) :
    Writes (Write.element (.classLiteral d)) (SpellsValue visible (.classLiteral d)) :=
  writes_leaf visible (writes_string hd) rfl fun _ _ _ h => (reads_u1 _).bind (h.map Value.classLiteral)

theorem writes_enumConstant {t c : String} (ht : fitsText t) (hc : fitsText c) :
    Writes (Write.element (.enumConstant t c)) (SpellsValue visible (.enumConstant t c)) := by
  refine (writes_tagged (writes_string ht)).bind fun typeName => ?_
  apply (writes_text hc).map
  intro pool name hname htype
  obtain ⟨number, rfl, hlength, hnumber⟩ := htype
  have hconstant := hname.2.map fun c => Value.enumConstant (Name.ofDescriptor t) c
  exact spellsValue_of_succ visible (by rw [List.length_append, List.length_cons, hlength, hname.1]; rfl)
    fun _ _ => (reads_u1 _).bind (hnumber.bind hconstant)

/-! ## Values within values -/

theorem length_elementValues (es : List Element) : (elementValues visible es).length = es.length := by
  induction es with
  | nil => rfl
  | cons e es ih => rw [elementValues, List.length_cons, List.length_cons, ih]

theorem length_pairValues (ps : List (String × Element)) : (pairValues visible ps).length = ps.length := by
  induction ps with
  | nil => rfl
  | cons p ps ih => rw [pairValues, List.length_cons, List.length_cons, ih]

theorem length_countedBytes (parts : List Bytes) : (countedBytes parts).length = 2 + parts.flatten.length := by
  rw [countedBytes, List.length_append, wordBytes, length_bigEndian]

mutual

theorem writes_element : ∀ e : Element, e.fits → Writes (Write.element e) (SpellsValue visible e)
  | .byte v, _ => writes_byte visible v
  | .char c, _ => writes_char visible c
  | .short v, _ => writes_short visible v
  | .int v, _ => writes_int visible v
  | .long v, _ => writes_long visible v
  | .float bits, _ => writes_float visible bits
  | .double bits, _ => writes_double visible bits
  | .boolean b, _ => writes_boolean visible b
  | .str _, h => writes_str visible h
  | .enumConstant _ _, h => writes_enumConstant visible (Bool.and_eq_true_iff.mp h).1 (Bool.and_eq_true_iff.mp h).2
  | .classLiteral _, h => writes_classLiteral visible h
  | .nested a, h => by
    apply (writes_annotated a h).map
    intro pool bs hbs
    have hsize : (UInt8.ofNat '@'.toNat :: bs).length = (Element.nested a).size := by
      rw [List.length_cons, hbs.1, Element.size, Nat.add_comm]
    refine spellsValue_of_succ visible hsize ?_
    intro depth hdepth
    -- the tag took a byte, so one level less is still enough for what is nested
    have hdepth' : a.size ≤ depth := by rw [Element.size] at hdepth; omega
    have hread := (hbs.2 depth hdepth').map fun raw => Value.nested raw.toRecord
    rw [AnnotationOutline.toRecord_info] at hread
    exact (reads_u1 _).bind hread
  | .array items, h => by
    obtain ⟨hcount, hitems⟩ := Bool.and_eq_true_iff.mp h
    apply (writes_elements items hitems).map
    intro pool parts hparts
    have hsize : (UInt8.ofNat '['.toNat :: countedBytes parts).length = (Element.array items).size := by
      rw [List.length_cons, length_countedBytes, hparts.1, Element.size]
      omega
    refine spellsValue_of_succ visible hsize ?_
    intro depth hdepth
    have hdepth' : elementsSize items ≤ depth := by rw [Element.size] at hdepth; omega
    have hvalues := hparts.2 depth hdepth'
    have hlength : parts.length < 2 ^ 16 := by
      rw [hvalues.length_eq, length_elementValues]
      exact of_decide_eq_true hcount
    exact (reads_u1 _).bind ((reads_counted hlength hvalues).map Value.array)

theorem writes_annotated : ∀ a : AnnotationOutline, a.fits → Writes (Write.annotated a) (SpellsNote visible a)
  | ⟨descriptor, ps⟩, h => by
    obtain ⟨hdescriptor, hrest⟩ := Bool.and_eq_true_iff.mp h
    obtain ⟨hcount, hps⟩ := Bool.and_eq_true_iff.mp hrest
    refine (writes_text hdescriptor).bind fun type => ?_
    apply (writes_pairs ps hps).map
    intro pool parts hparts htype
    have hsize : (type ++ countedBytes parts).length = AnnotationOutline.size ⟨descriptor, ps⟩ := by
      rw [List.length_append, length_countedBytes, htype.1, hparts.1, AnnotationOutline.size]
      omega
    refine ⟨hsize, fun depth hdepth => ?_⟩
    have hdepth' : pairsSize ps ≤ depth := by rw [AnnotationOutline.size] at hdepth; omega
    have hpairs := hparts.2 depth hdepth'
    have hlength : parts.length < 2 ^ 16 := by
      rw [hpairs.length_eq, length_pairValues]
      exact of_decide_eq_true hcount
    have hread := (reads_counted hlength hpairs).map fun pairs => AnnotationInfo.mk descriptor visible pairs
    exact htype.2.bind hread

theorem writes_elements : ∀ es : List Element, elementsFit es → Writes (Write.elements es) (SpellsValues visible es)
  | [], _ => .pure fun _ => ⟨rfl, fun _ _ => .nil⟩
  | e :: es, h => by
    obtain ⟨he, hes⟩ := Bool.and_eq_true_iff.mp h
    refine (writes_element e he).bind fun bs => ?_
    apply (writes_elements es hes).map
    intro pool parts hparts hbs
    have hsize : (bs :: parts).flatten.length = elementsSize (e :: es) := by
      rw [List.flatten_cons, List.length_append, hbs.1, hparts.1, elementsSize]
    refine ⟨hsize, fun depth hdepth => ?_⟩
    rw [elementsSize] at hdepth
    exact .cons (hbs.2 depth (by omega)) (hparts.2 depth (by omega))

theorem writes_pairs : ∀ ps : List (String × Element), pairsFit ps → Writes (Write.pairs ps) (SpellsPairs visible ps)
  | [], _ => .pure fun _ => ⟨rfl, fun _ _ => .nil⟩
  | (name, e) :: ps, h => by
    obtain ⟨hname, hrest⟩ := Bool.and_eq_true_iff.mp h
    obtain ⟨he, hps⟩ := Bool.and_eq_true_iff.mp hrest
    refine (writes_text hname).bind fun n => ?_
    refine (writes_element e he).bind fun bs => ?_
    apply (writes_pairs ps hps).map
    intro pool parts hparts hbs hn
    have hsize : ((n ++ bs) :: parts).flatten.length = pairsSize ((name, e) :: ps) := by
      rw [List.flatten_cons, List.length_append, List.length_append, hn.1, hbs.1, hparts.1, pairsSize]
    refine ⟨hsize, fun depth hdepth => ?_⟩
    rw [pairsSize] at hdepth
    have hvalue := (hbs.2 depth (by omega)).map fun v => (name, v)
    have hpair : Reads (readPair pool (readValue pool visible depth)) (n ++ bs) (name, e.value visible) :=
      hn.2.bind hvalue
    exact .cons hpair (hparts.2 depth (by omega))

end

end ClassFile

end ClassAtlas
