import ClassAtlas.Proofs.PathOrder
import ClassAtlas.Render.Answer
import Mathlib.Tactic.SplitIfs

/-
  ClassAtlas.Proofs.Lines — the lines that a portrait is written in.

  A portrait has items: the annotations of the class, its declaration, its location, the
  members with the annotations of each, the classes directly under it and the digest. Each
  is written on a line of its own. What is in an item is a number, which has digits; a
  string, which has its line ends escaped; or it is verbatim. So the line ends of an item
  are those of what is verbatim in it, however deep (`lineEnds_valueText`, `lineEnds_item`).

  Names are verbatim, and so is the character of an annotation's parameter. With no line
  end in a name there is a line for each item, unless a character is one (`text_lines`,
  `lineEnd_breaks_line`).
-/

namespace ClassAtlas

/-! ## Line ends -/

namespace Text

def lineEnds (s : String) : Nat := s.toList.count '\n'

theorem lineEnds_eq_zero_iff {s : String} : lineEnds s = 0 ↔ '\n' ∉ s.toList := List.count_eq_zero

@[simp] theorem lineEnds_append (s t : String) : lineEnds (s ++ t) = lineEnds s + lineEnds t := by
  rw [lineEnds, String.toList_append, List.count_append, lineEnds, lineEnds]

theorem lineEnds_join_eq_zero {ss : List String} (h : ∀ s ∈ ss, lineEnds s = 0) : lineEnds (String.join ss) = 0 := by
  induction ss with
  | nil => rfl
  | cons s ss ih =>
    obtain ⟨hs, hss⟩ := List.forall_mem_cons.mp h
    rw [String.join_cons, lineEnds_append, hs, ih hss]

/-- What stands between them makes no difference if it has none. -/
theorem lineEnds_intercalate {sep : String} (hsep : lineEnds sep = 0) (ss : List String) :
    lineEnds (String.intercalate sep ss) = lineEnds (String.join ss) := by
  induction ss with
  | nil => rfl
  | cons s ss ih =>
    cases ss with
    | nil => rw [String.intercalate_singleton, String.join_cons, String.join_nil, String.append_empty]
    | cons t ts =>
      rw [String.intercalate_cons_cons, lineEnds_append, lineEnds_append, hsep, Nat.add_zero, ih, ← lineEnds_append,
        ← String.join_cons]

theorem digitChar_ne_lineEnd : ∀ n < 16, n.digitChar ≠ '\n' := by decide

theorem lineEnd_not_mem_toDigits {b : Nat} (hb : 1 < b) (hlimit : b ≤ 16) (n : Nat) : '\n' ∉ Nat.toDigits b n := by
  induction n using Nat.strongRecOn with
  | ind n ih =>
    rcases Nat.lt_or_ge n b with hlt | hge
    · rw [Nat.toDigits_of_lt_base hlt, List.mem_singleton]
      exact (digitChar_ne_lineEnd n (Nat.lt_of_lt_of_le hlt hlimit)).symm
    · have hless : n / b < n := Nat.div_lt_self (by omega) hb
      have hlast : n % b < 16 := Nat.lt_of_lt_of_le (Nat.mod_lt n (by omega)) hlimit
      rw [Nat.toDigits_of_base_le hb hge, List.mem_append, List.mem_singleton, not_or]
      exact ⟨ih _ hless, (digitChar_ne_lineEnd _ hlast).symm⟩

@[simp] theorem lineEnds_nat (n : Nat) : lineEnds (toString n) = 0 := by
  rw [lineEnds_eq_zero_iff, Nat.toString_eq_repr, Nat.toList_repr]
  exact lineEnd_not_mem_toDigits (by decide) (by decide) n

@[simp] theorem lineEnds_int (n : Int) : lineEnds (toString n) = 0 := by
  cases n with
  | ofNat m => exact lineEnds_nat m
  | negSucc m =>
    have hdigits := lineEnds_nat m.succ
    rw [Nat.toString_eq_repr] at hdigits
    rw [Int.toString_eq_repr, Int.repr, lineEnds_append, hdigits]
    rfl

/-! ## Numbers -/

namespace Layout

theorem lineEnds_zeros (n : Nat) : lineEnds (zeros n) = 0 := by
  rw [lineEnds_eq_zero_iff, zeros, String.toList_ofList, List.mem_replicate]
  rintro ⟨-, h⟩
  cases h

variable {digits : String}

theorem lineEnds_take (h : lineEnds digits = 0) (n : Nat) : lineEnds (digits.take n).toString = 0 := by
  rw [lineEnds_eq_zero_iff] at h ⊢
  simpa using fun hmem => h (List.mem_of_mem_take hmem)

theorem lineEnds_drop (h : lineEnds digits = 0) (n : Nat) : lineEnds (digits.drop n).toString = 0 := by
  rw [lineEnds_eq_zero_iff] at h ⊢
  simpa using fun hmem => h (List.mem_of_mem_drop hmem)

theorem lineEnds_withPoint (h : lineEnds digits = 0) (pointZero : Bool) (place : Int) :
    lineEnds (withPoint pointZero digits place) = 0 := by
  have hzero : lineEnds (if pointZero then ".0" else "") = 0 := by
    cases pointZero <;> rfl
  have hlead : lineEnds "0." = 0 := rfl
  have hpoint : lineEnds "." = 0 := rfl
  rw [withPoint]
  split
  · rw [lineEnds_append, lineEnds_append, hlead, lineEnds_zeros, h]
  · split
    · rw [lineEnds_append, lineEnds_append, h, lineEnds_zeros, hzero]
    · rw [lineEnds_append, lineEnds_append, lineEnds_take h, hpoint, lineEnds_drop h]

theorem lineEnds_withExponent (h : lineEnds digits = 0) (exponent : Int) :
    lineEnds (withExponent digits exponent) = 0 := by
  have htail : lineEnds (if (digits.drop 1).toString = "" then "" else "." ++ (digits.drop 1).toString) =
      0 := by
    split
    · rfl
    · rw [lineEnds_append, lineEnds_drop h]
      rfl
  have hsign : lineEnds (if exponent < 0 then "-" else "+") = 0 := by
    split <;> rfl
  have hmark : lineEnds "e" = 0 := rfl
  simp only [withExponent, lineEnds_append, lineEnds_take h, htail, hsign, hmark, lineEnds_nat]

/-- A number is written on one line, however it is laid out. -/
theorem lineEnds_write {l : Layout} (hnan : lineEnds l.nan = 0) (hinfinity : lineEnds l.infinity = 0) (f : FloatFormat)
    (bits : Nat) : lineEnds (l.write f bits) = 0 := by
  have hunsigned (d : Decimal) : lineEnds (l.unsigned d) = 0 := by
    simp only [unsigned]
    split
    · exact lineEnds_withPoint (lineEnds_nat _) _ _
    · split
      · exact lineEnds_withPoint (lineEnds_nat _) _ _
      · exact lineEnds_withExponent (lineEnds_nat _) _
  have hsign : lineEnds (if f.isNegative bits then "-" else "") = 0 := by
    split <;> rfl
  have hzero : lineEnds (if l.pointZero then "0.0" else "0") = 0 := by
    split <;> rfl
  rw [write]
  repeat' rw [apply_ite lineEnds]
  simp only [lineEnds_append, hsign, hzero, hnan, hinfinity, hunsigned, Nat.add_zero, ite_self]

end Layout

/-! ## Strings -/

/-- Between quotes there are no line ends if each character is written without one. -/
theorem lineEnds_quoted {write : Char → List Char} (h : ∀ c, '\n' ∉ write c) (s : String) :
    lineEnds (String.ofList ('"' :: (s.toList.flatMap write ++ ['"']))) = 0 := by
  rw [lineEnds_eq_zero_iff, String.toList_ofList]
  simp [h]

theorem Quoted.lineEnds_encode (s : String) : lineEnds (encode s) = 0 := by
  refine lineEnds_quoted (fun c => ?_) s
  unfold encodeChar
  split_ifs with _ _ _ hend
  any_goals decide
  · simpa [byNumber] using lineEnd_not_mem_toDigits (by decide) (by decide) c.toNat
  · rw [List.mem_singleton]
    exact Ne.symm hend

/-! ## Cutting a text into lines -/

theorem length_splitOn (c : Char) (s : List Char) : (s.splitOn c).length = s.count c + 1 := by
  induction s with
  | nil => rfl
  | cons d s ih =>
    rw [List.splitOn_cons_eq_if_modifyHead]
    split
    · next hd => rw [List.length_cons, ih, beq_iff_eq.mp hd, List.count_cons_self]
    · next hd => rw [List.length_modifyHead, ih, List.count_cons_of_ne fun e => hd (beq_iff_eq.mpr e)]

/-- Texts that are each put on a line are found again as these lines, with nothing behind the last. -/
theorem splitOn_lines {ss : List String} (h : ∀ s ∈ ss, lineEnds s = 0) :
    (Render.lines ss).toList.splitOn '\n' = ss.map String.toList ++ [[]] := by
  induction ss with
  | nil => rfl
  | cons s ss ih =>
    obtain ⟨hs, hss⟩ := List.forall_mem_cons.mp h
    have hline : (Render.lines (s :: ss)).toList = s.toList ++ '\n' :: (Render.lines ss).toList := by
      simp [Render.lines, Render.line]
    rw [hline, List.splitOn_append_cons_self_of_not_mem (lineEnds_eq_zero_iff.mp hs), ih hss]
    rfl

end Text

open Text (lineEnds lineEnds_append lineEnds_intercalate lineEnds_int)

namespace Render

theorem Json.lineEnds_quote (s : String) : lineEnds (quote s) = 0 := by
  refine Text.lineEnds_quoted (fun c => ?_) s
  have hdigit := Text.digitChar_ne_lineEnd (c.toNat % 16) (Nat.mod_lt _ (by decide))
  unfold escape
  split_ifs with _ _ hend
  any_goals decide
  · simp [hdigit.symm]
  · simp [hdigit.symm]
  · rw [List.mem_singleton]
    exact Ne.symm hend

theorem lineEnds_constant (c : Constant) : lineEnds ((constantJson c).pretty 0) = 0 := by
  have hnumber {l : Text.Layout} (hnan : lineEnds l.nan = 0) (hinfinity : lineEnds l.infinity = 0) (f : FloatFormat)
      (bits : Nat) : lineEnds (Json.number l f bits) = 0 := by
    rw [Json.number]
    split
    · rfl
    · exact Text.Layout.lineEnds_write hnan hinfinity f bits
  cases c with
  | int v => exact lineEnds_int _
  | long v => exact lineEnds_int _
  | float bits => exact hnumber rfl rfl _ _
  | double bits => exact hnumber rfl rfl _ _
  | str s => exact Json.lineEnds_quote s

/-! ## What is verbatim -/

/-- A text that is written as it is: a name of any kind, or the character of an annotation's parameter. -/
inductive Verbatim where
  | name (s : String)
  | char (c : Char)

namespace Verbatim

def text : Verbatim → String
  | name s => s
  | char c => String.ofList [c]

def name? : Verbatim → Option String
  | name s => some s
  | char _ => none

def char? : Verbatim → Option Char
  | name _ => none
  | char c => some c

/-- The line ends in all of them. -/
def ends (vs : List Verbatim) : Nat := lineEnds (String.join (vs.map text))

@[simp] theorem ends_nil : ends [] = 0 := rfl

@[simp] theorem ends_cons (v : Verbatim) (vs : List Verbatim) : ends (v :: vs) = lineEnds v.text + ends vs := by
  rw [ends, List.map_cons, String.join_cons, lineEnds_append, ends]

@[simp] theorem ends_append (vs ws : List Verbatim) : ends (vs ++ ws) = ends vs + ends ws := by
  rw [ends, List.map_append, String.join_append, lineEnds_append, ends, ends]

theorem ends_names (ss : List String) : ends (ss.map name) = lineEnds (String.join ss) := by
  have hnames : (ss.map name).map text = ss := by
    rw [List.map_map]
    exact List.map_id ss
  rw [ends, hnames]

/-- If there is none in a name, they are the characters that are a line end. -/
theorem ends_eq_count {vs : List Verbatim} (h : ∀ s ∈ vs.filterMap name?, lineEnds s = 0) :
    ends vs = (vs.filterMap char?).count '\n' := by
  induction vs with
  | nil => rfl
  | cons v vs ih =>
    cases v with
    | name s =>
      have hname : name? (name s) = some s := rfl
      rw [List.filterMap_cons_some hname, List.forall_mem_cons] at h
      rw [ends_cons, ih h.2, List.filterMap_cons_none rfl, text, h.1, Nat.zero_add]
    | char c =>
      have hchar : char? (char c) = some c := rfl
      rw [List.filterMap_cons_none rfl] at h
      rw [ends_cons, ih h, List.filterMap_cons_some hchar, ← List.singleton_append, List.count_append, text, lineEnds,
        String.toList_ofList]

end Verbatim

open Verbatim (ends)

mutual

/-- What is verbatim in the text of a value, at any depth. -/
def valueVerbatim : Value → List Verbatim
  | .char c => [.char c]
  | .enumConstant t c => [.name t, .name c]
  | .classLiteral d => [.name d]
  | .nested a => annotationVerbatim a
  | .array items => valuesVerbatim items
  | _ => []

def valuesVerbatim : List Value → List Verbatim
  | [] => []
  | v :: vs => valueVerbatim v ++ valuesVerbatim vs

def annotationVerbatim : AnnotationRecord → List Verbatim
  | ⟨name, _, params⟩ => .name name :: paramsVerbatim params

def paramsVerbatim : List (String × Value) → List Verbatim
  | [] => []
  | (n, v) :: ps => .name n :: (valueVerbatim v ++ paramsVerbatim ps)

end

mutual

/-- A value is written without line ends of its own: numbers have none, and those of a string are escaped. -/
theorem lineEnds_valueText : ∀ v : Value, lineEnds (valueText v) = ends (valueVerbatim v)
  | .byte v => lineEnds_int _
  | .char c => by
    have hquote : lineEnds "'" = 0 := rfl
    rw [valueText, lineEnds_append, lineEnds_append, hquote, Nat.zero_add, Nat.add_zero]
    rfl
  | .short v => lineEnds_int _
  | .int v => lineEnds_int _
  | .long v => by
    rw [valueText, lineEnds_append, lineEnds_int]
    rfl
  | .float bits => by
    rw [valueText, lineEnds_append, Text.Layout.lineEnds_write rfl rfl]
    rfl
  | .double bits => Text.Layout.lineEnds_write rfl rfl _ _
  | .boolean b => by cases b <;> rfl
  | .str s => Text.Quoted.lineEnds_encode s
  | .enumConstant t c => by
    have hdot : lineEnds "." = 0 := rfl
    rw [valueText, lineEnds_append, lineEnds_append, hdot, valueVerbatim, Verbatim.ends_cons, Verbatim.ends_cons,
      Verbatim.ends_nil, Verbatim.text, Verbatim.text, Nat.add_zero, Nat.add_zero]
  | .classLiteral d => by
    have hword : lineEnds ".class" = 0 := rfl
    rw [valueText, lineEnds_append, hword, valueVerbatim, Verbatim.ends_cons, Verbatim.ends_nil, Verbatim.text]
  | .nested a => lineEnds_annotationText a
  | .array items => by
    have hitems := lineEnds_valueTexts items
    rw [valueText, lineEnds_append, lineEnds_append, lineEnds_intercalate rfl, hitems, valueVerbatim]
    exact Nat.zero_add _

theorem lineEnds_valueTexts : ∀ vs : List Value, lineEnds (String.join (valueTexts vs)) = ends (valuesVerbatim vs)
  | [] => rfl
  | v :: vs => by
    rw [valueTexts, String.join_cons, lineEnds_append, lineEnds_valueText v, lineEnds_valueTexts vs, valuesVerbatim,
      Verbatim.ends_append]

theorem lineEnds_annotationText : ∀ a : AnnotationRecord, lineEnds (annotationText a) = ends (annotationVerbatim a)
  | ⟨name, _, params⟩ => by
    have hparams := lineEnds_paramTexts params
    have hat : lineEnds "@" = 0 := rfl
    have hclose : lineEnds ")" = 0 := rfl
    have hopen : lineEnds "(" = 0 := rfl
    rw [annotationText, annotationVerbatim, Verbatim.ends_cons, ← hparams, Verbatim.text]
    split
    · next hnone => rw [hnone, lineEnds_append, hat, Nat.zero_add]; rfl
    · rw [lineEnds_append, lineEnds_append, lineEnds_append, lineEnds_append, lineEnds_intercalate rfl, hat,
        hopen, hclose, Nat.zero_add, Nat.add_zero, Nat.add_zero]

theorem lineEnds_paramTexts :
    ∀ ps : List (String × Value), lineEnds (String.join (paramTexts ps)) = ends (paramsVerbatim ps)
  | [] => rfl
  | (n, v) :: ps => by
    have hequals : lineEnds " = " = 0 := rfl
    rw [paramTexts, String.join_cons, lineEnds_append, lineEnds_append, lineEnds_append, hequals, lineEnds_valueText v,
      lineEnds_paramTexts ps, paramsVerbatim, Verbatim.ends_cons, Verbatim.ends_append, Verbatim.text]
    omega

end

/-! ## What is on a line -/

theorem lineEnds_words {ss : List String} (h : ∀ k ∈ ss, lineEnds k = 0) (s : String) :
    lineEnds (String.intercalate " " (ss ++ [s])) = lineEnds s := by
  rw [lineEnds_intercalate rfl, String.join_append, lineEnds_append, Text.lineEnds_join_eq_zero h,
    Nat.zero_add, String.join_cons, String.join_nil, String.append_empty]

theorem lineEnds_keywords (a : Access) : ∀ k ∈ a.keywords, lineEnds k = 0 := by
  intro k hk
  obtain ⟨f, hf, rfl⟩ := List.mem_map.mp hk
  have hspelled : ∀ f ∈ Access.spelled, lineEnds f.2 = 0 := by decide
  exact hspelled f (List.mem_filter.mp hf).1

theorem lineEnds_memberText {kind : String} (hkind : lineEnds kind = 0) (access : Access) (signature : String) :
    lineEnds (memberText kind access signature) = lineEnds signature := by
  have hwords : ∀ k ∈ kind :: access.keywords, lineEnds k = 0 :=
    List.forall_mem_cons.mpr ⟨hkind, lineEnds_keywords access⟩
  rw [memberText, lineEnds_append, lineEnds_words hwords]
  exact Nat.zero_add _

theorem lineEnds_declaration (c : ClassRecord) :
    lineEnds (declaration c) = lineEnds c.name + lineEnds (String.join c.supertypes) := by
  have hwords : ∀ k ∈ c.access.keywords.filter (· ≠ "enum") ++ [c.access.kind.keyword], lineEnds k = 0 := by
    rw [List.forall_mem_append, List.forall_mem_singleton]
    refine ⟨fun k hk => lineEnds_keywords c.access k (List.mem_filter.mp hk).1, ?_⟩
    cases c.access.kind <;> rfl
  have hname := lineEnds_words hwords c.name
  rw [List.append_assoc, List.singleton_append] at hname
  have himplemented : lineEnds
    (if c.interfaces.isEmpty then "" else " implements " ++ String.intercalate ", " c.interfaces) =
      lineEnds (String.join c.interfaces) := by
    have hword : lineEnds " implements " = 0 := rfl
    split
    · next hnone => rw [List.isEmpty_iff.mp hnone]; rfl
    · rw [lineEnds_append, lineEnds_intercalate rfl, hword, Nat.zero_add]
  rw [ClassRecord.supertypes, String.join_append, lineEnds_append, ← himplemented, ← hname, ← Nat.add_assoc,
    declaration, lineEnds_append, lineEnds_append]
  congr 2
  cases c.superclass with
  | none => rfl
  | some s =>
    have hword : lineEnds " extends " = 0 := rfl
    rw [Option.toList_some, String.join_cons, String.join_nil, String.append_empty]
    dsimp only
    split
    · next hobject => rw [hobject]; rfl
    · rw [lineEnds_append, hword, Nat.zero_add]

end Render

theorem Digest.lineEnds_hex (bytes : Bytes) : lineEnds (hex bytes) = 0 := by
  have hdigits : '\n' ∉ "0123456789abcdef".toList := by decide
  have hdigit (n : Nat) : hexDigit n ≠ '\n' := by
    unfold hexDigit
    generalize "0123456789abcdef".toList = digits at hdigits ⊢
    cases hd : digits[n]? with
    | none => decide
    | some d =>
      rintro rfl
      exact hdigits (List.mem_of_getElem? hd)
  rw [Text.lineEnds_eq_zero_iff, hex, String.toList_ofList]
  simp [(hdigit _).symm]

namespace Portrait

open Render (Verbatim annotationText annotationVerbatim)

/-- What a portrait has a line for. -/
inductive Item where
  | classNote (a : AnnotationRecord)
  | declaration (c : ClassRecord)
  | location (l : String)
  | memberNote (a : AnnotationRecord)
  | field (f : FieldRecord)
  | method (m : MethodRecord)
  | subclasses (names : List String)
  | digest (bytecode : Bytes)

/-- The line of a field, with its value. -/
def fieldText (f : FieldRecord) : String :=
  Render.memberText "field" f.access f.signature ++
    match f.value with
    | none => ""
    | some v => " = " ++ (Render.constantJson v).pretty 0

/-- The line of a method, with its exceptions. -/
def methodText (m : MethodRecord) : String :=
  Render.memberText "method" m.access m.signature ++
    match m.exceptions with
    | none => ""
    | some [] => ""
    | some es => " throws " ++ String.intercalate ", " es

def subclassesText (names : List String) : String := "direct_subclasses: " ++ String.intercalate ", " names

namespace Item

def text : Item → String
  | classNote a => annotationText a
  | declaration c => Render.declaration c
  | location l => "  location: " ++ l
  | memberNote a => "  " ++ annotationText a
  | field f => fieldText f
  | method m => methodText m
  | subclasses names => subclassesText names
  | digest bytecode => "bytecode_sha256: " ++ Digest.hex (Digest.sha256 bytecode)

/-- What is verbatim in it. -/
def verbatim : Item → List Verbatim
  | classNote a => annotationVerbatim a
  | declaration c => (c.name :: c.supertypes).map .name
  | location l => [.name l]
  | memberNote a => annotationVerbatim a
  | field f => [.name f.signature]
  | method m => (m.signature :: m.exceptions.getD []).map .name
  | subclasses names => names.map .name
  | digest _ => []

end Item

/-- The items, in the order of their lines. -/
def items (p : Portrait) : List Item :=
  p.record.annotations.map .classNote ++ [.declaration p.record, .location p.record.location] ++
    p.record.fields.flatMap (fun f => f.annotations.map .memberNote ++ [.field f]) ++
    p.record.methods.flatMap (fun m => m.annotations.map .memberNote ++ [.method m]) ++
    (if p.subclasses.isEmpty then [] else [.subclasses p.subclasses]) ++ p.record.bytecode.toList.map .digest

theorem text_eq_lines (p : Portrait) : p.text = Render.lines (p.items.map Item.text) := by
  have hsubclasses : (if p.subclasses.isEmpty then [] else [Item.subclasses p.subclasses]).map Item.text =
      if p.subclasses.isEmpty then [] else ["direct_subclasses: " ++ String.intercalate ", " p.subclasses] := by
    split <;> rfl
  have hfields (f : FieldRecord) : (f.annotations.map Item.memberNote ++ [Item.field f]).map Item.text =
      Render.fieldLines f := by
    rw [List.map_append, List.map_map]
    rfl
  have hmethods (m : MethodRecord) :
      (m.annotations.map Item.memberNote ++ [Item.method m]).map Item.text = Render.methodLines m := by
    rw [List.map_append, List.map_map]
    rfl
  simp only [text, items, List.map_append, hsubclasses, List.map_flatMap, hfields, hmethods, List.map_map,
    Render.classLines, ClassRecord.digest?]
  cases p.record.bytecode <;> rfl

theorem lineEnds_item (i : Item) : lineEnds i.text = Verbatim.ends i.verbatim := by
  cases i with
  | classNote a => exact Render.lineEnds_annotationText a
  | declaration c =>
    show lineEnds (Render.declaration c) = Verbatim.ends ((c.name :: c.supertypes).map .name)
    rw [Render.lineEnds_declaration, Verbatim.ends_names, String.join_cons, lineEnds_append]
  | location l =>
    have hword : lineEnds "  location: " = 0 := rfl
    show lineEnds ("  location: " ++ l) = lineEnds l + 0
    rw [lineEnds_append, hword, Nat.zero_add, Nat.add_zero]
  | memberNote a =>
    have hindent : lineEnds "  " = 0 := rfl
    show lineEnds ("  " ++ annotationText a) = Verbatim.ends (annotationVerbatim a)
    rw [lineEnds_append, hindent, Nat.zero_add, Render.lineEnds_annotationText]
  | field f =>
    show lineEnds (fieldText f) = lineEnds f.signature + 0
    rw [fieldText, lineEnds_append, Render.lineEnds_memberText rfl]
    congr 1
    cases f.value with
    | none => rfl
    | some v =>
      have hequals : lineEnds " = " = 0 := rfl
      show lineEnds (" = " ++ (Render.constantJson v).pretty 0) = 0
      rw [lineEnds_append, hequals, Render.lineEnds_constant]
  | method m =>
    show lineEnds (methodText m) = Verbatim.ends ((m.signature :: m.exceptions.getD []).map .name)
    rw [methodText, lineEnds_append, Render.lineEnds_memberText rfl, Verbatim.ends_names, String.join_cons,
      lineEnds_append]
    congr 1
    rcases m.exceptions with _ | _ | ⟨e, es⟩
    · rfl
    · rfl
    · have hword : lineEnds " throws " = 0 := rfl
      show lineEnds (" throws " ++ String.intercalate ", " (e :: es)) = lineEnds (String.join (e :: es))
      rw [lineEnds_append, hword, lineEnds_intercalate rfl, Nat.zero_add]
  | subclasses names =>
    have hword : lineEnds "direct_subclasses: " = 0 := rfl
    show lineEnds ("direct_subclasses: " ++ String.intercalate ", " names) = Verbatim.ends (names.map .name)
    rw [lineEnds_append, hword, lineEnds_intercalate rfl, Nat.zero_add, Verbatim.ends_names]
  | digest bytecode =>
    have hword : lineEnds "bytecode_sha256: " = 0 := rfl
    show lineEnds ("bytecode_sha256: " ++ Digest.hex (Digest.sha256 bytecode)) = 0
    rw [lineEnds_append, hword, Digest.lineEnds_hex]

/-! ## The lines of a portrait -/

/-- All that is verbatim in a portrait. -/
def verbatim (p : Portrait) : List Verbatim := p.items.flatMap Item.verbatim

/-- The names in it: of classes, annotations, parameters and enum constants, signatures, descriptors and
    the location. -/
def names (p : Portrait) : List String := p.verbatim.filterMap Verbatim.name?

/-- The characters that are values of parameters, at any depth. -/
def chars (p : Portrait) : List Char := p.verbatim.filterMap Verbatim.char?

theorem lineEnds_text (p : Portrait) : lineEnds p.text = p.items.length + Verbatim.ends p.verbatim := by
  rw [text_eq_lines, Render.lines, verbatim]
  induction p.items with
  | nil => rfl
  | cons i is ih =>
    have hline : lineEnds (Render.line i.text) = Verbatim.ends i.verbatim + 1 := by
      rw [Render.line, lineEnds_append, lineEnds_item]
      rfl
    rw [List.map_cons, List.map_cons, String.join_cons, lineEnds_append, hline, ih, List.length_cons,
      List.flatMap_cons, Verbatim.ends_append]
    omega

theorem lineEnds_items {p : Portrait} (h : Verbatim.ends p.verbatim = 0) :
    ∀ s ∈ p.items.map Item.text, lineEnds s = 0 := by
  rw [List.forall_mem_map]
  intro i hi
  obtain ⟨before, after, hsplit⟩ := List.append_of_mem hi
  rw [verbatim, hsplit, List.flatMap_append, List.flatMap_cons, Verbatim.ends_append, Verbatim.ends_append] at h
  rw [lineEnds_item]
  omega

/-- With no line end in a name there is a line for each item, and one more for each character of a
    parameter that is a line end. So the lines are the items, in their order, just if no such character is
    one. -/
theorem text_lines (p : Portrait) (h : ∀ s ∈ p.names, '\n' ∉ s.toList) :
    lineEnds p.text = p.items.length + p.chars.count '\n' ∧
      (p.text.toList.splitOn '\n' = p.items.map (fun i => i.text.toList) ++ [[]] ↔ '\n' ∉ p.chars) := by
  have hends : Verbatim.ends p.verbatim = p.chars.count '\n' :=
    Verbatim.ends_eq_count fun s hs => Text.lineEnds_eq_zero_iff.mpr (h s hs)
  have hcount : lineEnds p.text = p.items.length + p.chars.count '\n' := by rw [lineEnds_text, hends]
  refine ⟨hcount, fun hlines => ?_, fun hnone => ?_⟩
  · -- more lines than items would show in their number
    have hlength := Text.length_splitOn '\n' p.text.toList
    rw [hlines, List.length_append, List.length_map, List.length_singleton] at hlength
    have hsame : p.items.length + 1 = lineEnds p.text + 1 := hlength
    rw [← List.count_eq_zero]
    omega
  · have hzero : Verbatim.ends p.verbatim = 0 := hends.trans (List.count_eq_zero.mpr hnone)
    rw [text_eq_lines, Text.splitOn_lines (lineEnds_items hzero), List.map_map]
    rfl

/-- A class with two others under it and with an annotation whose parameter is `v`. -/
def labelled (v : Value) : Portrait where
  record := { (ClassRecord.new ⟨0x21⟩ "A" (some "java/lang/Object") [] "/classes") with
    annotations := [⟨"Label", true, [("of", v)]⟩] }
  subclasses := ["B", "C"]
  units := 3

/-- A character inside an annotation inside a list. -/
def marks (c : Char) : Value := .array [.boolean true, .nested ⟨"Mark", true, [("sign", .char c)]⟩]

theorem text_lines_labelled :
    (∀ s ∈ (labelled (.array [.str "two\nlines", marks '+'])).names, '\n' ∉ s.toList) ∧
      lineEnds (labelled (.array [.str "two\nlines", marks '+'])).text = 4 := by
  have hnames : ∀ s ∈ (labelled (.array [.str "two\nlines", marks '+'])).names, '\n' ∉ s.toList := by decide
  exact ⟨hnames, (text_lines _ hnames).1⟩

/-- A character that is a line end stands in the text as it is and breaks the line of its annotation. -/
theorem lineEnd_breaks_line :
    (∀ s ∈ (labelled (marks '\n')).names, '\n' ∉ s.toList) ∧ (labelled (marks '\n')).items.length = 4 ∧
      lineEnds (labelled (marks '\n')).text = 5 ∧
      ((labelled (marks '\n')).text.toList.splitOn '\n').take 2 =
        ["@Label(of = \x7btrue, @Mark(sign = '".toList, "')\x7d)".toList] := by
  decide +kernel

end Portrait

end ClassAtlas
