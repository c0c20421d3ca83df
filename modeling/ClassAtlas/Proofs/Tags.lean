import ClassAtlas.Proofs.Layout
import ClassAtlas.Proofs.Utf8

/-
  ClassAtlas.Proofs.Tags — what a tag says of the value behind it.

  Each kind of value has a tag of its own (`Value.tag`). Behind it stand the number of a
  constant or two, or further values, so that a value is laid out as a tree of tags and
  numbers (`RawValue`), with nothing looked up. A tree is read as a whole (`gives_value`):
  what it means hangs on the pool alone, and what is read is such a tree (`spelled_value`).

  So two questions about values of any depth become questions about trees:
  - Is the value read? Just if every constant that the tree names is of a kind that is
    accepted there (`isOk_meaning`), whichever tag names it and however deep.
  - Of which kind are the values in it? Each is of the kind of its tag, but for numbers: where
    a long, a float or a double is asked for, any of the three is accepted and gives a value of
    its own kind (`tag_meaning`). The kinds of numbers are those of their tags only where the
    pool keeps to them (`tag_meaning_of_has`).
-/

namespace ClassAtlas

/-- The tag that a value of its kind is written with. -/
def Value.tag : Value → Char
  | .byte _ => 'B'
  | .char _ => 'C'
  | .short _ => 'S'
  | .boolean _ => 'Z'
  | .int _ => 'I'
  | .long _ => 'J'
  | .float _ => 'F'
  | .double _ => 'D'
  | .str _ => 's'
  | .enumConstant _ _ => 'e'
  | .classLiteral _ => 'c'
  | .nested _ => '@'
  | .array _ => '['

namespace ClassFile

open Decode

/-! ## Constants that are asked for -/

/-- What a constant should be. -/
inductive Wanted where
  | text
  | integer
  | long
  | float
  | double
  deriving DecidableEq, Repr

def Wanted.isNumber : Wanted → Bool
  | long | float | double => true
  | _ => false

def PoolEntry.is : PoolEntry → Wanted → Bool
  | .utf8 _, .text => true
  | .integer _, .integer => true
  | .long _, .long => true
  | .float _, .float => true
  | .double _, .double => true
  | _, _ => false

/-- The number that a constant is, if it is a long, a float or a double. -/
def PoolEntry.number? : PoolEntry → Option Value
  | .long v => some (.long v)
  | .float bits => some (.float bits)
  | .double bits => some (.double bits)
  | _ => none

/-- Under the number stands a constant as wanted. -/
def Pool.has (pool : Pool) (u : Wanted × UInt16) : Bool := (pool.entry? u.2).any (·.is u.1)

/-- What is taken for it: one as wanted, or for a long, a float or a double any of the three. -/
def Pool.accepts (pool : Pool) (u : Wanted × UInt16) : Bool :=
  (pool.entry? u.2).any fun e => e.is u.1 || u.1.isNumber && e.number?.isSome

/-! ## Values as they stand in a body -/

/-- The tags with one constant behind them. -/
inductive Tag where
  | byte
  | char
  | short
  | boolean
  | int
  | long
  | float
  | double
  | str
  | classLiteral
  deriving DecidableEq, Repr

namespace Tag

def letter : Tag → Char
  | byte => 'B'
  | char => 'C'
  | short => 'S'
  | boolean => 'Z'
  | int => 'I'
  | long => 'J'
  | float => 'F'
  | double => 'D'
  | str => 's'
  | classLiteral => 'c'

def wanted : Tag → Wanted
  | long => .long
  | float => .float
  | double => .double
  | str | classLiteral => .text
  | _ => .integer

def code (t : Tag) : UInt8 := UInt8.ofNat t.letter.toNat

/-- What is made of the constant under a number. -/
def meaning (pool : Pool) (i : UInt16) : Tag → Except DecodeError Value
  | byte => do return .byte (← pool.integer i).toInt8
  | char => do return .char (charOfCode (← pool.integer i))
  | short => do return .short (← pool.integer i).toInt16
  | boolean => do return .boolean ((← pool.integer i) != 0)
  | int => do return .int (← pool.integer i)
  | str => do return .str (← pool.text i)
  | classLiteral => do return .classLiteral (← pool.text i)
  | number => do numberValue number.code (← pool.constant i)

end Tag

/-- A value as it stands in a body: its tag, and behind it numbers of constants or further values. -/
inductive RawValue where
  | constant (tag : Tag) (index : UInt16)
  | enumConstant (typeIndex constantIndex : UInt16)
  | nested (descriptorIndex : UInt16) (pairs : List (UInt16 × RawValue))
  | array (items : List RawValue)

mutual

def RawValue.bytes : RawValue → Bytes
  | .constant t i => t.code :: wordBytes i.toNat
  | .enumConstant i j => UInt8.ofNat 'e'.toNat :: (wordBytes i.toNat ++ wordBytes j.toNat)
  | .nested i ps => UInt8.ofNat '@'.toNat :: (wordBytes i.toNat ++ countedBytes (pairBytes ps))
  | .array items => UInt8.ofNat '['.toNat :: countedBytes (itemBytes items)

def itemBytes : List RawValue → List Bytes
  | [] => []
  | x :: xs => x.bytes :: itemBytes xs

def pairBytes : List (UInt16 × RawValue) → List Bytes
  | [] => []
  | (i, x) :: ps => (wordBytes i.toNat ++ x.bytes) :: pairBytes ps

end

mutual

/-- Its lists can be counted, and it nests no deeper than `depth`. -/
def RawValue.fits (depth : Nat) : RawValue → Bool
  | .constant _ _ => depth != 0
  | .enumConstant _ _ => depth != 0
  | .nested _ ps => depth != 0 && (decide (ps.length < 2 ^ 16) && rawPairsFit (depth - 1) ps)
  | .array items => depth != 0 && (decide (items.length < 2 ^ 16) && rawItemsFit (depth - 1) items)

def rawItemsFit (depth : Nat) : List RawValue → Bool
  | [] => true
  | x :: xs => x.fits depth && rawItemsFit depth xs

def rawPairsFit (depth : Nat) : List (UInt16 × RawValue) → Bool
  | [] => true
  | (_, x) :: ps => x.fits depth && rawPairsFit depth ps

end

mutual

/-- What the pool makes of it. -/
def RawValue.meaning (pool : Pool) (visible : Bool) : RawValue → Except DecodeError Value
  | .constant t i => t.meaning pool i
  | .enumConstant i j => do
    let typeName ← pool.text i
    let constant ← pool.text j
    return .enumConstant (Name.ofDescriptor typeName) constant
  | .nested i ps => do
    let descriptor ← pool.text i
    let pairs ← pairsMeaning pool visible ps
    return .nested (AnnotationInfo.toRecord ⟨descriptor, visible, pairs⟩)
  | .array items => do
    let vs ← itemsMeaning pool visible items
    return .array vs

def itemsMeaning (pool : Pool) (visible : Bool) : List RawValue → Except DecodeError (List Value)
  | [] => pure []
  | x :: xs => do
    let v ← x.meaning pool visible
    let vs ← itemsMeaning pool visible xs
    return v :: vs

def pairsMeaning (pool : Pool) (visible : Bool) : List (UInt16 × RawValue) → Except DecodeError (List (String × Value))
  | [] => pure []
  | (i, x) :: ps => do
    let name ← pool.text i
    let v ← x.meaning pool visible
    let vs ← pairsMeaning pool visible ps
    return (name, v) :: vs

end

mutual

/-- The constants that it names, and what each of them should be. -/
def RawValue.uses : RawValue → List (Wanted × UInt16)
  | .constant t i => [(t.wanted, i)]
  | .enumConstant i j => [(.text, i), (.text, j)]
  | .nested i ps => (.text, i) :: pairUses ps
  | .array items => itemUses items

def itemUses : List RawValue → List (Wanted × UInt16)
  | [] => []
  | x :: xs => x.uses ++ itemUses xs

def pairUses : List (UInt16 × RawValue) → List (Wanted × UInt16)
  | [] => []
  | (i, x) :: ps => (.text, i) :: (x.uses ++ pairUses ps)

end

/-- Values stand for raw values place by place, and each that is made of one constant goes with its tag as
    `goes` says. -/
inductive RawValue.Agrees (goes : Char → Char → Prop) : RawValue → Value → Prop
  | constant {t : Tag} {i : UInt16} {v : Value} : goes t.letter v.tag → Agrees goes (.constant t i) v
  | enumConstant {i j : UInt16} {typeName constant : String} :
      Agrees goes (.enumConstant i j) (.enumConstant typeName constant)
  | nested {i : UInt16} {ps : List (UInt16 × RawValue)} {a : AnnotationRecord} :
      List.Forall₂ (fun p q => Agrees goes p.2 q.2) ps a.params → Agrees goes (.nested i ps) (.nested a)
  | array {items : List RawValue} {vs : List Value} :
      List.Forall₂ (Agrees goes) items vs → Agrees goes (.array items) (.array vs)

/-! ## Lists of values -/

theorem itemBytes_eq (xs : List RawValue) : itemBytes xs = xs.map RawValue.bytes := by
  induction xs with
  | nil => rfl
  | cons x xs ih => rw [itemBytes, ih, List.map_cons]

theorem pairBytes_eq (ps : List (UInt16 × RawValue)) :
    pairBytes ps = ps.map fun p => wordBytes p.1.toNat ++ p.2.bytes := by
  induction ps with
  | nil => rfl
  | cons p ps ih => rw [pairBytes, ih, List.map_cons]

theorem rawItemsFit_iff {depth : Nat} {xs : List RawValue} : rawItemsFit depth xs ↔ ∀ x ∈ xs, x.fits depth := by
  induction xs with
  | nil => simp [rawItemsFit]
  | cons x xs ih => rw [rawItemsFit, Bool.and_eq_true, ih, List.forall_mem_cons]

theorem rawPairsFit_iff {depth : Nat} {ps : List (UInt16 × RawValue)} :
    rawPairsFit depth ps ↔ ∀ p ∈ ps, p.2.fits depth := by
  induction ps with
  | nil => simp [rawPairsFit]
  | cons p ps ih => rw [rawPairsFit, Bool.and_eq_true, ih, List.forall_mem_cons]

variable (pool : Pool) (visible : Bool)

def pairMeaning (p : UInt16 × RawValue) : Except DecodeError (String × Value) := do
  let name ← pool.text p.1
  let v ← p.2.meaning pool visible
  return (name, v)

theorem itemsMeaning_eq (xs : List RawValue) :
    itemsMeaning pool visible xs = xs.mapM (RawValue.meaning pool visible) := by
  induction xs with
  | nil => rfl
  | cons x xs ih => rw [itemsMeaning, ih, List.mapM_cons]

theorem pairsMeaning_eq (ps : List (UInt16 × RawValue)) :
    pairsMeaning pool visible ps = ps.mapM (pairMeaning pool visible) := by
  induction ps with
  | nil => rfl
  | cons p ps ih =>
    rw [pairsMeaning, ih, List.mapM_cons]
    simp only [pairMeaning, bind_assoc, pure_bind]

theorem meaning_nested (i : UInt16) (ps : List (UInt16 × RawValue)) :
    (RawValue.nested i ps).meaning pool visible =
      (do
        let descriptor ← pool.text i
        let pairs ← ps.mapM (pairMeaning pool visible)
        return (AnnotationInfo.mk descriptor visible pairs)) >>= fun raw => pure (Value.nested raw.toRecord) := by
  rw [RawValue.meaning, pairsMeaning_eq]
  simp only [bind_assoc, pure_bind]

/-! ## Trees are read -/

theorem gives_text (i : UInt16) : Gives (textAt pool) (wordBytes i.toNat) (pool.text i) :=
  Gives.check (reads_word i) pool.text

theorem gives_integer (i : UInt16) : Gives (integerAt pool) (wordBytes i.toNat) (pool.integer i) :=
  Gives.check (reads_word i) pool.integer

theorem gives_number (i : UInt16) (tag : UInt8) :
    Gives (constantAt pool >>= fun c => check (numberValue tag c)) (wordBytes i.toNat)
      (pool.constant i >>= numberValue tag) := by
  have hconstant : Gives (constantAt pool) (wordBytes i.toNat) (pool.constant i) :=
    Gives.check (reads_word i) pool.constant
  have h := hconstant.bind fun c => gives_check (numberValue tag c)
  rwa [List.append_nil] at h

/-- Behind a tag stands what the tag says. -/
theorem gives_tagged {α : Type} {f : UInt8 → Decode α} {tag : UInt8} {bs : Bytes} {q : Except DecodeError α}
    (h : Gives (f tag) bs q) : Gives (u1 >>= f) (tag :: bs) q := fun rest => h rest

theorem gives_constant (depth : Nat) (t : Tag) (i : UInt16) :
    Gives (readValue pool visible (depth + 1)) (t.code :: wordBytes i.toNat) (t.meaning pool i) := by
  cases t with
  | byte => exact gives_tagged ((gives_integer pool i).map fun v => Value.byte v.toInt8)
  | char => exact gives_tagged ((gives_integer pool i).map fun v => Value.char (charOfCode v))
  | short => exact gives_tagged ((gives_integer pool i).map fun v => Value.short v.toInt16)
  | boolean => exact gives_tagged ((gives_integer pool i).map fun v => Value.boolean (v != 0))
  | int => exact gives_tagged ((gives_integer pool i).map Value.int)
  | long => exact gives_tagged (gives_number pool i Tag.long.code)
  | float => exact gives_tagged (gives_number pool i Tag.float.code)
  | double => exact gives_tagged (gives_number pool i Tag.double.code)
  | str => exact gives_tagged ((gives_text pool i).map Value.str)
  | classLiteral => exact gives_tagged ((gives_text pool i).map Value.classLiteral)

theorem gives_enumConstant (depth : Nat) (i j : UInt16) :
    Gives (readValue pool visible (depth + 1)) (RawValue.enumConstant i j).bytes
      ((RawValue.enumConstant i j).meaning pool visible) :=
  gives_tagged ((gives_text pool i).bind fun typeName =>
    (gives_text pool j).map fun constant => Value.enumConstant (Name.ofDescriptor typeName) constant)

theorem gives_pair {depth : Nat} {p : UInt16 × RawValue}
    (h : Gives (readValue pool visible depth) p.2.bytes (p.2.meaning pool visible)) :
    Gives (readPair pool (readValue pool visible depth)) (wordBytes p.1.toNat ++ p.2.bytes)
      (pairMeaning pool visible p) :=
  (gives_text pool p.1).bind fun name => h.map fun v => (name, v)

/-- A tree is read as a whole, whatever stands behind it, and what it means hangs on the pool alone. -/
theorem gives_value {depth : Nat} {raw : RawValue} (h : raw.fits depth) :
    Gives (readValue pool visible depth) raw.bytes (raw.meaning pool visible) := by
  induction depth generalizing raw with
  | zero => cases raw <;> simp [RawValue.fits] at h
  | succ depth ih =>
    cases raw with
    | constant t i => exact gives_constant pool visible depth t i
    | enumConstant i j => exact gives_enumConstant pool visible depth i j
    | nested i ps =>
      simp only [RawValue.fits, Nat.add_sub_cancel, Bool.and_eq_true, decide_eq_true_eq] at h
      obtain ⟨-, hcount, hfit⟩ := h
      have hpairs := Table.gives ⟨ps, hcount⟩ fun p hp =>
        gives_pair pool visible (ih (rawPairsFit_iff.mp hfit p hp))
      have hraw := (gives_text pool i).bind fun descriptor => hpairs.map fun pairs =>
        AnnotationInfo.mk descriptor visible pairs
      rw [RawValue.bytes, meaning_nested, pairBytes_eq]
      exact gives_tagged (hraw.map fun raw => Value.nested raw.toRecord)
    | array items =>
      simp only [RawValue.fits, Nat.add_sub_cancel, Bool.and_eq_true, decide_eq_true_eq] at h
      obtain ⟨-, hcount, hfit⟩ := h
      have hitems := Table.gives ⟨items, hcount⟩ fun x hx => ih (rawItemsFit_iff.mp hfit x hx)
      rw [RawValue.bytes, RawValue.meaning, itemBytes_eq, itemsMeaning_eq]
      exact gives_tagged (hitems.map Value.array)

/-! ## What is read is a tree -/

variable {pool visible}

/-- A word that numbers a constant, and something is made of what is found. -/
theorem ok_of_word_map {α β : Type} {q : UInt16 → Except DecodeError α} {f : α → β} {bs rest : Bytes} {b : β}
    (h : ((u2 >>= fun i => check (q i)) >>= fun a => pure (f a)) bs = .ok (b, rest)) :
    ∃ i : UInt16, bs = wordBytes i.toNat ++ rest := by
  obtain ⟨a, mid, hword, hpure⟩ := ok_of_bind h
  cases hpure
  exact ok_of_word hword

theorem ok_of_numberAt {tag : UInt8} {bs rest : Bytes} {v : Value}
    (h : (constantAt pool >>= fun c => check (numberValue tag c)) bs = .ok (v, rest)) :
    ∃ i : UInt16, bs = wordBytes i.toNat ++ rest := by
  obtain ⟨c, mid, hword, hnumber⟩ := ok_of_bind h
  obtain ⟨-, rfl⟩ := ok_of_check hnumber
  exact ok_of_word hword

theorem eq_code {tag : UInt8} {c : Char} (h : Char.ofNat tag.toNat = c) : tag = UInt8.ofNat c.toNat := by
  have hvalid : tag.toNat.isValidChar := Or.inl (Nat.lt_trans tag.toNat_lt (by decide))
  rw [← h, Text.Utf8.toNat_ofNat hvalid, UInt8.ofNat_toNat]

/-- The trees that a reader of that depth can come to. -/
abbrev Shallow (depth : Nat) : Type := { raw : RawValue // raw.fits depth }

def Shallow.bytes (depth : Nat) (raw : Shallow depth) : Bytes := raw.1.bytes

def Shallow.pairBytes (depth : Nat) (p : UInt16 × Shallow depth) : Bytes := wordBytes p.1.toNat ++ p.2.1.bytes

/-- Trees that can be counted make a tree one deeper. -/
def Shallow.array {depth : Nat} (t : Table (Shallow depth)) : Shallow (depth + 1) where
  val := .array (t.entries.map Subtype.val)
  property := by
    simp only [RawValue.fits, Nat.add_sub_cancel, Bool.and_eq_true, decide_eq_true_eq, List.length_map, rawItemsFit_iff]
    refine ⟨rfl, t.count_fits, ?_⟩
    intro x hx
    obtain ⟨y, -, rfl⟩ := List.mem_map.mp hx
    exact y.2

def Shallow.nested {depth : Nat} (i : UInt16) (t : Table (UInt16 × Shallow depth)) : Shallow (depth + 1) where
  val := .nested i (t.entries.map fun p => (p.1, p.2.1))
  property := by
    simp only [RawValue.fits, Nat.add_sub_cancel, Bool.and_eq_true, decide_eq_true_eq, List.length_map, rawPairsFit_iff]
    refine ⟨rfl, t.count_fits, ?_⟩
    intro p hp
    obtain ⟨q, -, rfl⟩ := List.mem_map.mp hp
    exact q.2.2

theorem Shallow.bytes_array {depth : Nat} (t : Table (Shallow depth)) :
    (Shallow.array t).1.bytes = UInt8.ofNat '['.toNat :: t.bytes (Shallow.bytes depth) := by
  rw [Shallow.array, RawValue.bytes, itemBytes_eq, List.map_map]
  rfl

theorem Shallow.bytes_nested {depth : Nat} (i : UInt16) (t : Table (UInt16 × Shallow depth)) :
    (Shallow.nested i t).1.bytes =
      UInt8.ofNat '@'.toNat :: (wordBytes i.toNat ++ t.bytes (Shallow.pairBytes depth)) := by
  rw [Shallow.nested, RawValue.bytes, pairBytes_eq, List.map_map]
  rfl

theorem spelled_pair {depth : Nat} (h : Spelled (readValue pool visible depth) (Shallow.bytes depth)) :
    Spelled (readPair pool (readValue pool visible depth)) (Shallow.pairBytes depth) := by
  intro bs rest pair hread
  obtain ⟨name, mid, hname, hread⟩ := ok_of_bind hread
  obtain ⟨v, mid', hvalue, hpure⟩ := ok_of_bind hread
  cases hpure
  obtain ⟨i, rfl⟩ := ok_of_word hname
  obtain ⟨raw, rfl⟩ := h hvalue
  exact ⟨(i, raw), (List.append_assoc _ _ _).symm⟩

theorem spelled_raw {depth : Nat} (h : Spelled (readValue pool visible depth) (Shallow.bytes depth)) :
    Spelled (readRaw pool visible (readValue pool visible depth))
      fun n : UInt16 × Table (UInt16 × Shallow depth) =>
        wordBytes n.1.toNat ++ n.2.bytes (Shallow.pairBytes depth) := by
  intro bs rest note hread
  obtain ⟨descriptor, mid, htype, hread⟩ := ok_of_bind hread
  obtain ⟨pairs, mid', hpairs, hpure⟩ := ok_of_bind hread
  cases hpure
  obtain ⟨i, rfl⟩ := ok_of_word htype
  obtain ⟨t, rfl⟩ := Table.spelled (spelled_pair h) hpairs
  exact ⟨(i, t), (List.append_assoc _ _ _).symm⟩

/-- Whatever is read is a tree, and no deeper than the reader goes. -/
theorem spelled_value (depth : Nat) :
    Spelled (readValue pool visible depth) (Shallow.bytes depth) := by
  induction depth with
  | zero =>
    intro bs rest v h
    cases h
  | succ depth ih =>
    intro bs rest v h
    obtain ⟨tag, mid, htag, harm⟩ := ok_of_bind (p := u1) h
    obtain rfl := ok_of_u1 htag
    have hconstant (t : Tag) (ht : Char.ofNat tag.toNat = t.letter)
        (hword : ∃ i : UInt16, mid = wordBytes i.toNat ++ rest) :
        ∃ raw : Shallow (depth + 1), tag :: mid = raw.1.bytes ++ rest := by
      obtain ⟨i, rfl⟩ := hword
      exact ⟨⟨.constant t i, rfl⟩, by rw [eq_code ht]; rfl⟩
    generalize hletter : Char.ofNat tag.toNat = c at harm
    split at harm
    · exact hconstant .byte hletter (ok_of_word_map harm)
    · exact hconstant .char hletter (ok_of_word_map harm)
    · exact hconstant .short hletter (ok_of_word_map harm)
    · exact hconstant .boolean hletter (ok_of_word_map harm)
    · exact hconstant .int hletter (ok_of_word_map harm)
    · exact hconstant .long hletter (ok_of_numberAt harm)
    · exact hconstant .float hletter (ok_of_numberAt harm)
    · exact hconstant .double hletter (ok_of_numberAt harm)
    · exact hconstant .str hletter (ok_of_word_map harm)
    · obtain ⟨typeName, mid', htype, hname⟩ := ok_of_bind harm
      obtain ⟨i, rfl⟩ := ok_of_word htype
      obtain ⟨j, rfl⟩ := ok_of_word_map hname
      refine ⟨⟨.enumConstant i j, rfl⟩, ?_⟩
      rw [eq_code hletter, Shallow.bytes, RawValue.bytes, List.cons_append, List.append_assoc]
    · exact hconstant .classLiteral hletter (ok_of_word_map harm)
    · obtain ⟨note, mid', hnote, hpure⟩ := ok_of_bind harm
      cases hpure
      obtain ⟨⟨i, t⟩, rfl⟩ := spelled_raw ih hnote
      exact ⟨.nested i t, by rw [eq_code hletter, Shallow.bytes, Shallow.bytes_nested, List.cons_append]⟩
    · obtain ⟨vs, mid', hitems, hpure⟩ := ok_of_bind harm
      cases hpure
      obtain ⟨t, rfl⟩ := Table.spelled ih hitems
      exact ⟨.array t, by rw [eq_code hletter, Shallow.bytes, Shallow.bytes_array, List.cons_append]⟩
    · cases harm

/-! ## Which trees mean something -/

theorem isOk_bind {ε α β : Type} {x : Except ε α} {f : α → Except ε β} {b : Bool} (h : ∀ a, (f a).isOk = b) :
    (x >>= f).isOk = (x.isOk && b) := by
  cases x with
  | error e => rfl
  | ok a => exact h a

theorem isOk_map {ε α β : Type} {x : Except ε α} (f : α → β) : (x >>= fun a => pure (f a)).isOk = x.isOk := by
  rw [isOk_bind (b := true) fun _ => rfl, Bool.and_true]

variable (pool visible)

theorem isOk_text (i : UInt16) : (pool.text i).isOk = pool.accepts (.text, i) := by
  unfold Pool.text Pool.accepts
  cases pool.entry? i with
  | none => rfl
  | some e => cases e <;> rfl

theorem isOk_integer (i : UInt16) : (pool.integer i).isOk = pool.accepts (.integer, i) := by
  unfold Pool.integer Pool.accepts
  cases pool.entry? i with
  | none => rfl
  | some e => cases e <;> rfl

/-- Which of the three tags asks for a number makes no difference to what comes out. -/
theorem number_toOption (i : UInt16) (tag : UInt8) :
    (pool.constant i >>= numberValue tag).toOption = (pool.entry? i).bind PoolEntry.number? := by
  unfold Pool.constant Pool.entry?
  cases pool.slots[i.toNat]? with
  | none => rfl
  | some held =>
    cases held with
    | none => rfl
    | some e =>
      cases e with
      | str j =>
        cases h : pool.text j <;> simp only [h] <;> rfl
      | _ => rfl

theorem isOk_number (i : UInt16) (tag : UInt8) {w : Wanted} (hw : w.isNumber) :
    (pool.constant i >>= numberValue tag).isOk = pool.accepts (w, i) := by
  have hsome : (pool.constant i >>= numberValue tag).isOk = ((pool.entry? i).bind PoolEntry.number?).isSome := by
    rw [← number_toOption pool i tag]
    cases pool.constant i >>= numberValue tag <;> rfl
  rw [hsome, Pool.accepts]
  cases pool.entry? i with
  | none => rfl
  | some e => cases w <;> cases e <;> first | rfl | cases hw

theorem isOk_meaning_constant (t : Tag) (i : UInt16) : (t.meaning pool i).isOk = pool.accepts (t.wanted, i) := by
  cases t with
  | byte | char | short | boolean | int => exact (isOk_map _).trans (isOk_integer pool i)
  | str | classLiteral => exact (isOk_map _).trans (isOk_text pool i)
  | long | float | double => exact isOk_number pool i _ rfl

mutual

theorem isOk_meaning : ∀ raw : RawValue, (raw.meaning pool visible).isOk = raw.uses.all pool.accepts
  | .constant t i => by
    rw [RawValue.meaning, isOk_meaning_constant, RawValue.uses, List.all_cons, List.all_nil, Bool.and_true]
  | .enumConstant i j => by
    rw [RawValue.meaning, isOk_bind fun _ => isOk_map _, isOk_text, isOk_text]
    simp [RawValue.uses]
  | .nested i ps => by
    rw [RawValue.meaning, isOk_bind fun _ => isOk_map _, isOk_text, isOk_pairsMeaning ps, RawValue.uses, List.all_cons]
  | .array items => by
    rw [RawValue.meaning, isOk_map, isOk_itemsMeaning items, RawValue.uses]

theorem isOk_itemsMeaning : ∀ xs : List RawValue, (itemsMeaning pool visible xs).isOk = (itemUses xs).all pool.accepts
  | [] => rfl
  | x :: xs => by
    rw [itemsMeaning, isOk_bind fun _ => isOk_map _, isOk_meaning x, isOk_itemsMeaning xs, itemUses, List.all_append]

theorem isOk_pairsMeaning :
    ∀ ps : List (UInt16 × RawValue), (pairsMeaning pool visible ps).isOk = (pairUses ps).all pool.accepts
  | [] => rfl
  | (i, x) :: ps => by
    rw [pairsMeaning, isOk_bind fun _ => isOk_bind fun _ => isOk_map _, isOk_text, isOk_meaning x,
      isOk_pairsMeaning ps, pairUses, List.all_cons, List.all_append]

end

/-! ## Of which kind the values are -/

theorem bind_eq_ok {ε α β : Type} {x : Except ε α} {f : α → Except ε β} {b : β} (h : x >>= f = .ok b) :
    ∃ a, x = .ok a ∧ f a = .ok b := by
  cases x with
  | error e => cases h
  | ok a => exact ⟨a, rfl, h⟩

def numberTags : List Char := ['J', 'F', 'D']

/-- The tag that stands there and the tag of the kind that came out of it. -/
def Interchanged (asked got : Char) : Prop := got = asked ∨ asked ∈ numberTags ∧ got ∈ numberTags

variable {pool visible}

theorem tag_number {e : PoolEntry} {v : Value} (h : e.number? = some v) : v.tag ∈ numberTags := by
  cases e <;> cases h <;> simp [Value.tag, numberTags]

theorem tag_number_of_is {e : PoolEntry} {t : Tag} {v : Value} (h : e.number? = some v) (hkind : e.is t.wanted) :
    t.letter = v.tag := by
  cases e with
  | long _ | float _ | double _ =>
    cases h
    cases t <;> first | rfl | cases hkind
  | _ => cases h

/-- A number is of the kind of its constant, whichever number's tag asked for it. -/
theorem exists_number {i : UInt16} {asked : UInt8} {v : Value} (h : (pool.constant i >>= numberValue asked) = .ok v) :
    ∃ e, pool.entry? i = some e ∧ e.number? = some v := by
  have hfound : (pool.entry? i).bind PoolEntry.number? = some v := by
    rw [← number_toOption pool i asked, h]
    rfl
  exact Option.bind_eq_some_iff.mp hfound

theorem tag_meaning {t : Tag} {i : UInt16} {v : Value} (h : t.meaning pool i = .ok v) :
    Interchanged t.letter v.tag := by
  cases t with
  | byte | char | short | boolean | int | str | classLiteral =>
    obtain ⟨a, -, hpure⟩ := bind_eq_ok h
    cases hpure
    exact .inl rfl
  | long | float | double =>
    obtain ⟨e, -, hnumber⟩ := exists_number h
    exact .inr ⟨by decide, tag_number hnumber⟩

theorem tag_meaning_of_has {t : Tag} {i : UInt16} {v : Value} (hhas : pool.has (t.wanted, i))
    (h : t.meaning pool i = .ok v) :
    t.letter = v.tag := by
  cases t with
  | byte | char | short | boolean | int | str | classLiteral =>
    obtain ⟨a, -, hpure⟩ := bind_eq_ok h
    cases hpure
    rfl
  | long | float | double =>
    obtain ⟨e, he, hnumber⟩ := exists_number h
    rw [Pool.has, he] at hhas
    exact tag_number_of_is hnumber hhas

/-- Of a constant that `P` holds of, a tag makes a value that it goes with. -/
def Follows (pool : Pool) (goes : Char → Char → Prop) (P : Wanted × UInt16 → Prop) : Prop :=
  ∀ (t : Tag) (i : UInt16) (v : Value), P (t.wanted, i) → t.meaning pool i = .ok v → goes t.letter v.tag

variable {goes : Char → Char → Prop} {P : Wanted × UInt16 → Prop}

mutual

/-- What holds of a tag and of the constant behind it holds all over the tree. -/
theorem agrees_meaning (hgoes : Follows pool goes P) : ∀ (raw : RawValue) {v : Value}, (∀ u ∈ raw.uses, P u) →
    raw.meaning pool visible = .ok v → raw.Agrees goes v
  | .constant t i, v, hP, h => .constant (hgoes t i v (hP _ (List.mem_singleton.mpr rfl)) h)
  | .enumConstant i j, v, _, h => by
    obtain ⟨typeName, -, h⟩ := bind_eq_ok h
    obtain ⟨constant, -, hpure⟩ := bind_eq_ok h
    cases hpure
    exact .enumConstant
  | .nested i ps, v, hP, h => by
    obtain ⟨descriptor, -, h⟩ := bind_eq_ok h
    obtain ⟨pairs, hpairs, hpure⟩ := bind_eq_ok h
    cases hpure
    exact .nested (agrees_pairs hgoes ps (List.forall_mem_cons.mp hP).2 hpairs)
  | .array items, v, hP, h => by
    obtain ⟨vs, hitems, hpure⟩ := bind_eq_ok h
    cases hpure
    exact .array (agrees_items hgoes items hP hitems)

theorem agrees_items (hgoes : Follows pool goes P) :
    ∀ (xs : List RawValue) {vs : List Value}, (∀ u ∈ itemUses xs, P u) →
    itemsMeaning pool visible xs = .ok vs → List.Forall₂ (RawValue.Agrees goes) xs vs
  | [], vs, _, h => by
    cases h
    exact .nil
  | x :: xs, vs, hP, h => by
    obtain ⟨v, hv, h⟩ := bind_eq_ok h
    obtain ⟨vs', hvs, hpure⟩ := bind_eq_ok h
    cases hpure
    obtain ⟨hfirst, hrest⟩ := List.forall_mem_append.mp hP
    exact .cons (agrees_meaning hgoes x hfirst hv) (agrees_items hgoes xs hrest hvs)

theorem agrees_pairs (hgoes : Follows pool goes P) :
    ∀ (ps : List (UInt16 × RawValue)) {vs : List (String × Value)},
    (∀ u ∈ pairUses ps, P u) → pairsMeaning pool visible ps = .ok vs →
    List.Forall₂ (fun p q => RawValue.Agrees goes p.2 q.2) ps vs
  | [], vs, _, h => by
    cases h
    exact .nil
  | (i, x) :: ps, vs, hP, h => by
    obtain ⟨name, -, h⟩ := bind_eq_ok h
    obtain ⟨v, hv, h⟩ := bind_eq_ok h
    obtain ⟨vs', hvs, hpure⟩ := bind_eq_ok h
    cases hpure
    obtain ⟨hfirst, hrest⟩ := List.forall_mem_append.mp (List.forall_mem_cons.mp hP).2
    exact .cons (agrees_meaning hgoes x hfirst hv) (agrees_pairs hgoes ps hrest hvs)

end

theorem follows_interchanged : Follows pool Interchanged fun _ => True := fun _ _ _ _ h => tag_meaning h

theorem follows_eq : Follows pool (fun asked got => asked = got) fun u => pool.has u :=
  fun _ _ _ hhas h => tag_meaning_of_has hhas h

variable (pool visible)

/-- Whatever is read as a value is a tree, and the tree tells all that can be told of it without the
    pool's contents: it is read as a whole or is an error, an error just if a constant that it names is
    not accepted, and what is read of it has place by place the kinds of its tags, but that one number may
    come out for another where the constant is that other. -/
theorem readValue_tagged (depth : Nat) :
    Spelled (readValue pool visible depth) (Shallow.bytes depth) ∧
      ∀ (raw : Shallow depth) (rest : Bytes),
        match readValue pool visible depth (raw.1.bytes ++ rest) with
        | .ok (v, rest') =>
          rest' = rest ∧ (∀ u ∈ raw.1.uses, pool.accepts u) ∧ raw.1.Agrees Interchanged v ∧
            ((∀ u ∈ raw.1.uses, pool.has u) → raw.1.Agrees (fun asked got => asked = got) v)
        | .error _ => ∃ u ∈ raw.1.uses, ¬pool.accepts u := by
  refine ⟨spelled_value depth, fun raw rest => ?_⟩
  have hok := isOk_meaning pool visible raw.1
  rw [gives_value pool visible raw.2 rest]
  cases hmeaning : raw.1.meaning pool visible with
  | ok v =>
    rw [hmeaning] at hok
    refine ⟨rfl, List.all_eq_true.mp hok.symm, ?_, ?_⟩
    · exact agrees_meaning follows_interchanged raw.1 (fun _ _ => trivial) hmeaning
    · exact fun hhas => agrees_meaning follows_eq raw.1 hhas hmeaning
  | error e =>
    rw [hmeaning] at hok
    exact List.all_eq_false.mp hok.symm

/-- One constant, the float 1.5. -/
def floatPool : Pool := Pool.ofEntries [.float 0x3FC00000]

/-- Behind the tag of a long the number of a float, and neither a long nor an error comes of it. -/
theorem long_tag_gives_float :
    readValue floatPool true 1 (RawValue.constant .long 1).bytes = .ok (.float 0x3FC00000, []) ∧
      floatPool.has (.long, 1) = false ∧ (Value.float 0x3FC00000).tag ≠ Tag.long.letter :=
  ⟨rfl, rfl, by decide⟩

end ClassFile

end ClassAtlas
