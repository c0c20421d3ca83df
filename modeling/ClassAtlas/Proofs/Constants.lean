import ClassAtlas.ClassFile.Write
import ClassAtlas.Proofs.Reading
import ClassAtlas.Proofs.Utf8

/-
  ClassAtlas.Proofs.Constants — the pool that was written is the pool that is read.

  Each constant is read back from its own bytes, so the whole pool is, as its count says
  how many numbers are taken. A constant stands under the number that was next when it was
  added, and no constant that is added later moves it: a number once given out is good for
  every pool that the pool at hand grows into.
-/

namespace ClassAtlas.ClassFile

open Decode

/-- A text whose bytes can be counted in two. -/
def fitsText (s : String) : Bool := (Text.Utf8.encode s.toList).length < 2 ^ 16

/-- A constant that its bytes tell all of. -/
def PoolEntry.fits : PoolEntry → Bool
  | .utf8 s => fitsText s
  | .other => false
  | _ => true

/-! ## One constant -/

theorem reads_ofTag {tag : UInt8} {bs : Bytes} {e : PoolEntry} (h : Reads (PoolEntry.ofTag tag) bs e) :
    Reads PoolEntry.read (tag :: bs) e := (reads_u1 tag).bind h

theorem reads_entry (e : PoolEntry) (h : e.fits) : Reads PoolEntry.read e.bytes e := by
  cases e with
  | utf8 s =>
    have hlength : (Text.Utf8.encode s.toList).length < 2 ^ 16 := of_decide_eq_true h
    have htext := (reads_take (Text.Utf8.encode s.toList)).map fun bs => PoolEntry.utf8 (Text.Utf8.decodeString bs)
    rw [Text.Utf8.decodeString_encode] at htext
    have hcounted := reads_count (f := fun n => take n >>= fun bs => pure (PoolEntry.utf8 (Text.Utf8.decodeString bs)))
      hlength htext
    exact reads_ofTag hcounted
  | integer v => exact reads_ofTag ((reads_u4 v.toUInt32).map fun w => PoolEntry.integer w.toInt32)
  | float bits => exact reads_ofTag ((reads_u4 bits).map PoolEntry.float)
  | long v => exact reads_ofTag ((reads_u8 v.toUInt64).map fun w => PoolEntry.long w.toInt64)
  | double bits => exact reads_ofTag ((reads_u8 bits).map PoolEntry.double)
  | classRef i => exact reads_ofTag ((reads_u2 i).map PoolEntry.classRef)
  | str i => exact reads_ofTag ((reads_u2 i).map PoolEntry.str)
  | other => cases h

/-! ## Numbers -/

theorem PoolEntry.slots_pos (e : PoolEntry) : 0 < e.slots := by
  unfold PoolEntry.slots
  split <;> decide

theorem foldl_slots (es : List PoolEntry) (n : Nat) :
    (es.map PoolEntry.slots).foldl (· + ·) n = n + (es.map PoolEntry.slots).sum := by
  induction es generalizing n with
  | nil => rfl
  | cons e es ih => rw [List.map_cons, List.foldl_cons, ih, List.sum_cons, Nat.add_assoc]

theorem nextNumber_eq (es : List PoolEntry) : nextNumber es = 1 + (es.map PoolEntry.slots).sum := foldl_slots es 1

theorem nextNumber_append (es fs : List PoolEntry) :
    nextNumber (es ++ fs) = nextNumber es + (fs.map PoolEntry.slots).sum := by
  rw [nextNumber_eq, nextNumber_eq, List.map_append, List.sum_append, Nat.add_assoc]

/-- The number that is found is the one that was next when the constant was added. -/
theorem numberOf?_eq_some {e : PoolEntry} {n k : Nat} {es : List PoolEntry} (h : numberOf? e n es = some k) :
    ∃ before after, es = before ++ e :: after ∧ k = n + (before.map PoolEntry.slots).sum := by
  induction es generalizing n with
  | nil => cases h
  | cons f fs ih =>
    unfold numberOf? at h
    split at h
    · next hf =>
      subst hf
      exact ⟨[], fs, rfl, (Option.some.inj h).symm⟩
    · obtain ⟨before, after, hes, hk⟩ := ih h
      refine ⟨f :: before, after, by rw [hes]; rfl, ?_⟩
      rw [hk, List.map_cons, List.sum_cons, Nat.add_assoc]

/-! ## The whole pool -/

theorem reads_slots (es : List PoolEntry) (h : ∀ e ∈ es, e.fits) :
    Reads (PoolEntry.readSlots (es.map PoolEntry.slots).sum) (es.flatMap PoolEntry.bytes) es := by
  induction es with
  | nil => exact Reads.pure []
  | cons e es ih =>
    have hfirst := reads_entry e (h e List.mem_cons_self)
    have hrest := ih fun f hf => h f (List.mem_cons_of_mem e hf)
    rw [List.map_cons, List.sum_cons, List.flatMap_cons]
    cases hwide : e.isWide with
    | true =>
      have hslots : e.slots = 2 := by rw [PoolEntry.slots, hwide]; rfl
      rw [hslots, Nat.add_comm]
      refine hfirst.bind ?_
      rw [hwide]
      exact hrest.map _
    | false =>
      have hslots : e.slots = 1 := by rw [PoolEntry.slots, hwide]; rfl
      rw [hslots, Nat.add_comm]
      cases es with
      | nil =>
        rw [List.flatMap_nil, List.append_nil]
        exact hfirst.map fun e => [e]
      | cons f fs =>
        have hpos := f.slots_pos
        obtain ⟨n, hn⟩ : ∃ n, ((f :: fs).map PoolEntry.slots).sum = n + 1 :=
          Nat.exists_eq_succ_of_ne_zero (by rw [List.map_cons, List.sum_cons]; omega)
        rw [hn] at hrest ⊢
        refine hfirst.bind ?_
        rw [hwide]
        exact hrest.map _

theorem reads_pool (es : List PoolEntry) (hfits : ∀ e ∈ es, e.fits) (hcount : nextNumber es < 2 ^ 16) :
    Reads Pool.read (wordBytes (nextNumber es) ++ es.flatMap PoolEntry.bytes) (Pool.ofEntries es) := by
  have hslots : (es.map PoolEntry.slots).sum = nextNumber es - 1 := by rw [nextNumber_eq, Nat.add_sub_cancel_left]
  have hentries := (reads_slots es hfits).map Pool.ofEntries
  rw [hslots] at hentries
  exact reads_count (f := fun n => PoolEntry.readSlots (n - 1) >>= fun es => pure (Pool.ofEntries es)) hcount hentries

/-! ## What stands under a number -/

/-- A constant under its first number, and nothing under its second. -/
def PoolEntry.cells (e : PoolEntry) : List (Option PoolEntry) := if e.isWide then [some e, none] else [some e]

theorem PoolEntry.length_cells (e : PoolEntry) : e.cells.length = e.slots := by
  unfold cells slots
  split <;> rfl

theorem length_cells (es : List PoolEntry) : (es.flatMap PoolEntry.cells).length = (es.map PoolEntry.slots).sum := by
  simp only [List.length_flatMap, PoolEntry.length_cells]

theorem PoolEntry.cells_iff (e : PoolEntry) (k : Nat) (o : Option PoolEntry) :
    e.cells[k]? = some o ↔ k = 0 ∧ o = some e ∨ e.isWide ∧ k = 1 ∧ o = none := by
  unfold cells
  cases e.isWide with
  | false => rcases k with _ | k <;> simp [eq_comm (a := o)]
  | true => rcases k with _ | _ | k <;> simp [eq_comm (a := o)]

/-- Each number is taken by one of the constants, and none is taken by two. -/
theorem cell_iff (es : List PoolEntry) (n : Nat) (o : Option PoolEntry) :
    (es.flatMap PoolEntry.cells)[n]? = some o ↔
      ∃ j e k, es[j]? = some e ∧ n = ((es.take j).map PoolEntry.slots).sum + k ∧ e.cells[k]? = some o := by
  induction es generalizing n with
  | nil => simp
  | cons e es ih =>
    have hlength := e.length_cells
    rw [List.flatMap_cons]
    by_cases hfirst : n < e.slots
    · rw [List.getElem?_append_left (by omega)]
      constructor
      · intro hcell
        exact ⟨0, e, n, rfl, by simp, hcell⟩
      · rintro ⟨_ | j, f, k, hf, rfl, hcell⟩
        · simp only [List.getElem?_cons_zero, Option.some.injEq] at hf
          subst hf
          simpa using hcell
        · rw [List.take_succ_cons, List.map_cons, List.sum_cons] at hfirst
          omega
    · obtain ⟨m, rfl⟩ := Nat.exists_eq_add_of_le (Nat.le_of_not_lt hfirst)
      have hbehind : e.slots + m - e.cells.length = m := by omega
      rw [List.getElem?_append_right (by omega), hbehind, ih m]
      constructor
      · rintro ⟨j, f, k, hf, rfl, hcell⟩
        refine ⟨j + 1, f, k, hf, ?_, hcell⟩
        rw [List.take_succ_cons, List.map_cons, List.sum_cons, Nat.add_assoc]
      · rintro ⟨_ | j, f, k, hf, hn, hcell⟩
        · -- the first constant has no cell there
          simp only [List.getElem?_cons_zero, Option.some.injEq] at hf
          subst hf
          rw [List.take_zero, List.map_nil, List.sum_nil] at hn
          obtain ⟨hk, -⟩ := List.getElem?_eq_some_iff.mp hcell
          omega
        · rw [List.take_succ_cons, List.map_cons, List.sum_cons] at hn
          exact ⟨j, f, k, hf, by omega, hcell⟩

theorem slots_ofEntries (es : List PoolEntry) :
    (Pool.ofEntries es).slots.toList = none :: es.flatMap PoolEntry.cells := rfl

/-- The first number of a constant holds it. Its second number, if it has one, and 0 hold nothing. -/
theorem slot_iff (es : List PoolEntry) (n : Nat) (o : Option PoolEntry) :
    (Pool.ofEntries es).slots[n]? = some o ↔
      n = 0 ∧ o = none ∨ ∃ j e, es[j]? = some e ∧
        (n = nextNumber (es.take j) ∧ o = some e ∨ e.isWide ∧ n = nextNumber (es.take j) + 1 ∧ o = none) := by
  rw [← Array.getElem?_toList, slots_ofEntries]
  simp only [nextNumber_eq]
  rcases n with _ | n
  · simp [eq_comm (a := o)]
    omega
  · rw [List.getElem?_cons_succ, cell_iff]
    constructor
    · rintro ⟨j, e, k, he, rfl, hcell⟩
      refine .inr ⟨j, e, he, ?_⟩
      rcases (e.cells_iff k o).mp hcell with ⟨rfl, ho⟩ | ⟨hwide, rfl, ho⟩
      · exact .inl ⟨by omega, ho⟩
      · exact .inr ⟨hwide, by omega, ho⟩
    · rintro (⟨hzero, -⟩ | ⟨j, e, he, ⟨hn, ho⟩ | ⟨hwide, hn, ho⟩⟩)
      · exact absurd hzero (Nat.succ_ne_zero n)
      · exact ⟨j, e, 0, he, by omega, (e.cells_iff 0 o).mpr (.inl ⟨rfl, ho⟩)⟩
      · exact ⟨j, e, 1, he, by omega, (e.cells_iff 1 o).mpr (.inr ⟨hwide, rfl, ho⟩)⟩

theorem size_ofEntries (es : List PoolEntry) : (Pool.ofEntries es).slots.size = nextNumber es := by
  rw [← Array.length_toList, slots_ofEntries, List.length_cons, length_cells, nextNumber_eq, Nat.add_comm]

/-- Under `i`, which is not 0, stands `e`. -/
structure Pool.Holds (pool : Pool) (i : UInt16) (e : PoolEntry) : Prop where
  ne_zero : i ≠ 0
  slot : pool.slots[i.toNat]? = some (some e)

/-- A constant is held under the number that was next when it was added. -/
theorem holds_of_fits (before after : List PoolEntry) (e : PoolEntry) (h : nextNumber (before ++ e :: after) < 2 ^ 16) :
    (Pool.ofEntries (before ++ e :: after)).Holds (UInt16.ofNat (nextNumber before)) e := by
  have hbound : nextNumber before < 2 ^ 16 := by
    rw [nextNumber_append] at h
    exact Nat.lt_of_le_of_lt (Nat.le_add_right ..) h
  have htoNat : (UInt16.ofNat (nextNumber before)).toNat = nextNumber before := UInt16.toNat_ofNat_of_lt' hbound
  constructor
  · intro hzero
    rw [hzero, nextNumber_eq, UInt16.toNat_zero] at htoNat
    omega
  · rw [htoNat]
    exact (slot_iff _ _ _).mpr (.inr ⟨before.length, e, by simp, .inl ⟨by simp, rfl⟩⟩)

namespace Pool.Holds

variable {pool : Pool} {i j : UInt16} {e : PoolEntry} {s : String}

theorem entry (h : pool.Holds i e) : pool.entry? i = some e := by
  rw [Pool.entry?, h.slot]
  rfl

theorem text (h : pool.Holds i (.utf8 s)) : pool.text i = .ok s := by
  rw [Pool.text, h.entry]

theorem className (h : pool.Holds i (.classRef j)) (hname : pool.Holds j (.utf8 s)) : pool.className i = .ok s := by
  rw [Pool.className, h.entry]
  exact hname.text

theorem integer {v : Int32} (h : pool.Holds i (.integer v)) : pool.integer i = .ok v := by
  rw [Pool.integer, h.entry]

theorem constant_int {v : Int32} (h : pool.Holds i (.integer v)) : pool.constant i = .ok (some (.int v)) := by
  rw [Pool.constant, h.slot]

theorem constant_long {v : Int64} (h : pool.Holds i (.long v)) : pool.constant i = .ok (some (.long v)) := by
  rw [Pool.constant, h.slot]

theorem constant_float {bits : UInt32} (h : pool.Holds i (.float bits)) :
    pool.constant i = .ok (some (.float bits)) := by
  rw [Pool.constant, h.slot]

theorem constant_double {bits : UInt64} (h : pool.Holds i (.double bits)) :
    pool.constant i = .ok (some (.double bits)) := by
  rw [Pool.constant, h.slot]

theorem constant_str (h : pool.Holds i (.str j)) (htext : pool.Holds j (.utf8 s)) :
    pool.constant i = .ok (some (.str s)) := by
  rw [Pool.constant, h.slot]
  simp only [htext.text]
  rfl

end Pool.Holds

end ClassAtlas.ClassFile
