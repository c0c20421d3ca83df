import ClassAtlas.ClassFile.Read
import ClassAtlas.Proofs.Constants

/-
  ClassAtlas.Proofs.Writing — what a writer leaves behind is good for all that comes later.

  A writer adds constants to the pool and makes bytes that name them by number. When it is
  done the pool is not: other writers come after it, and a reader sees the pool of the last.
  So `Writes w good` promises `good` of every pool that grows out of the one that `w` left,
  as long as all its numbers can be written. One after another, each writer only has to say
  what its own bytes are; that the pool grows in between is told here, once.
-/

namespace ClassAtlas.ClassFile

open Decode

variable {α β γ : Type}

/-- `w` only adds constants, and those can be written; its result is good for the pool at hand and for all
    it grows into. -/
structure Writes (w : Write β) (good : Pool → β → Prop) : Prop where
  grows : ∀ es, ∃ added, (w es).2 = es ++ added ∧ ∀ e ∈ added, e.fits
  good : ∀ es final, (w es).2 <+: final → nextNumber final < 2 ^ 16 → good (Pool.ofEntries final) (w es).1

/-- `bs` are `size` bytes, and `p` reads `a` from them. -/
def Spells (p : Pool → Decode α) (a : α) (size : Nat) (pool : Pool) (bs : Bytes) : Prop :=
  bs.length = size ∧ Reads (p pool) bs a

/-- Under `i`, which is not 0, `q` finds `a`. -/
def Finds (q : Pool → UInt16 → Except DecodeError α) (a : α) (pool : Pool) (i : UInt16) : Prop :=
  i ≠ 0 ∧ q pool i = .ok a

/-- `bs` are the bytes of such a number. -/
def Numbers (q : Pool → UInt16 → Except DecodeError α) (a : α) (pool : Pool) (bs : Bytes) : Prop :=
  ∃ i, Finds q a pool i ∧ bs = wordBytes i.toNat

theorem Numbers.spells {q : Pool → UInt16 → Except DecodeError α} {a : α} {pool : Pool} {bs : Bytes}
    (h : Numbers q a pool bs) : Spells (fun pool => u2 >>= fun i => check (q pool i)) a 2 pool bs := by
  obtain ⟨i, hfound, rfl⟩ := h
  exact ⟨length_bigEndian _ 2, (reads_u2 i).check hfound.2⟩

namespace Writes

variable {w : Write β} {good good' : Pool → β → Prop}

theorem mono (hw : Writes w good) (h : ∀ pool b, good pool b → good' pool b) : Writes w good' where
  grows := hw.grows
  good es final hgrown hcount := h _ _ (hw.good es final hgrown hcount)

theorem pure {b : β} (h : ∀ pool, good pool b) : Writes (pure b) good where
  grows es := ⟨[], (List.append_nil es).symm, by simp⟩
  good _ _ _ _ := h _

/-- What the first left is a front of what the second leaves, and so of every pool after that. -/
theorem bind {k : β → Write γ} {goal : Pool → γ → Prop} (hw : Writes w good)
    (hk : ∀ b, Writes (k b) fun pool c => good pool b → goal pool c) : Writes (w >>= k) goal where
  grows es := by
    obtain ⟨first, hfirst, hfits⟩ := hw.grows es
    obtain ⟨second, hsecond, hfits'⟩ := (hk (w es).1).grows (w es).2
    refine ⟨first ++ second, ?_, ?_⟩
    · change (k (w es).1 (w es).2).2 = _
      rw [hsecond, hfirst, List.append_assoc]
    · intro e he
      rcases List.mem_append.mp he with h | h
      · exact hfits e h
      · exact hfits' e h
  good es final hgrown hcount := by
    change (k (w es).1 (w es).2).2 <+: final at hgrown
    obtain ⟨second, hsecond, -⟩ := (hk (w es).1).grows (w es).2
    have hfront : (w es).2 <+: final := by
      rw [hsecond] at hgrown
      exact (List.prefix_append _ _).trans hgrown
    exact (hk (w es).1).good (w es).2 final hgrown hcount (hw.good es final hfront hcount)

theorem map {f : β → γ} {goal : Pool → γ → Prop} (hw : Writes w good)
    (h : ∀ pool b, good pool b → goal pool (f b)) :
    Writes (w >>= fun b => Pure.pure (f b)) goal :=
  hw.bind fun b => .pure fun pool => h pool b

end Writes

/-! ## Constants -/

/-- A constant stands where it was added in every pool that begins with what is there. -/
theorem holds_of_prefix {before after final : List PoolEntry} {e : PoolEntry} (hgrown : before ++ e :: after <+: final)
    (hcount : nextNumber final < 2 ^ 16) : (Pool.ofEntries final).Holds (UInt16.ofNat (nextNumber before)) e := by
  obtain ⟨rest, rfl⟩ := hgrown
  rw [List.append_assoc, List.cons_append] at hcount ⊢
  exact holds_of_fits before (after ++ rest) e hcount

theorem writes_fresh {e : PoolEntry} (he : e.fits) : Writes (Write.fresh e) fun pool i => pool.Holds i e where
  grows es := ⟨[e], rfl, by simpa using he⟩
  good _ _ hgrown hcount := holds_of_prefix hgrown hcount

theorem writes_shared {e : PoolEntry} (he : e.fits) : Writes (Write.shared e) fun pool i => pool.Holds i e where
  grows es := by
    unfold Write.shared
    split
    · exact ⟨[], (List.append_nil es).symm, by simp⟩
    · exact (writes_fresh he).grows es
  good es final := by
    unfold Write.shared
    split
    · next k hk =>
      intro hgrown hcount
      obtain ⟨before, after, rfl, rfl⟩ := numberOf?_eq_some hk
      have hholds := holds_of_prefix hgrown hcount
      rwa [nextNumber_eq] at hholds
    · exact (writes_fresh he).good es final

theorem writes_index {w : Write UInt16} {q : Pool → UInt16 → Except DecodeError α} {a : α} (hw : Writes w (Finds q a)) :
    Writes (Write.index w) (Numbers q a) :=
  hw.map fun _ i h => ⟨i, h, rfl⟩

theorem writes_string {s : String} (hs : fitsText s) : Writes (Write.shared (.utf8 s)) (Finds Pool.text s) :=
  (writes_shared (e := .utf8 s) hs).mono fun _ _ h => ⟨h.ne_zero, h.text⟩

theorem writes_integer (v : Int32) : Writes (Write.fresh (.integer v)) (Finds Pool.integer v) :=
  (writes_fresh (e := .integer v) rfl).mono fun _ _ h => ⟨h.ne_zero, h.integer⟩

theorem writes_className {s : String} (hs : fitsText s) : Writes (Write.className s) (Finds Pool.className s) := by
  refine (writes_shared (e := .utf8 s) hs).bind fun i => ?_
  exact (writes_shared (e := .classRef i) rfl).mono fun _ _ h hname => ⟨h.ne_zero, h.className hname⟩

/-- A constant whose text, if it has one, can be counted. -/
def Constant.fits : Constant → Bool
  | .str s => fitsText s
  | _ => true

theorem writes_constant {c : Constant} (hc : Constant.fits c) :
    Writes (Write.constant c) (Finds Pool.constant (some c)) := by
  cases c with
  | int v => exact (writes_fresh (e := .integer v) rfl).mono fun _ _ h => ⟨h.ne_zero, h.constant_int⟩
  | long v => exact (writes_fresh (e := .long v) rfl).mono fun _ _ h => ⟨h.ne_zero, h.constant_long⟩
  | float bits => exact (writes_fresh (e := .float bits) rfl).mono fun _ _ h => ⟨h.ne_zero, h.constant_float⟩
  | double bits => exact (writes_fresh (e := .double bits) rfl).mono fun _ _ h => ⟨h.ne_zero, h.constant_double⟩
  | str s =>
    refine (writes_shared (e := .utf8 s) hc).bind fun i => ?_
    exact (writes_fresh (e := .str i) rfl).mono fun _ _ h htext => ⟨h.ne_zero, h.constant_str htext⟩

theorem writes_text {s : String} (hs : fitsText s) : Writes (Write.text s) (Spells textAt s 2) :=
  (writes_index (writes_string hs)).mono fun _ _ => Numbers.spells

/-! ## Lists -/

theorem writes_each {p : α → Write Bytes} {good : α → Pool → Bytes → Prop} {xs : List α}
    (h : ∀ x ∈ xs, Writes (p x) (good x)) :
    Writes (Write.each p xs) fun pool parts => List.Forall₂ (fun part x => good x pool part) parts xs := by
  induction xs with
  | nil => exact .pure fun _ => .nil
  | cons x xs ih =>
    refine (h x List.mem_cons_self).bind fun b => ?_
    refine (ih fun y hy => h y (List.mem_cons_of_mem x hy)).bind fun bs => ?_
    exact .pure fun pool hrest hfirst => .cons hfirst hrest

/-! ## Attributes -/

/-- A body is read from its start, and what is left of it is let go. -/
theorem writes_framed {name : String} (hname : fitsText name) (body : Bytes) :
    Writes (Write.framed name body) fun pool bs => body.length < 2 ^ 32 →
      ∀ a, (readBody pool name body).map (·.1) = .ok a → Reads (readAttribute pool) bs a := by
  apply (writes_text hname).map
  intro pool n hn hlength a ha
  have hcount : (UInt32.ofNat body.length).toNat = body.length := UInt32.toNat_ofNat_of_lt' hlength
  have hwithin : Reads (within body (readBody pool name)) [] a := by
    unfold within
    rw [ha]
    exact .pure a
  have hbody : Reads (take (UInt32.ofNat body.length).toNat >>= fun body => within body (readBody pool name))
      (body ++ []) a := by
    rw [hcount]
    exact (reads_take body).bind hwithin
  have hframe : Reads (readAttribute pool) (n ++ (longBytes body.length ++ (body ++ []))) a :=
    hn.2.bind ((reads_number (k := 4) hlength UInt32.ofNat).bind hbody)
  rwa [List.append_nil, ← List.append_assoc] at hframe

/-- An attribute for what may be missing, or none. -/
theorem writes_optional {name : String} (hname : fitsText name) {body : α → Write Bytes} {o : Option α}
    (tells : α → Attribute)
    (h : ∀ x ∈ o, Writes (body x) fun pool bs =>
      bs.length < 2 ^ 32 ∧ (readBody pool name bs).map (·.1) = .ok (tells x)) :
    Writes (Write.optional name body o) fun pool parts =>
      List.Forall₂ (Reads (readAttribute pool)) parts (o.toList.map tells) := by
  cases o with
  | none => exact .pure fun _ => .nil
  | some x =>
    refine (h x rfl).bind fun bs => ?_
    exact (writes_framed hname bs).map fun pool part hpart hbody => .cons (hpart hbody.1 _ hbody.2) .nil

end ClassAtlas.ClassFile
