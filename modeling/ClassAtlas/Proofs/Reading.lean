import ClassAtlas.ClassFile.Decode
import Mathlib.Data.List.Forall2
import Mathlib.Tactic.Ring

/-
  ClassAtlas.Proofs.Reading — what it takes to read a piece of a file.

  `Reads p bs a` says of a decoder that it takes just `bs` off the front, whatever comes
  behind, and makes `a` of it. Pieces behind one another are read one after another, so a
  format is read back piece by piece; where bytes are cut out to be read apart, the piece
  is the frame and nothing may be left of its inside.
-/

namespace ClassAtlas.Decode

/-- `p` takes exactly `bs` off the front and makes `a` of it. -/
def Reads {α : Type} (p : Decode α) (bs : Bytes) (a : α) : Prop := ∀ rest, p (bs ++ rest) = .ok (a, rest)

variable {α β : Type} {p : Decode α} {bs cs : Bytes} {a : α} {b : β}

/-! ## One after another -/

theorem Reads.pure (a : α) : Reads (pure a) [] a := fun _ => rfl

theorem Reads.bind {f : α → Decode β} (hp : Reads p bs a) (hf : Reads (f a) cs b) : Reads (p >>= f) (bs ++ cs) b := by
  intro rest
  have hfirst : (p >>= f) (bs ++ cs ++ rest) = f a (cs ++ rest) := by
    change (p (bs ++ cs ++ rest) >>= fun r => f r.1 r.2) = _
    rw [List.append_assoc, hp]
    rfl
  rw [hfirst, hf]

theorem Reads.map (hp : Reads p bs a) (f : α → β) : Reads (p >>= fun a => Pure.pure (f a)) bs (f a) := by
  have h := hp.bind (f := fun a => Pure.pure (f a)) (Reads.pure (f a))
  rwa [List.append_nil] at h

/-- An index is read, and what stands under it was there. -/
theorem Reads.check {q : α → Except DecodeError β} (hp : Reads p bs a) (hq : q a = .ok b) :
    Reads (p >>= fun a => Decode.check (q a)) bs b := by
  have h : Reads (Decode.check (q a)) [] b := by
    rw [hq]
    exact Reads.pure b
  have hboth := hp.bind (f := fun a => Decode.check (q a)) h
  rwa [List.append_nil] at hboth

/-- What is looked up on the way takes no bytes. -/
theorem Reads.found {e : Except DecodeError α} {f : α → Decode β} (he : e = .ok a) (hf : Reads (f a) bs b) :
    Reads (Decode.check e >>= f) bs b := by
  subst he
  exact (Reads.pure a).bind hf

theorem Reads.run (hp : Reads p bs a) : p bs = .ok (a, []) := by
  have h := hp []
  rwa [List.append_nil] at h

/-! ## Bytes and numbers -/

theorem reads_u1 (b : UInt8) : Reads u1 [b] b := fun _ => rfl

theorem reads_take (bs : Bytes) : Reads (take bs.length) bs bs := by
  intro rest
  simp [take]

theorem length_bigEndian (n k : Nat) : (Digest.bigEndian n k).length = k := by
  induction k with
  | zero => rfl
  | succ k ih => simp [Digest.bigEndian, ih]

/-- The last `k` bytes of a number count for what they hold of it, behind what was read before them. -/
theorem foldl_bigEndian (n k m : Nat) :
    (Digest.bigEndian n k).foldl (fun n b => n * 256 + b.toNat) m = m * 256 ^ k + n % 256 ^ k := by
  induction k generalizing m with
  | zero => simp [Digest.bigEndian, Nat.mod_one]
  | succ k ih =>
    have hshift : n >>> (8 * k) = n / 256 ^ k := by rw [Nat.shiftRight_eq_div_pow, Nat.pow_mul]
    have hbyte : (UInt8.ofNat (n >>> (8 * k))).toNat = n / 256 ^ k % 256 := by rw [hshift, UInt8.toNat_ofNat']
    rw [Digest.bigEndian, List.foldl_cons, ih, hbyte, Nat.mod_pow_succ, Nat.pow_succ]
    ring

theorem bigEndian_bigEndian {n k : Nat} (h : n < 256 ^ k) : bigEndian (Digest.bigEndian n k) = n := by
  rw [bigEndian, foldl_bigEndian, Nat.zero_mul, Nat.zero_add, Nat.mod_eq_of_lt h]

theorem reads_number {n k : Nat} (h : n < 256 ^ k) (f : Nat → α) :
    Reads (take k >>= fun bs => Pure.pure (f (bigEndian bs))) (Digest.bigEndian n k) (f n) := by
  have hbytes := reads_take (Digest.bigEndian n k)
  rw [length_bigEndian] at hbytes
  have hread := hbytes.map fun bs => f (bigEndian bs)
  rwa [bigEndian_bigEndian h] at hread

theorem reads_u2 (v : UInt16) : Reads u2 (Digest.bigEndian v.toNat 2) v := by
  have h := reads_number (k := 2) v.toNat_lt UInt16.ofNat
  rwa [UInt16.ofNat_toNat] at h

theorem reads_u4 (v : UInt32) : Reads u4 (Digest.bigEndian v.toNat 4) v := by
  have h := reads_number (k := 4) v.toNat_lt UInt32.ofNat
  rwa [UInt32.ofNat_toNat] at h

theorem reads_u8 (v : UInt64) : Reads u8 (Digest.bigEndian v.toNat 8) v := by
  have h := reads_number (k := 8) v.toNat_lt UInt64.ofNat
  rwa [UInt64.ofNat_toNat] at h

/-- A count that two bytes can hold is the one that the reader goes on with. -/
theorem reads_count {n : Nat} {f : Nat → Decode α} (h : n < 2 ^ 16) (hf : Reads (f n) bs a) :
    Reads (u2 >>= fun count => f count.toNat) (Digest.bigEndian n 2 ++ bs) a := by
  have hnumber : Reads u2 (Digest.bigEndian n 2) (UInt16.ofNat n) := reads_number (k := 2) h UInt16.ofNat
  have hcount : (UInt16.ofNat n).toNat = n := UInt16.toNat_ofNat_of_lt' h
  refine hnumber.bind ?_
  rwa [hcount]

/-! ## Lists -/

theorem reads_times {parts : List Bytes} {as : List α} (h : List.Forall₂ (Reads p) parts as) :
    Reads (times p as.length) parts.flatten as := by
  induction h with
  | nil => exact Reads.pure []
  | cons hone _ ih =>
    rw [List.flatten_cons]
    exact hone.bind (ih.map _)

theorem reads_counted {parts : List Bytes} {as : List α} (hlength : parts.length < 2 ^ 16)
    (h : List.Forall₂ (Reads p) parts as) :
    Reads (counted p) (Digest.bigEndian parts.length 2 ++ parts.flatten) as := by
  have hparts := reads_times h
  rw [← h.length_eq] at hparts
  exact reads_count (f := times p) hlength hparts

end ClassAtlas.Decode
