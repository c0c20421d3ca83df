import ClassAtlas.Text.Utf8

/-
  ClassAtlas.Proofs.Utf8 — what was written as UTF-8 is read back as it was.

  A character is one to four bytes: a lead that says how many more are awaited, and six
  bits in each of those. The bounds on the first of them hold because a character is
  written in as few bytes as it takes and is no surrogate.
-/

namespace ClassAtlas.Text.Utf8

theorem toNat_ofNat {n : Nat} (h : n.isValidChar) : (Char.ofNat n).toNat = n := by
  rw [Char.ofNat, dif_pos h]
  rfl

/-! ## The lead -/

theorem start_one {b : UInt8} (h : b.toNat < 0x80) : start b = ([Char.ofNat b.toNat], none) := by
  have h1 : b < 0x80 := UInt8.lt_iff_toNat_lt.mpr h
  simp only [start, h1, if_true]

theorem start_two {b : UInt8} (hlow : 0xC2 ≤ b.toNat) (hhigh : b.toNat < 0xE0) :
    start b = ([], some ⟨1, b.toNat - 0xC0, 0x80, 0xBF⟩) := by
  have h1 : ¬b < 0x80 := UInt8.not_lt.mpr (Nat.le_trans (by decide) hlow)
  have h2 : ¬b < 0xC2 := UInt8.not_lt.mpr hlow
  have h3 : b < 0xE0 := UInt8.lt_iff_toNat_lt.mpr hhigh
  simp only [start, h1, h2, h3, if_true, if_false]

theorem start_three {b : UInt8} (hlow : 0xE0 ≤ b.toNat) (hhigh : b.toNat < 0xF0) :
    start b = ([], some ⟨2, b.toNat - 0xE0,
      if b.toNat = 0xE0 then 0xA0 else 0x80, if b.toNat = 0xED then 0x9F else 0xBF⟩) := by
  have h1 : ¬b < 0x80 := UInt8.not_lt.mpr (Nat.le_trans (by decide) hlow)
  have h2 : ¬b < 0xC2 := UInt8.not_lt.mpr (Nat.le_trans (by decide) hlow)
  have h3 : ¬b < 0xE0 := UInt8.not_lt.mpr hlow
  have h4 : b < 0xF0 := UInt8.lt_iff_toNat_lt.mpr hhigh
  have he0 : b = 0xE0 ↔ b.toNat = 0xE0 := UInt8.toNat_inj.symm
  have hed : b = 0xED ↔ b.toNat = 0xED := UInt8.toNat_inj.symm
  simp only [start, h1, h2, h3, h4, he0, hed, if_true, if_false]

theorem start_four {b : UInt8} (hlow : 0xF0 ≤ b.toNat) (hhigh : b.toNat < 0xF5) :
    start b = ([], some ⟨3, b.toNat - 0xF0,
      if b.toNat = 0xF0 then 0x90 else 0x80, if b.toNat = 0xF4 then 0x8F else 0xBF⟩) := by
  have h1 : ¬b < 0x80 := UInt8.not_lt.mpr (Nat.le_trans (by decide) hlow)
  have h2 : ¬b < 0xC2 := UInt8.not_lt.mpr (Nat.le_trans (by decide) hlow)
  have h3 : ¬b < 0xE0 := UInt8.not_lt.mpr (Nat.le_trans (by decide) hlow)
  have h4 : ¬b < 0xF0 := UInt8.not_lt.mpr hlow
  have h5 : b < 0xF5 := UInt8.lt_iff_toNat_lt.mpr hhigh
  have hf0 : b = 0xF0 ↔ b.toNat = 0xF0 := UInt8.toNat_inj.symm
  have hf4 : b = 0xF4 ↔ b.toNat = 0xF4 := UInt8.toNat_inj.symm
  simp only [start, h1, h2, h3, h4, h5, hf0, hf4, if_true, if_false]

theorem decodeFrom_lead {b : UInt8} {cs : List Char} {w : Option Awaited} (h : start b = (cs, w)) (bs : List UInt8) :
    decodeFrom none (b :: bs) = cs ++ decodeFrom w bs := by
  simp only [decodeFrom, feed, h]

/-! ## The rest of a character -/

/-- A byte that carries six bits more of the character that is awaited. -/
theorem decodeFrom_tail {w : Awaited} {k : Nat} (hk : k < 64) (hlow : w.low.toNat ≤ 0x80 + k)
    (hhigh : 0x80 + k ≤ w.high.toNat) (bs : List UInt8) :
    decodeFrom (some w) (UInt8.ofNat (0x80 + k) :: bs) =
      if w.more ≤ 1 then Char.ofNat (w.code * 64 + k) :: decodeFrom none bs
      else decodeFrom (some ⟨w.more - 1, w.code * 64 + k, 0x80, 0xBF⟩) bs := by
  have hbyte : (UInt8.ofNat (0x80 + k)).toNat = 0x80 + k := UInt8.toNat_ofNat_of_lt' (show 0x80 + k < 256 by omega)
  have hrange : w.low ≤ UInt8.ofNat (0x80 + k) ∧ UInt8.ofNat (0x80 + k) ≤ w.high := by
    rw [UInt8.le_iff_toNat_le, UInt8.le_iff_toNat_le, hbyte]
    exact ⟨hlow, hhigh⟩
  simp only [decodeFrom, feed, hrange, and_self, if_true, hbyte, Nat.add_sub_cancel_left]
  split <;> rfl

/-! ## Whole characters -/

/-- A continuation byte lies in the full range whatever its six bits are. -/
theorem le_high {k : Nat} (hk : k < 64) : 0x80 + k ≤ (0xBF : UInt8).toNat := by
  have hmax : (0xBF : UInt8).toNat = 0x80 + 63 := rfl
  omega

theorem decodeFrom_two {a k : Nat} (hlow : 2 ≤ a) (ha : a < 32) (hk : k < 64) (bs : List UInt8) :
    decodeFrom none (UInt8.ofNat (0xC0 + a) :: UInt8.ofNat (0x80 + k) :: bs) =
      Char.ofNat (a * 64 + k) :: decodeFrom none bs := by
  have hlead : (UInt8.ofNat (0xC0 + a)).toNat = 0xC0 + a := UInt8.toNat_ofNat_of_lt' (show 0xC0 + a < 256 by omega)
  rw [decodeFrom_lead (start_two (by omega) (by omega)), decodeFrom_tail hk (Nat.le_add_right ..) (le_high hk), hlead,
    Nat.add_sub_cancel_left]
  rfl

/-- The first six bits are bounded below where the character could be shorter, and above where it would be
    a surrogate. -/
theorem decodeFrom_three {a k l : Nat} (ha : a < 16) (hk : k < 64) (hl : l < 64) (hshort : a = 0 → 32 ≤ k)
    (hsurrogate : a = 13 → k < 32) (bs : List UInt8) :
    decodeFrom none (UInt8.ofNat (0xE0 + a) :: UInt8.ofNat (0x80 + k) :: UInt8.ofNat (0x80 + l) :: bs) =
      Char.ofNat ((a * 64 + k) * 64 + l) :: decodeFrom none bs := by
  have hlead : (UInt8.ofNat (0xE0 + a)).toNat = 0xE0 + a := UInt8.toNat_ofNat_of_lt' (show 0xE0 + a < 256 by omega)
  have hlow : (if 0xE0 + a = 0xE0 then 0xA0 else 0x80 : UInt8).toNat ≤ 0x80 + k := by
    split
    · exact Nat.add_le_add_left (hshort (by omega)) 0x80
    · exact Nat.le_add_right ..
  have hhigh : 0x80 + k ≤ (if 0xE0 + a = 0xED then 0x9F else 0xBF : UInt8).toNat := by
    split
    · exact Nat.add_le_add_left (Nat.le_of_lt_succ (hsurrogate (by omega))) 0x80
    · exact le_high hk
  rw [decodeFrom_lead (start_three (by omega) (by omega)), hlead, decodeFrom_tail hk hlow hhigh,
    Nat.add_sub_cancel_left]
  exact decodeFrom_tail hl (Nat.le_add_right ..) (le_high hl) bs

theorem decodeFrom_four {a k l m : Nat} (ha : a < 5) (hk : k < 64) (hl : l < 64) (hm : m < 64) (hshort : a = 0 → 16 ≤ k)
    (hlast : a = 4 → k < 16) (bs : List UInt8) :
    decodeFrom none (UInt8.ofNat (0xF0 + a) :: UInt8.ofNat (0x80 + k) :: UInt8.ofNat (0x80 + l) ::
        UInt8.ofNat (0x80 + m) :: bs) =
      Char.ofNat (((a * 64 + k) * 64 + l) * 64 + m) :: decodeFrom none bs := by
  have hlead : (UInt8.ofNat (0xF0 + a)).toNat = 0xF0 + a := UInt8.toNat_ofNat_of_lt' (show 0xF0 + a < 256 by omega)
  have hlow : (if 0xF0 + a = 0xF0 then 0x90 else 0x80 : UInt8).toNat ≤ 0x80 + k := by
    split
    · exact Nat.add_le_add_left (hshort (by omega)) 0x80
    · exact Nat.le_add_right ..
  have hhigh : 0x80 + k ≤ (if 0xF0 + a = 0xF4 then 0x8F else 0xBF : UInt8).toNat := by
    split
    · exact Nat.add_le_add_left (Nat.le_of_lt_succ (hlast (by omega))) 0x80
    · exact le_high hk
  rw [decodeFrom_lead (start_four (by omega) (by omega)), hlead, decodeFrom_tail hk hlow hhigh, Nat.add_sub_cancel_left,
    List.nil_append]
  exact (decodeFrom_tail hl (Nat.le_add_right ..) (le_high hl) _).trans
    (decodeFrom_tail hm (Nat.le_add_right ..) (le_high hm) bs)

theorem decodeFrom_encodeChar (c : Char) (bs : List UInt8) :
    decodeFrom none (encodeChar c ++ bs) = c :: decodeFrom none bs := by
  have hvalid : c.toNat < 0xD800 ∨ 0xDFFF < c.toNat ∧ c.toNat < 0x110000 := c.valid
  have hchar : Char.ofNat c.toNat = c := Char.ofNat_toNat c
  unfold encodeChar
  generalize c.toNat = n at hvalid hchar
  simp only [Nat.div_one]
  by_cases h1 : n < 0x80
  · have hn : (UInt8.ofNat n).toNat = n := UInt8.toNat_ofNat_of_lt' (show n < 256 by omega)
    rw [if_pos h1, List.singleton_append, decodeFrom_lead (start_one (by omega)), hn, hchar, List.singleton_append]
  by_cases h2 : n < 0x800
  · have hcode : n / 0x40 * 64 + n % 64 = n := by omega
    rw [if_neg h1, if_pos h2]
    exact (decodeFrom_two (by omega) (by omega) (by omega) bs).trans (by rw [hcode, hchar])
  by_cases h3 : n < 0x10000
  · have hcode : (n / 0x1000 * 64 + n / 0x40 % 64) * 64 + n % 64 = n := by omega
    rw [if_neg h1, if_neg h2, if_pos h3]
    exact (decodeFrom_three (by omega) (by omega) (by omega) (by omega) (by omega) bs).trans (by rw [hcode, hchar])
  · have hcode : ((n / 0x40000 * 64 + n / 0x1000 % 64) * 64 + n / 0x40 % 64) * 64 + n % 64 = n := by omega
    rw [if_neg h1, if_neg h2, if_neg h3]
    exact (decodeFrom_four (by omega) (by omega) (by omega) (by omega) (by omega) (by omega) bs).trans
      (by rw [hcode, hchar])

theorem decode_encode (s : List Char) : decode (encode s) = s := by
  unfold decode encode
  induction s with
  | nil => rfl
  | cons c s ih => rw [List.flatMap_cons, decodeFrom_encodeChar, ih]

theorem decodeString_encode (s : String) : decodeString (encode s.toList) = s := by
  rw [decodeString, decode_encode, String.ofList_toList]

end ClassAtlas.Text.Utf8
