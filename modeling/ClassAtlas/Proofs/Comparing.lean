import ClassAtlas.Comparison
import ClassAtlas.Proofs.Identity
import ClassAtlas.Proofs.Utf8

/-
  ClassAtlas.Proofs.Comparing — equality, order and hashes of records agree.

  Methods are compared by two texts, one after the other (`MethodRecord.order_eq`), and so are
  fields; annotations by one. The order is linear but for methods that are the same
  (`MethodRecord.order_eq_eq_iff`), and what is given to a hash tells apart just those that are
  not (`Text.hashInput_inj`). In a sorted list the methods that are the same as a given one stand
  together, behind all smaller and before all greater ones (`MethodRecord.sorted_eq`), and as the
  sort is stable, in the order in which they were declared.
-/

namespace ClassAtlas

/-! ## Hashes -/

namespace Text

theorem Utf8.byte_ne_closing {n : Nat} (h : n < 0xFF) : (0xFF : UInt8) ≠ UInt8.ofNat n := by
  intro heq
  have hnat := congrArg UInt8.toNat heq
  rw [UInt8.toNat_ofNat_of_lt' (show n < 256 by omega)] at hnat
  exact absurd hnat.symm (Nat.ne_of_lt h)

theorem Utf8.closing_not_mem_encodeChar (c : Char) : (0xFF : UInt8) ∉ Utf8.encodeChar c := by
  have hbound : c.toNat < 0x110000 := by
    rcases c.valid with h | h
    · exact Nat.lt_trans h (by decide)
    · exact h.2
  have htail (unit : Nat) : (0xFF : UInt8) ≠ UInt8.ofNat (0x80 + c.toNat / unit % 64) := Utf8.byte_ne_closing (by omega)
  simp only [Utf8.encodeChar]
  split
  · simp only [List.mem_singleton]
    exact Utf8.byte_ne_closing (by omega)
  split
  · simp only [List.mem_cons, List.not_mem_nil, or_false, not_or]
    exact ⟨Utf8.byte_ne_closing (by omega), htail 1⟩
  split
  · simp only [List.mem_cons, List.not_mem_nil, or_false, not_or]
    exact ⟨Utf8.byte_ne_closing (by omega), htail 0x40, htail 1⟩
  · simp only [List.mem_cons, List.not_mem_nil, or_false, not_or]
    exact ⟨Utf8.byte_ne_closing (by omega), htail 0x1000, htail 0x40, htail 1⟩

theorem Utf8.closing_not_mem (s : List Char) : (0xFF : UInt8) ∉ Utf8.encode s := by
  intro hmem
  obtain ⟨c, -, hc⟩ := List.mem_flatMap.mp hmem
  exact Utf8.closing_not_mem_encodeChar c hc

/-- Different texts give different things to a hash, and so do texts that are cut in other places. -/
theorem hashInput_inj {ts us : List String} : hashInput ts = hashInput us ↔ ts = us := by
  refine ⟨fun h => ?_, fun h => by rw [h]⟩
  induction ts generalizing us with
  | nil =>
    cases us with
    | nil => rfl
    | cons u us => simp [hashInput] at h
  | cons t ts ih =>
    cases us with
    | nil => simp [hashInput] at h
    | cons u us =>
      rw [hashInput, hashInput, List.flatMap_cons, List.flatMap_cons, List.append_assoc, List.append_assoc,
        List.singleton_append, List.singleton_append] at h
      have hbytes : Utf8.encode t.toList = Utf8.encode u.toList :=
        eq_of_append_cons (Utf8.closing_not_mem _) (Utf8.closing_not_mem _) h
      rw [hbytes] at h
      have htext : t = u := by rw [← Utf8.decodeString_encode t, hbytes, Utf8.decodeString_encode]
      rw [htext, ih (List.cons.inj (List.append_cancel_left h)).2]

end Text

/-- To be the same is an equivalence, and the same things and no others give the same to a hash. -/
structure Hashed {α : Type} (same : α → α → Bool) (hashInput : α → Bytes) : Prop where
  equivalence : Equivalence fun a b => same a b = true
  agrees : ∀ a b, same a b = true ↔ hashInput a = hashInput b

/-- It is enough that the texts given to a hash are those that are compared. -/
theorem hashed_of_texts {α : Type} {same : α → α → Bool} (texts : α → List String)
    (h : ∀ a b, same a b = true ↔ texts a = texts b) : Hashed same fun a => Text.hashInput (texts a) where
  equivalence :=
    { refl := fun a => (h a a).mpr rfl
      symm := fun {a b} hab => (h b a).mpr ((h a b).mp hab).symm
      trans := fun {a b c} hab hbc => (h a c).mpr (((h a b).mp hab).trans ((h b c).mp hbc)) }
  agrees a b := (h a b).trans Text.hashInput_inj.symm

theorem AnnotationRecord.hashed : Hashed same hashInput :=
  hashed_of_texts (fun a : AnnotationRecord => [a.name]) fun a b => by simp [same]

theorem FieldRecord.hashed : Hashed same hashInput :=
  hashed_of_texts (fun f : FieldRecord => [f.signature, f.declaringClass]) fun f g => by simp [same]

namespace MethodRecord

theorem hashed : Hashed same hashInput :=
  hashed_of_texts (fun m : MethodRecord => [m.signature, m.declaringClass]) fun m n => by simp [same]

/-! ## The order of methods -/

theorem order_eq : order = compareLex (compareOn (·.signature)) (compareOn (·.declaringClass)) := rfl

instance : Std.TransCmp order := by
  rw [order_eq]
  infer_instance

theorem order_swap (a b : MethodRecord) : a.order b = (b.order a).swap := Std.OrientedCmp.eq_swap

variable {a b m : MethodRecord} {ms : List MethodRecord}

theorem order_eq_eq_iff : a.order b = .eq ↔ a.same b = true := by
  rw [order_eq, compareLex_eq_eq]
  simp [compareOn, same]

/-- Signatures go before declaring classes. -/
theorem order_of_signature_lt (h : a.signature < b.signature) : a.order b = .lt := by
  have hfirst : compareOfLessAndEq a.signature b.signature = .lt := if_pos h
  rw [order, hfirst]
  rfl

/-! ## Sorting -/

theorem isLE_trans (a b c : MethodRecord) (hab : (a.order b).isLE = true) (hbc : (b.order c).isLE = true) :
    (a.order c).isLE = true := Std.TransCmp.isLE_trans hab hbc

theorem isLE_total (a b : MethodRecord) : ((a.order b).isLE || (b.order a).isLE) = true := by
  rw [order_swap b a]
  cases a.order b <;> rfl

theorem sorted_increasing (ms : List MethodRecord) : (sorted ms).Pairwise fun a b => (a.order b).isLE = true :=
  List.pairwise_mergeSort isLE_trans isLE_total ms

/-- An increasing list has the methods before a given one in front, then those that are the same as it,
    then the others. -/
theorem eq_filter_append (m : MethodRecord) (h : ms.Pairwise fun a b => (a.order b).isLE = true) :
    ms = ms.filter (·.order m = .lt) ++ ms.filter (·.order m = .eq) ++ ms.filter (·.order m = .gt) := by
  induction ms with
  | nil => rfl
  | cons x xs ih =>
    obtain ⟨hx, hxs⟩ := List.pairwise_cons.mp h
    have hrest := ih hxs
    cases hxm : x.order m with
    | lt =>
      simp only [List.filter_cons, hxm, decide_true, if_true, reduceCtorEq, decide_false, Bool.false_eq_true, if_false,
        List.cons_append]
      rw [← hrest]
    | eq =>
      -- nothing behind it comes before the given one
      have hbefore : xs.filter (·.order m = .lt) = [] := by
        refine List.filter_eq_nil_iff.mpr fun y hy hlt => ?_
        have hxlt : x.order m = .lt := Std.TransCmp.lt_of_isLE_of_lt (hx y hy) (of_decide_eq_true hlt)
        rw [hxm] at hxlt
        cases hxlt
      rw [hbefore, List.nil_append] at hrest
      simp only [List.filter_cons, hxm, decide_true, if_true, reduceCtorEq, decide_false, Bool.false_eq_true, if_false,
        List.cons_append, hbefore, List.nil_append]
      rw [← hrest]
    | gt =>
      have hmx : m.order x = .lt := by rw [order_swap, hxm]; rfl
      -- and nothing behind a greater one comes before the given one or is the same
      have hafter : ∀ y ∈ xs, y.order m = .gt := by
        intro y hy
        have hmy : m.order y = .lt := Std.TransCmp.lt_of_lt_of_isLE hmx (hx y hy)
        rw [order_swap, hmy]
        rfl
      have hnone {o : Ordering} (ho : o ≠ .gt) : xs.filter (·.order m = o) = [] := by
        refine List.filter_eq_nil_iff.mpr fun y hy heq => ho ?_
        rw [← of_decide_eq_true heq, hafter y hy]
      have hall : xs.filter (·.order m = .gt) = xs := List.filter_eq_self.mpr fun y hy => decide_eq_true (hafter y hy)
      have hlt : xs.filter (·.order m = .lt) = [] := hnone (by decide)
      have heq : xs.filter (·.order m = .eq) = [] := hnone (by decide)
      simp only [List.filter_cons, hxm, decide_true, if_true, reduceCtorEq, decide_false, Bool.false_eq_true,
        if_false, hall, hlt, heq, List.nil_append]

/-- Sorting keeps the order of methods that are the same. -/
theorem filter_sorted (m : MethodRecord) (ms : List MethodRecord) :
    (sorted ms).filter (·.order m = .eq) = ms.filter (·.order m = .eq) := by
  have hequal : (ms.filter (·.order m = .eq)).Pairwise fun a b => (a.order b).isLE = true := by
    refine List.pairwise_of_forall_mem_list fun a ha b hb => ?_
    have ham : (a.order m).isLE = true := by rw [of_decide_eq_true (List.mem_filter.mp ha).2]; rfl
    have hmb : (m.order b).isLE = true := by rw [order_swap, of_decide_eq_true (List.mem_filter.mp hb).2]; rfl
    exact isLE_trans a m b ham hmb
  have hsublist : (ms.filter (·.order m = .eq)).Sublist ((sorted ms).filter (·.order m = .eq)) := by
    have hkept := (List.sublist_mergeSort isLE_trans isLE_total hequal List.filter_sublist).filter (·.order m = .eq)
    simp only [List.filter_filter, Bool.and_self] at hkept
    exact hkept
  exact (hsublist.eq_of_length ((List.mergeSort_perm ms _).filter _).length_eq.symm).symm

end MethodRecord

/-- Methods are in a linear order, but for those that are the same: it has an answer for any two, it goes
    by signatures first, and nothing else is equal in it. What records give to a hash is the same just if
    they are. A list of methods is sorted into an increasing one of the same methods, in which those that
    are the same as a given one stand together, and as they stood before. -/
theorem comparisons_agree :
    (∀ a b : MethodRecord, a.order b = (b.order a).swap ∧ a.order? b = some (a.order b) ∧
        (a.order b = .eq ↔ a.same b = true) ∧ (a.signature < b.signature → a.order b = .lt)) ∧
      (∀ a b c : MethodRecord, a.order b ≠ .gt → b.order c ≠ .gt → a.order c ≠ .gt) ∧
      Hashed MethodRecord.same MethodRecord.hashInput ∧ Hashed FieldRecord.same FieldRecord.hashInput ∧
      Hashed AnnotationRecord.same AnnotationRecord.hashInput ∧
      ∀ ms : List MethodRecord, (MethodRecord.sorted ms).Perm ms ∧
        (MethodRecord.sorted ms).Pairwise (fun a b => a.order b ≠ .gt) ∧
        ∀ m : MethodRecord, ∃ before after,
          MethodRecord.sorted ms = before ++ ms.filter (·.same m) ++ after ∧
            (∀ n ∈ before, n.order m = .lt) ∧ ∀ n ∈ after, n.order m = .gt := by
  refine ⟨fun a b => ⟨a.order_swap b, rfl, MethodRecord.order_eq_eq_iff, MethodRecord.order_of_signature_lt⟩,
    ?_, MethodRecord.hashed, FieldRecord.hashed, AnnotationRecord.hashed,
    fun ms => ⟨List.mergeSort_perm ms _, ?_, fun m => ?_⟩⟩
  · simp only [← Ordering.isLE_iff_ne_gt]
    exact MethodRecord.isLE_trans
  · simp only [← Ordering.isLE_iff_ne_gt]
    exact MethodRecord.sorted_increasing ms
  · have hsame : ms.filter (·.order m = .eq) = ms.filter (·.same m) := by
      refine List.filter_congr fun n _ => ?_
      rw [Bool.eq_iff_iff, decide_eq_true_iff, MethodRecord.order_eq_eq_iff]
    have hparts := MethodRecord.eq_filter_append m (MethodRecord.sorted_increasing ms)
    rw [MethodRecord.filter_sorted, hsame] at hparts
    refine ⟨_, _, hparts, fun n hn => ?_, fun n hn => ?_⟩
    · exact of_decide_eq_true (List.mem_filter.mp hn).2
    · exact of_decide_eq_true (List.mem_filter.mp hn).2

end ClassAtlas
