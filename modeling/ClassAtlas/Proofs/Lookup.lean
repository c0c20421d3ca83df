import ClassAtlas.Catalog
import Mathlib.Data.List.Nodup

/-
  ClassAtlas.Proofs.Lookup — a catalog as a map from names to classes.

  Names are strictly ascending, so a class is found under its own name and no other class
  is (`mem_records_iff`). What `insert` does to the map is to add a class where there was
  none (`find?_insert`), and it grows by one just then (`length_insert`).
-/

namespace ClassAtlas.Catalog

variable (catalog : Catalog)

theorem nodup_names : (catalog.records.map (·.name)).Nodup := by
  rw [List.Nodup, List.pairwise_map]
  exact catalog.sorted.imp fun {a b} (hlt : a.name < b.name) heq => String.lt_irrefl a.name (by rwa [← heq] at hlt)

theorem eq_of_name {c d : ClassRecord} (hc : c ∈ catalog.records) (hd : d ∈ catalog.records)
    (h : c.name = d.name) : c = d :=
  List.inj_on_of_nodup_map catalog.nodup_names hc hd h

theorem mem_records_iff (r : ClassRecord) : r ∈ catalog.records ↔ catalog.find? r.name = some r := by
  constructor
  · intro hr
    cases hfound : catalog.find? r.name with
    | none => exact absurd rfl (find?_eq_none hfound r hr)
    | some d =>
      obtain ⟨hd, hname⟩ := find?_eq_some hfound
      rw [catalog.eq_of_name hd hr hname]
  · exact fun h => (find?_eq_some h).1

theorem contains_eq (name : String) : catalog.contains name = (catalog.find? name).isSome := by
  rw [contains, find?, List.isSome_find?]

/-! ## Inserting -/

section Insert

variable {r : ClassRecord} {cs : List ClassRecord}

/-- A name in front of all others is none of them. -/
theorem find?_eq_none_of_lt {c : ClassRecord} (hlt : r.name < c.name)
    (hc : (c :: cs).Pairwise fun a b => a.name < b.name) :
    (c :: cs).find? (·.name == r.name) = none := by
  refine List.find?_eq_none.mpr fun x hx hname => ?_
  have hx' : r.name < x.name := by
    rcases List.mem_cons.mp hx with rfl | hx
    · exact hlt
    · exact String.lt_trans hlt ((List.pairwise_cons.mp hc).1 x hx)
  rw [eq_of_beq hname] at hx'
  exact String.lt_irrefl _ hx'

theorem find?_insertSorted (name : String) (h : cs.Pairwise fun a b => a.name < b.name) :
    (insertSorted r cs).find? (·.name == name) =
      (cs.find? (·.name == name)).or (if r.name = name then some r else none) := by
  induction cs with
  | nil => by_cases hr : r.name = name <;> simp [insertSorted, hr]
  | cons c cs ih =>
    unfold insertSorted
    by_cases hlt : r.name < c.name
    · rw [if_pos hlt]
      by_cases hr : r.name = name
      · subst hr
        rw [find?_eq_none_of_lt hlt h]
        simp
      · simp [List.find?_cons, hr]
    rw [if_neg hlt]
    by_cases heq : r.name = c.name
    · rw [if_pos heq]
      by_cases hr : r.name = name
      · simp [← heq, hr]
      · simp [hr]
    rw [if_neg heq, List.find?_cons, List.find?_cons, ih (List.pairwise_cons.mp h).2]
    cases c.name == name <;> simp

theorem length_insertSorted (h : cs.Pairwise fun a b => a.name < b.name) :
    (insertSorted r cs).length = if (cs.find? (·.name == r.name)).isSome then cs.length else cs.length + 1 := by
  induction cs with
  | nil => rfl
  | cons c cs ih =>
    unfold insertSorted
    by_cases hlt : r.name < c.name
    · rw [if_pos hlt, find?_eq_none_of_lt hlt h]
      rfl
    rw [if_neg hlt]
    by_cases heq : r.name = c.name
    · simp [heq]
    have hne : (c.name == r.name) = false := beq_false_of_ne (Ne.symm heq)
    rw [if_neg heq, List.length_cons, ih (List.pairwise_cons.mp h).2, List.find?_cons, hne]
    split <;> rfl

end Insert

/-- What was there stays; a class that is new is found under its name. -/
theorem find?_insert (r : ClassRecord) (name : String) :
    (catalog.insert r).1.find? name = (catalog.find? name).or (if r.name = name then some r else none) :=
  find?_insertSorted name catalog.sorted

theorem length_insert (r : ClassRecord) :
    (catalog.insert r).1.records.length =
      if (catalog.find? r.name).isSome then catalog.records.length else catalog.records.length + 1 :=
  length_insertSorted catalog.sorted

theorem insert_isNew (r : ClassRecord) : (catalog.insert r).2 = !(catalog.find? r.name).isSome := by
  rw [insert, contains_eq]

end ClassAtlas.Catalog
