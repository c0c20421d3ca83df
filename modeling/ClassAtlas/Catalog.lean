import ClassAtlas.Record

/-
  ClassAtlas.Catalog — the classes that were found, one to a name, in the order of their names.

  The first class of a name is kept, as on a class path; `insert` says whether it was the
  first. Names are in the order of their code points, and a catalog carries the proof that
  it is so.
-/

namespace ClassAtlas

structure Catalog where
  records : List ClassRecord
  sorted : records.Pairwise fun a b => a.name < b.name

namespace Catalog

def empty : Catalog := ⟨[], List.Pairwise.nil⟩

instance : Inhabited Catalog := ⟨empty⟩

def find? (c : Catalog) (name : String) : Option ClassRecord := c.records.find? (·.name == name)

theorem find?_eq_some {c : Catalog} {name : String} {r : ClassRecord} (h : c.find? name = some r) :
    r ∈ c.records ∧ r.name = name := by
  have hname := List.find?_some h
  exact ⟨List.mem_of_find?_eq_some h, eq_of_beq hname⟩

theorem find?_eq_none {c : Catalog} {name : String} (h : c.find? name = none) : ∀ r ∈ c.records, r.name ≠ name := by
  intro r hr hname
  exact List.find?_eq_none.mp h r hr (beq_iff_eq.mpr hname)

def contains (c : Catalog) (name : String) : Bool := c.records.any (·.name == name)

/-- Put `r` into its place, unless there is a class of its name. -/
def insertSorted (r : ClassRecord) : List ClassRecord → List ClassRecord
  | [] => [r]
  | c :: cs => if r.name < c.name then r :: c :: cs else if r.name = c.name then c :: cs else c :: insertSorted r cs

theorem mem_insertSorted {r x : ClassRecord} {cs : List ClassRecord} (h : x ∈ insertSorted r cs) : x = r ∨ x ∈ cs := by
  induction cs with
  | nil => simpa [insertSorted] using h
  | cons c cs ih =>
    unfold insertSorted at h
    split at h
    · simpa using h
    · split at h
      · exact Or.inr h
      · rcases List.mem_cons.mp h with rfl | h
        · exact Or.inr List.mem_cons_self
        · exact Or.imp_right (List.mem_cons_of_mem _) (ih h)

theorem sorted_insertSorted {r : ClassRecord} {cs : List ClassRecord} (h : cs.Pairwise fun a b => a.name < b.name) :
    (insertSorted r cs).Pairwise fun a b => a.name < b.name := by
  induction cs with
  | nil => simp [insertSorted]
  | cons c cs ih =>
    have hc := List.pairwise_cons.mp h
    unfold insertSorted
    split
    · rename_i hlt
      refine List.pairwise_cons.mpr ⟨fun x hx => ?_, h⟩
      rcases List.mem_cons.mp hx with rfl | hx
      · exact hlt
      · exact String.lt_trans hlt (hc.1 x hx)
    · split
      · exact h
      · rename_i hnlt hne
        refine List.pairwise_cons.mpr ⟨fun x hx => ?_, ih hc.2⟩
        rcases mem_insertSorted hx with rfl | hx
        · exact String.not_le.mp fun hle => hne (String.le_antisymm hle (String.not_lt.mp hnlt))
        · exact hc.1 x hx

/-- The catalog with `r`, and whether its name was new. -/
def insert (c : Catalog) (r : ClassRecord) : Catalog × Bool :=
  (⟨insertSorted r c.records, sorted_insertSorted c.sorted⟩, !c.contains r.name)

end Catalog

end ClassAtlas
