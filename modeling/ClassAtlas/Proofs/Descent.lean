import ClassAtlas.Proofs.Lookup
import ClassAtlas.Query

/-
  ClassAtlas.Proofs.Descent — descending from a class is reachability in the catalog.

  `Leads` is a chain of supertypes, one class at a time. `Query.reaches` follows such
  chains with a stack of names to be looked at and a list of those seen; a class that was
  seen is not followed again, so it ends whatever cycles the catalog holds. What it leaves
  out it does not lose: a chain that goes through a class a second time can start from the
  second time (`leads_unseen`), and so some pending name always leads to the base through
  unseen classes if one did before (`reaches_iff`).

  The other way round, from the base down, the same classes are found round by round
  (`rounds`), each round the direct subclasses of the one before.
-/

namespace ClassAtlas

/-- A chain of supertypes leads from the name to `base`. A step starts from the class of that name. -/
inductive Leads (classes : List ClassRecord) (base : String) : String → Prop
  | here : Leads classes base base
  | up {c : ClassRecord} {super : String} : c ∈ classes → super ∈ c.supertypes → Leads classes base super →
      Leads classes base c.name

namespace Leads

variable {classes : List ClassRecord} {base name : String}

theorem mono {more : List ClassRecord} (hsub : classes ⊆ more) (h : Leads classes base name) :
    Leads more base name := by
  induction h with
  | here => exact .here
  | up hc hsuper _ ih => exact .up (hsub hc) hsuper ih

/-- Only the class of that name can start a chain there, so a name of no class is the base or leads nowhere. -/
theorem eq_of_no_class (hnone : ∀ c ∈ classes, c.name ≠ name) (h : Leads classes base name) : name = base := by
  cases h with
  | here => rfl
  | up hc _ _ => exact absurd rfl (hnone _ hc)

end Leads

namespace Query

/-! ## Following the names -/

theorem mem_unseen {classes : List ClassRecord} {seen : List String} {c : ClassRecord} :
    c ∈ unseen classes seen ↔ c ∈ classes ∧ c.name ∉ seen := by
  simp [unseen]

/-- Once the class `c` has been seen, a chain still leads to the base, or else from a supertype of `c` it does. -/
theorem leads_unseen {catalog : Catalog} {c : ClassRecord} {base name : String} {seen : List String}
    (hc : c ∈ catalog.records) (h : Leads (unseen catalog.records seen) base name) :
    Leads (unseen catalog.records (c.name :: seen)) base name ∨
      ∃ super ∈ c.supertypes, Leads (unseen catalog.records (c.name :: seen)) base super := by
  induction h with
  | here => exact .inl .here
  | @up d super hd hsuper _ ih =>
    rcases ih with ih | ih
    · obtain ⟨hd, hnew⟩ := mem_unseen.mp hd
      by_cases hname : d.name = c.name
      · rw [catalog.eq_of_name hd hc hname] at hsuper
        exact .inr ⟨super, hsuper, ih⟩
      · have hstill : d ∈ unseen catalog.records (c.name :: seen) := mem_unseen.mpr ⟨hd, by simp [hname, hnew]⟩
        exact .inl (.up hstill hsuper ih)
    · exact .inr ih

/-- A pending name of no class, other than the base, can be dropped. -/
theorem exists_pending_cons {classes : List ClassRecord} {base n : String} {ns : List String} (hne : n ≠ base)
    (hnone : ∀ c ∈ classes, c.name ≠ n) :
    (∃ name ∈ n :: ns, Leads classes base name) ↔ ∃ name ∈ ns, Leads classes base name := by
  constructor
  · rintro ⟨name, hpending, hleads⟩
    rcases List.mem_cons.mp hpending with rfl | hpending
    · exact absurd (hleads.eq_of_no_class hnone) hne
    · exact ⟨name, hpending, hleads⟩
  · rintro ⟨name, hpending, hleads⟩
    exact ⟨name, List.mem_cons_of_mem _ hpending, hleads⟩

/-- What the loop answers depends on the pending names and the unseen classes alone. -/
theorem reaches_iff (catalog : Catalog) (base : String) (seen pending : List String) :
    reaches catalog base seen pending = true ↔ ∃ name ∈ pending, Leads (unseen catalog.records seen) base name := by
  fun_induction reaches catalog base seen pending with
  | case1 seen => simp
  | case2 seen ns => simpa using Or.inl Leads.here
  | case3 seen n ns hne hseen ih =>
    have hnone : ∀ c ∈ unseen catalog.records seen, c.name ≠ n := by
      intro c hc hname
      exact (mem_unseen.mp hc).2 (hname ▸ List.contains_iff_mem.mp hseen)
    rw [ih, exists_pending_cons hne hnone]
  | case4 seen n ns hne hseen c hfound _ ih =>
    obtain ⟨hc, rfl⟩ := Catalog.find?_eq_some hfound
    have hsub : unseen catalog.records (c.name :: seen) ⊆ unseen catalog.records seen := by
      rw [unseen_cons]
      exact List.filter_sublist.subset
    have hnew : c ∈ unseen catalog.records seen := mem_unseen.mpr ⟨hc, by simpa using hseen⟩
    rw [ih]
    constructor
    · rintro ⟨name, hpending, hleads⟩
      rcases List.mem_append.mp hpending with hsuper | hpending
      · exact ⟨c.name, List.mem_cons_self, .up hnew (List.mem_reverse.mp hsuper) (hleads.mono hsub)⟩
      · exact ⟨name, List.mem_cons_of_mem _ hpending, hleads.mono hsub⟩
    · rintro ⟨name, hpending, hleads⟩
      rcases leads_unseen hc hleads with hstill | ⟨super, hsuper, hstill⟩
      · rcases List.mem_cons.mp hpending with rfl | hpending
        · have hnone : ∀ d ∈ unseen catalog.records (c.name :: seen), d.name ≠ c.name := by
            intro d hd hname
            exact (mem_unseen.mp hd).2 (hname ▸ List.mem_cons_self)
          exact absurd (hstill.eq_of_no_class hnone) hne
        · exact ⟨name, List.mem_append_right _ hpending, hstill⟩
      · exact ⟨super, List.mem_append_left _ (List.mem_reverse.mpr hsuper), hstill⟩
  | case5 seen n ns hne hseen hmissing _ ih =>
    -- no class has the name, so having seen it leaves out none
    have hsame : unseen catalog.records (n :: seen) = unseen catalog.records seen := by
      rw [unseen_cons]
      refine List.filter_eq_self.mpr fun c hc => decide_eq_true ?_
      exact Catalog.find?_eq_none hmissing c (mem_unseen.mp hc).1
    have hnone : ∀ c ∈ unseen catalog.records seen, c.name ≠ n := by
      intro c hc
      exact Catalog.find?_eq_none hmissing c (mem_unseen.mp hc).1
    rw [ih, hsame, exists_pending_cons hne hnone]

end Query

/-! ## Round by round -/

namespace Catalog

variable (catalog : Catalog)

theorem mem_directSubclasses {name : String} {c : ClassRecord} :
    c ∈ catalog.directSubclasses name ↔ c ∈ catalog.records ∧ name ∈ c.supertypes := by
  simp [directSubclasses, List.mem_filter]

/-- The direct subclasses of the base, then those of each class that the round before found. -/
def rounds (base : String) : Nat → List ClassRecord
  | 0 => catalog.directSubclasses base
  | n + 1 => (rounds base n).flatMap fun c => catalog.directSubclasses c.name

theorem mem_rounds_of_leads {base super : String} (h : Leads catalog.records base super) :
    ∀ c ∈ catalog.records, super ∈ c.supertypes → ∃ n, c ∈ catalog.rounds base n := by
  induction h with
  | here => exact fun c hc hsuper => ⟨0, catalog.mem_directSubclasses.mpr ⟨hc, hsuper⟩⟩
  | @up d super hd hsuper _ ih =>
    intro c hc hcd
    obtain ⟨n, hn⟩ := ih d hd hsuper
    exact ⟨n + 1, List.mem_flatMap.mpr ⟨d, hn, catalog.mem_directSubclasses.mpr ⟨hc, hcd⟩⟩⟩

theorem leads_of_mem_rounds {base : String} {n : Nat} {c : ClassRecord} (h : c ∈ catalog.rounds base n) :
    c ∈ catalog.records ∧ ∃ super ∈ c.supertypes, Leads catalog.records base super := by
  induction n generalizing c with
  | zero =>
    obtain ⟨hc, hbase⟩ := catalog.mem_directSubclasses.mp h
    exact ⟨hc, base, hbase, .here⟩
  | succ n ih =>
    obtain ⟨d, hd, hcd⟩ := List.mem_flatMap.mp h
    obtain ⟨hc, hsuper⟩ := catalog.mem_directSubclasses.mp hcd
    obtain ⟨hd, super, hds, hleads⟩ := ih hd
    exact ⟨hc, d.name, hsuper, .up hd hds hleads⟩

end Catalog

theorem descends_iff (catalog : Catalog) (base : String) (c : ClassRecord) :
    Query.descends catalog base c = true ↔
      c.name ≠ base ∧ ∃ super ∈ c.supertypes, Leads catalog.records base super := by
  have hall : Query.unseen catalog.records [] = catalog.records := List.filter_eq_self.mpr fun _ _ => rfl
  rw [Query.descends, Bool.and_eq_true, decide_eq_true_iff, Query.reaches_iff, hall]
  simp only [List.mem_reverse]

/-- A class descends from `base` just if it has another name and a chain of one or more supertypes leads
    there, each class between them one of the catalog. The catalog's classes that do are those which some
    round of direct subclasses finds from `base`, without `base` itself. -/
theorem subclassOf_iff_leads (catalog : Catalog) (base : String) (c : ClassRecord) :
    (Query.accepts catalog c (.subclassOf base) = true ↔
        c.name ≠ base ∧ ∃ super ∈ c.supertypes, Leads catalog.records base super) ∧
      (c ∈ catalog.matching (.subclassOf base) ↔ c.name ≠ base ∧ ∃ n, c ∈ catalog.rounds base n) := by
  refine ⟨descends_iff catalog base c, ?_⟩
  simp only [Catalog.matching, List.mem_filter, Query.accepts, descends_iff]
  constructor
  · rintro ⟨hc, hname, super, hsuper, hleads⟩
    exact ⟨hname, catalog.mem_rounds_of_leads hleads c hc hsuper⟩
  · rintro ⟨hname, n, hn⟩
    obtain ⟨hc, hleads⟩ := catalog.leads_of_mem_rounds hn
    exact ⟨hc, hname, hleads⟩

end ClassAtlas
