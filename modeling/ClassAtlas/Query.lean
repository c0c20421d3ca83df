import ClassAtlas.Catalog

/-
  ClassAtlas.Query — which classes of a catalog are asked for.

  Most questions are about one class. Whether it descends from another is a question about
  the catalog: a chain of superclasses and interfaces leads from the class to the base, and
  each class between them has to be in the catalog, for only there are its own supertypes
  to be found.
-/

namespace ClassAtlas

/-- Where an annotation is looked for. -/
inductive AnnotationScope where
  | onClass
  | onMember
  | anywhere
  deriving DecidableEq, Repr

/-- A name may be asked of any predicate on names. -/
inductive Query where
  | anyModifier (mask : UInt16)
  | allModifiers (mask : UInt16)
  | subclassOf (base : String)
  | annotated (name : String) (scope : AnnotationScope)
  | named (accepts : String → Bool)
  | all (qs : List Query)
  | any (qs : List Query)
  | none (q : Query)

namespace Query

/-- The classes whose names have not been seen. -/
def unseen (classes : List ClassRecord) (seen : List String) : List ClassRecord :=
  classes.filter fun c => !seen.contains c.name

theorem unseen_cons (classes : List ClassRecord) (name : String) (seen : List String) :
    unseen classes (name :: seen) = (unseen classes seen).filter fun c => c.name ≠ name := by
  rw [unseen, unseen, List.filter_filter]
  refine List.filter_congr fun c _ => ?_
  by_cases h : c.name = name <;> simp [h]

theorem length_unseen_le (classes : List ClassRecord) (name : String) (seen : List String) :
    (unseen classes (name :: seen)).length ≤ (unseen classes seen).length := by
  rw [unseen_cons]
  exact List.length_filter_le ..

/-- A class that is followed is one fewer that has not been seen. -/
theorem length_unseen_lt {catalog : Catalog} {c : ClassRecord} {name : String} {seen : List String}
    (hfound : catalog.find? name = some c) (hnew : ¬seen.contains name) :
    (unseen catalog.records (name :: seen)).length < (unseen catalog.records seen).length := by
  obtain ⟨hc, hname⟩ := Catalog.find?_eq_some hfound
  have hunseen : c ∈ unseen catalog.records seen := List.mem_filter.mpr ⟨hc, by simpa [hname] using hnew⟩
  rw [unseen_cons]
  exact List.length_filter_lt_length_iff_exists.mpr ⟨c, hunseen, by simp [hname]⟩

/-- Follow the pending names, the last one added first, until one of them is `base`. What was seen is not
    followed again; so each class is followed once at most, and there is an end to it. -/
def reaches (catalog : Catalog) (base : String) (seen pending : List String) : Bool :=
  match pending with
  | [] => false
  | n :: ns =>
    if n = base then true
    else if hseen : seen.contains n then reaches catalog base seen ns
    else
      match hfound : catalog.find? n with
      | some c =>
        have := length_unseen_lt hfound hseen
        reaches catalog base (n :: seen) (c.supertypes.reverse ++ ns)
      | Option.none =>
        have := length_unseen_le catalog.records n seen
        reaches catalog base (n :: seen) ns
  termination_by ((unseen catalog.records seen).length, pending.length)
  decreasing_by
    · exact Prod.Lex.right _ (by simp)
    · exact Prod.Lex.left _ _ this
    · rcases Nat.lt_or_eq_of_le this with h | h
      · exact Prod.Lex.left _ _ h
      · exact h ▸ Prod.Lex.right _ (by simp)

/-- `c` descends from `base`. No class descends from itself. -/
def descends (catalog : Catalog) (base : String) (c : ClassRecord) : Bool :=
  c.name ≠ base && reaches catalog base [] c.supertypes.reverse

mutual

def accepts (catalog : Catalog) (c : ClassRecord) : Query → Bool
  | .anyModifier mask => c.access.hasAny mask
  | .allModifiers mask => c.access.hasAll mask
  | .subclassOf base => descends catalog base c
  | .annotated name .onClass => c.isAnnotated name
  | .annotated name .onMember => c.memberIsAnnotated name
  | .annotated name .anywhere => c.isAnnotated name || c.memberIsAnnotated name
  | .named accepts => accepts c.name
  | .all qs => acceptsAll catalog c qs
  | .any qs => acceptsAny catalog c qs
  | .none q => !accepts catalog c q

def acceptsAll (catalog : Catalog) (c : ClassRecord) : List Query → Bool
  | [] => true
  | q :: qs => accepts catalog c q && acceptsAll catalog c qs

def acceptsAny (catalog : Catalog) (c : ClassRecord) : List Query → Bool
  | [] => false
  | q :: qs => accepts catalog c q || acceptsAny catalog c qs

end

end Query

namespace Catalog

/-- The classes that the query accepts, in the order of the catalog. -/
def matching (c : Catalog) (q : Query) : List ClassRecord := c.records.filter fun r => Query.accepts c r q

/-- The classes that name `name` as their superclass or as an interface. -/
def directSubclasses (c : Catalog) (name : String) : List ClassRecord := c.records.filter (·.supertypes.contains name)

end Catalog

end ClassAtlas
