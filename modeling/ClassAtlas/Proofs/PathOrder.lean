import ClassAtlas.Source
import Mathlib.Data.List.Basic

/-
  ClassAtlas.Proofs.PathOrder — paths and sources are put in one order.

  Paths are compared by their components and sources by their kinds and then by their
  paths, so two texts that spell one path come out equal. But for that both orders are
  linear: components are ordered lexicographically by rank and name (`order_eq`), paths
  as lists of components, and sources by a key (`Source.order_eq`).

  A name that is joined to a path is one more component of it, whatever slashes the path
  ends in (`components_join`). So paths to different places below one directory differ
  in their components (`components_foldl_join`).
-/

namespace ClassAtlas

namespace Path

/-! ## Segments -/

theorem segments_ne_nil (path : String) : segments path ≠ [] := List.splitOn_ne_nil '/' path.toList

theorem ofSegments_segments (path : String) : ofSegments (segments path) = path := by
  rw [ofSegments, segments, List.intercalate_splitOn, String.ofList_toList]

theorem eq_empty_of_segments {path : String} (h : segments path = [[]]) : path = "" := by
  rw [← ofSegments_segments path, h]
  rfl

/-! ## A name joined to a path -/

/-- What an entry of a directory may be called. -/
def IsName (s : String) : Prop := s ≠ "" ∧ s ≠ "." ∧ s ≠ ".." ∧ '/' ∉ s.toList

instance (s : String) : Decidable (IsName s) := inferInstanceAs (Decidable (_ ∧ _ ∧ _ ∧ _))

variable {name : String}

theorem IsName.ofSegment? (h : IsName name) : Component.ofSegment? name.toList = some (.name name) := by
  obtain ⟨hempty, hdot, hdots, -⟩ := h
  have hne : ∀ t : String, name ≠ t → name.toList ≠ t.toList := fun t ht e => ht (String.toList_inj.mp e)
  have hidle : isIdle name.toList = false := by
    simp only [isIdle, Bool.or_eq_false_iff, decide_eq_false_iff_not]
    exact ⟨hne "" hempty, hne "." hdot⟩
  have hup : name.toList ≠ ['.', '.'] := hne ".." hdots
  rw [Component.ofSegment?, if_neg (by simp [hidle]), if_neg hup, String.ofList_toList]

theorem IsName.segments (h : IsName name) : segments name = [name.toList] := List.splitOn_eq_singleton h.2.2.2

/-- The components that the segments of a path stand for. -/
theorem components_of_segments {path : String} {head : List Char} {tail : List (List Char)}
    (h : segments path = head :: tail) :
    components path = (Component.ofHead? head tail.isEmpty).toList ++ tail.filterMap Component.ofSegment? := by
  rw [components, h]

theorem IsName.components (h : IsName name) : components name = [.name name] := by
  rw [components_of_segments h.segments]
  have hempty : name.toList ≠ [] := fun e => h.1 (String.toList_inj.mp e)
  have hdot : name.toList ≠ ['.'] := fun e => h.2.1 (String.toList_inj.mp e)
  simp [Component.ofHead?, hempty, hdot, h.ofSegment?]

theorem segments_slash (base name : String) : segments (base ++ "/" ++ name) = segments base ++ segments name := by
  have htext : (base ++ "/" ++ name).toList = base.toList ++ '/' :: name.toList := by simp
  rw [segments, htext]
  exact List.splitOn_append_cons_self _ _

/-- What stands behind the last slash adds its meaning to that of what stands before. -/
theorem components_slash (base : String) {name : String} {segment : List Char} (hname : segments name = [segment]) :
    components (base ++ "/" ++ name) = components (base ++ "/") ++ (Component.ofSegment? segment).toList := by
  cases hs : segments base with
  | nil => exact absurd hs (segments_ne_nil base)
  | cons head tail =>
    have hnamed : segments (base ++ "/" ++ name) = head :: (tail ++ [segment]) := by
      rw [segments_slash, hs, hname, List.cons_append]
    have hslash : segments (base ++ "/") = head :: (tail ++ [[]]) := by
      have hempty := segments_slash base ""
      rw [String.append_empty, hs] at hempty
      exact hempty
    rw [components_of_segments hnamed, components_of_segments hslash, List.filterMap_append, List.filterMap_append]
    have hidle : [[]].filterMap Component.ofSegment? = [] := rfl
    have hlast : [segment].filterMap Component.ofSegment? = (Component.ofSegment? segment).toList := by
      cases h : Component.ofSegment? segment <;> simp [h]
    rw [hidle, hlast, List.append_nil, List.append_assoc]
    cases tail <;> rfl

/-- A slash at the end of a path means nothing. -/
theorem components_slash_end {base : String} (hbase : base ≠ "") : components (base ++ "/") = components base := by
  have hslash := segments_slash base ""
  rw [String.append_empty] at hslash
  cases hs : segments base with
  | nil => exact absurd hs (segments_ne_nil base)
  | cons head tail =>
    rw [hs, List.cons_append] at hslash
    rw [components_of_segments hslash, components_of_segments hs, List.filterMap_append]
    have hidle : (segments "").filterMap Component.ofSegment? = [] := rfl
    rw [hidle, List.append_nil]
    congr 1
    cases tail with
    | cons _ _ => rfl
    | nil =>
      -- a first segment that is alone no more means something else only if it is empty
      have hhead : head ≠ [] := by
        intro e
        rw [e] at hs
        exact hbase (eq_empty_of_segments hs)
      simp [Component.ofHead?, hhead]

/-- Between the path and what is joined to it a slash is put, unless the path ends in one. -/
theorem join_eq_of_head {base name : String} (h : name.toList.head? ≠ some '/') :
    join base name = if base.isEmpty || base.toList.getLast? = some '/' then base ++ name else base ++ "/" ++ name := by
  rw [join]
  split
  · next e => exact absurd e h
  · rfl

/-- A name brings no slash of its own. -/
theorem IsName.head_ne (h : IsName name) : name.toList.head? ≠ some '/' := fun e => h.2.2.2 (List.mem_of_mem_head? e)

theorem IsName.join_eq (h : IsName name) (base : String) :
    join base name = if base.isEmpty || base.toList.getLast? = some '/' then base ++ name else base ++ "/" ++ name :=
  join_eq_of_head h.head_ne

theorem components_join (base : String) (h : IsName name) :
    components (join base name) = components base ++ [.name name] := by
  have hnamed : ∀ b, components (b ++ "/" ++ name) = components (b ++ "/") ++ [.name name] := by
    intro b
    rw [components_slash b h.segments, h.ofSegment?, Option.toList_some]
  rw [h.join_eq]
  by_cases hempty : base = ""
  · rw [hempty]
    exact h.components
  · have hisEmpty : base.isEmpty = false := by simpa using hempty
    by_cases hlast : base.toList.getLast? = some '/'
    · obtain ⟨front, hfront⟩ := List.getLast?_eq_some_iff.mp hlast
      have hbase : base = String.ofList front ++ "/" := String.toList_inj.mp (by simpa using hfront)
      rw [if_pos (by simp [hlast]), hbase]
      exact hnamed _
    · rw [if_neg (by simp [hisEmpty, hlast]), hnamed, components_slash_end hempty]

theorem components_foldl_join (base : String) {names : List String} (h : ∀ n ∈ names, IsName n) :
    components (names.foldl join base) = components base ++ names.map .name := by
  induction names generalizing base with
  | nil => simp
  | cons n names ih =>
    rw [List.forall_mem_cons] at h
    rw [List.foldl_cons, ih _ h.2, components_join _ h.1, List.append_assoc]
    rfl

/-! ## Archives by their names -/

theorem isArchive_of_jar {path : String} (h : extension? path = some "jar") : isArchive path = true := by
  have hlower : "jar".map Char.toLower = "jar" := by
    rw [← String.toList_inj, String.toList_map]
    decide
  simp only [isArchive, h, hlower, beq_self_eq_true, Bool.true_or]

/-! ## The order of paths -/

namespace Component

/-- What a component is called, if it has a name. -/
def text : Component → String
  | .name n => n
  | _ => ""

theorem order_eq : order = compareLex (compareOn rank) (compareOn text) := by
  funext a b
  cases a <;> cases b <;> simp [order, compareLex, compareOn, rank, text] <;> rfl

instance : Ord Component := ⟨order⟩

instance : Std.TransOrd Component := by
  show Std.TransCmp order
  rw [order_eq]
  infer_instance

theorem eq_of_rank_text {a b : Component} (hrank : a.rank = b.rank) (htext : a.text = b.text) : a = b := by
  cases a <;> cases b <;> simp_all [rank, text]

instance : Std.LawfulEqOrd Component where
  eq_of_compare {a b} h := by
    have hkey : compareLex (compareOn rank) (compareOn text) a b = .eq := by
      rw [← order_eq]
      exact h
    obtain ⟨hrank, htext⟩ := compareLex_eq_eq.mp hkey
    exact eq_of_rank_text (Nat.compare_eq_eq.mp hrank) (Std.LawfulEqOrd.eq_of_compare htext)

end Component

theorem orderComponents_eq (as bs : List Component) : orderComponents as bs = compare as bs := by
  fun_induction orderComponents as bs with
  | case1 => rfl
  | case2 => rfl
  | case3 => rfl
  | case4 a as b bs ih =>
    rw [ih]
    exact List.compareLex_cons_cons.symm

theorem order_eq (p q : String) : order p q = compare (components p) (components q) := orderComponents_eq _ _

end Path

/-! ## The order of sources -/

namespace Source

/-- What sources are ordered by. -/
def key : Source → Nat × List Path.Component × List Path.Component
  | classFile root path => (0, Path.components root, Path.components path)
  | archive path => (1, Path.components path, [])

theorem order_eq :
    order = compareLex (compareOn (key · |>.1)) (compareLex (compareOn (key · |>.2.1)) (compareOn (key · |>.2.2))) := by
  funext a b
  cases a with
  | classFile root path =>
    cases b with
    | classFile root' path' =>
      have hkind : compare (classFile root path).key.1 (classFile root' path').key.1 = .eq := rfl
      simp only [order, Path.order_eq, compareLex, compareOn, hkind]
      rfl
    | archive path' => rfl
  | archive path =>
    cases b with
    | classFile root' path' => rfl
    | archive path' =>
      have hkind : compare (archive path).key.1 (archive path').key.1 = .eq := rfl
      have hend : compare (archive path).key.2.2 (archive path').key.2.2 = .eq := rfl
      simp only [order, Path.order_eq, compareLex, compareOn, hkind, hend, Ordering.then_eq]
      rfl

instance : Std.TransCmp order := by
  rw [order_eq]
  infer_instance

theorem order_swap (a b : Source) : a.order b = (b.order a).swap := Std.OrientedCmp.eq_swap

theorem order_eq_eq_iff {a b : Source} : a.order b = .eq ↔ a.key = b.key := by
  rw [order_eq]
  simp only [compareLex_eq_eq, compareOn, Std.compare_eq_iff_eq, Prod.ext_iff]

theorem eq_of_ofFile? {root path : String} {s : Source} (h : ofFile? root path = some s) :
    s = classFile root path ∨ s = archive path := by
  rw [ofFile?] at h
  split at h
  · exact Or.inl (Option.some.inj h).symm
  · split at h
    · exact Or.inr (Option.some.inj h).symm
    · cases h

/-- Below one root, files that make equal sources have equal paths. -/
theorem components_eq_of_key {root p q : String} {a b : Source} (ha : ofFile? root p = some a)
    (hb : ofFile? root q = some b) (h : a.key = b.key) : Path.components p = Path.components q := by
  rcases eq_of_ofFile? ha with rfl | rfl <;> rcases eq_of_ofFile? hb with rfl | rfl <;> simp_all [key]

/-! ## Sorting -/

theorem ne_gt_eq_isLE (o : Ordering) : (o != .gt) = o.isLE := by
  cases o <;> rfl

/-- Files whose paths all differ come out strictly increasing. -/
theorem ofFiles_increasing {root : String} {paths : List String}
    (h : paths.Pairwise fun p q => Path.components p ≠ Path.components q) :
    (ofFiles root paths).Pairwise fun a b => a.order b = .lt := by
  have hsorted : (ofFiles root paths).Pairwise fun a b => (a.order b != .gt) = true := by
    apply List.pairwise_mergeSort
    · intro a b c hab hbc
      rw [ne_gt_eq_isLE] at hab hbc ⊢
      exact Std.TransCmp.isLE_trans hab hbc
    · intro a b
      rw [ne_gt_eq_isLE, ne_gt_eq_isLE, order_swap b a]
      cases a.order b <;> rfl
  have hdistinct : (ofFiles root paths).Pairwise fun a b => a.key ≠ b.key := by
    have hperm : (ofFiles root paths).Perm (paths.filterMap (ofFile? root)) := List.mergeSort_perm _ _
    rw [hperm.pairwise_iff (fun hab => hab.symm), List.pairwise_filterMap]
    refine h.imp fun hpq a ha b hb hab => hpq ?_
    exact components_eq_of_key ha hb hab
  refine hsorted.imp₂ (fun a b hle hne => ?_) hdistinct
  have hneq : a.order b ≠ .eq := fun e => hne (order_eq_eq_iff.mp e)
  cases hord : a.order b <;> simp_all

/-- Whichever order the files are delivered in, the sources are the same. -/
theorem ofFiles_perm {root : String} {paths delivered : List String}
    (h : paths.Pairwise fun p q => Path.components p ≠ Path.components q) (hperm : delivered.Perm paths) :
    ofFiles root delivered = ofFiles root paths := by
  have hdelivered : delivered.Pairwise fun p q => Path.components p ≠ Path.components q :=
    (hperm.pairwise_iff (fun hpq => hpq.symm)).mpr h
  have hasymm : ∀ a b : Source, a ∈ ofFiles root delivered → b ∈ ofFiles root paths →
      a.order b = .lt → b.order a = .lt → a = b := by
    intro a b _ _ hab hba
    rw [order_swap, hba] at hab
    cases hab
  have hsources : (ofFiles root delivered).Perm (ofFiles root paths) :=
    ((List.mergeSort_perm _ _).trans (hperm.filterMap _)).trans (List.mergeSort_perm _ _).symm
  exact hsources.eq_of_pairwise hasymm (ofFiles_increasing hdelivered) (ofFiles_increasing h)

end Source

end ClassAtlas
