import ClassAtlas.ClassFile.Basic

/-
  ClassAtlas.Proofs.Elements — the annotations that an element ends up with.

  Attaching annotations one after the other keeps the first of each type (`foldl_attach`),
  so what an element holds depends on nothing but the list of those offered to it. An element
  is changed in place in the list of its kind, where nothing else of the list is touched
  (`map_modify_eq_map`).
-/

namespace ClassAtlas

/-! ## Attaching -/

theorem isPresent_iff (as : List AnnotationRecord) (name : String) :
    isPresent as name = true ↔ ∃ a ∈ as, a.name = name := by
  simp [isPresent]

theorem isPresent_append (as : List AnnotationRecord) (a : AnnotationRecord) (name : String) :
    isPresent (as ++ [a]) name = (isPresent as name || a.name == name) := by
  simp [isPresent]

theorem attach_of_isPresent {as : List AnnotationRecord} {a : AnnotationRecord} (h : isPresent as a.name = true) :
    attach as a = as := by
  unfold attach
  exact if_pos h

theorem attach_of_not_isPresent {as : List AnnotationRecord} {a : AnnotationRecord} (h : isPresent as a.name = false) :
    attach as a = as ++ [a] := by
  unfold attach
  exact if_neg (Bool.eq_false_iff.mp h)

theorem firstOfType_sublist (as : List AnnotationRecord) : (firstOfType as).Sublist as := by
  induction as with
  | nil => exact .slnil
  | cons a as ih => exact (List.filter_sublist.trans ih).cons_cons a

/-- Of `as`, those are added whose type was not there, and of each such type the first. -/
theorem foldl_attach (as bs : List AnnotationRecord) :
    as.foldl attach bs = bs ++ (firstOfType as).filter (fun a => !isPresent bs a.name) := by
  induction as generalizing bs with
  | nil => simp [firstOfType]
  | cons a as ih =>
    rw [List.foldl_cons, ih, firstOfType, List.filter_cons, List.filter_filter]
    cases h : isPresent bs a.name with
    | true =>
      rw [attach_of_isPresent h]
      -- whatever is of the type of `a` is dropped on the left as well
      have hsame : ∀ x : AnnotationRecord, (!isPresent bs x.name) =
          (!isPresent bs x.name && decide (x.name ≠ a.name)) := by
        intro x
        by_cases e : x.name = a.name
        · simp [e, h]
        · simp [e]
      simp only [Bool.not_true, Bool.false_eq_true, if_false]
      exact congrArg (bs ++ ·) (List.filter_congr fun x _ => hsame x)
    | false =>
      rw [attach_of_not_isPresent h, List.append_assoc]
      simp only [Bool.not_false, if_true, List.singleton_append, isPresent_append, Bool.not_or]
      refine congrArg (fun l => bs ++ a :: l) (List.filter_congr fun x _ => ?_)
      by_cases e : x.name = a.name
      · simp [e]
      · simp [e, Ne.symm e]

theorem foldl_attach_nil (as : List AnnotationRecord) : as.foldl attach [] = firstOfType as := by
  rw [foldl_attach]
  simp [isPresent]

theorem firstOfType_append_singleton (as : List AnnotationRecord) (a : AnnotationRecord) :
    firstOfType (as ++ [a]) = attach (firstOfType as) a := by
  rw [← foldl_attach_nil, List.foldl_append, foldl_attach_nil]
  rfl

/-! ## Elements among others -/

/-- What `f` sees of a list stays where `f` does not see the change. -/
theorem map_modify_eq_map {α β : Type} (f : α → β) (g : α → α) (h : ∀ x, f (g x) = f x) (l : List α) (i : Nat) :
    (l.modify i g).map f = l.map f := by
  apply List.ext_getElem?
  intro k
  rw [List.getElem?_map, List.getElem?_map, List.getElem?_modify]
  by_cases hik : i = k
  · cases hx : l[k]? with
    | none => rfl
    | some x => simp [hik, h x]
  · simp [hik]

end ClassAtlas
