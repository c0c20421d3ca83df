import ClassAtlas.Edit
import ClassAtlas.Proofs.History
import Mathlib.Data.List.Nodup

/-
  ClassAtlas.Proofs.Editing — a record keeps what it was given, whatever is done to it.

  A change touches one of two things: the list of the members, which it makes longer, or the
  annotations of one element (`Edit.onList`). So a run of changes is followed twice:
  - the members are those that were there and behind them the ones declared, in their order
    (`fields_edits`, `methods_edits`), and thus none ever loses its place;
  - an annotation stays at its place and keeps all but its parameters, to which those are added
    that are pushed to that place (`getElem?_edits`).

  An annotation is told from another by its type alone. Its flag and its parameters do not
  matter for that, and neither does what is pushed to it later: no element ever has two of a
  type (`Distinct`).
-/

namespace ClassAtlas

/-! ## One list of annotations -/

/-- No two annotations are of one type. -/
def Distinct (as : List AnnotationRecord) : Prop := (as.map AnnotationRecord.name).Nodup

theorem any_same (as : List AnnotationRecord) (a : AnnotationRecord) : as.any (·.same a) = isPresent as a.name := rfl

theorem Distinct.attach {as : List AnnotationRecord} (h : Distinct as) (a : AnnotationRecord) :
    Distinct (attach as a) := by
  cases hpresent : isPresent as a.name with
  | true => rwa [attach_of_isPresent hpresent]
  | false =>
    have hnew : a.name ∉ as.map AnnotationRecord.name := by
      intro hmem
      rw [(isPresent_iff as a.name).mpr (List.mem_map.mp hmem)] at hpresent
      cases hpresent
    rw [attach_of_not_isPresent hpresent, Distinct, List.map_append, List.nodup_append]
    refine ⟨h, List.nodup_singleton _, ?_⟩
    rintro name hname other hother rfl
    rw [List.map_singleton, List.mem_singleton] at hother
    exact hnew (hother ▸ hname)

theorem getElem?_attach {as : List AnnotationRecord} {k : Nat} {a : AnnotationRecord} (h : as[k]? = some a)
    (b : AnnotationRecord) : (attach as b)[k]? = some a := by
  unfold attach
  split
  · exact h
  · rw [List.getElem?_append_left (List.getElem?_eq_some_iff.mp h).1, h]

theorem modify_eq_self {α : Type} {l : List α} {i : Nat} {g : α → α} (h : ∀ x, l[i]? = some x → g x = x) :
    l.modify i g = l := by
  apply List.ext_getElem?
  intro k
  rw [List.getElem?_modify]
  by_cases hik : i = k
  · subst hik
    cases hx : l[i]? with
    | none => rfl
    | some x => simp [h x hx]
  · simp [hik]

/-- Of a list that was made longer, what was put behind the old one. -/
theorem getElem?_length_of_map {α β : Type} {f : α → β} {old new : List α} {x : β} {rest : List β}
    (h : new.map f = old.map f ++ x :: rest) : new[old.length]?.map f = some x := by
  have hlength : (old.map f).length ≤ old.length := Nat.le_of_eq (List.length_map f)
  rw [← List.getElem?_map, h, List.getElem?_append_right hlength, List.length_map, Nat.sub_self]
  rfl

/-- The annotation with parameters behind those that it has. -/
def AnnotationRecord.extend (a : AnnotationRecord) (ps : List (String × Value)) : AnnotationRecord :=
  { a with params := a.params ++ ps }

theorem AnnotationRecord.extend_nil (a : AnnotationRecord) : a.extend [] = a := by
  cases a
  rw [extend, List.append_nil]

theorem AnnotationRecord.extend_extend (a : AnnotationRecord) (ps qs : List (String × Value)) :
    (a.extend ps).extend qs = a.extend (ps ++ qs) := by
  simp only [extend, List.append_assoc]

namespace Edit

/-- What the change does to the annotations of an element that is there. -/
def onList (element : Option Member) : Edit → List AnnotationRecord → List AnnotationRecord
  | annotate m a, as => if m = element then attach as a else as
  | pushParam m place name value, as => if m = element then as.modify place (·.push name value) else as
  | _, as => as

/-- The parameters that it adds to the annotation at a place. -/
def pushed (element : Option Member) (k : Nat) : Edit → List (String × Value)
  | pushParam m place name value => if m = element ∧ place = k then [(name, value)] else []
  | _ => []

/-- The field that it declares in the class `owner`. -/
def field? (owner : String) : Edit → Option FieldRecord
  | addField access name descriptor signature value => some (.declared owner access name descriptor signature value)
  | _ => none

def method? (owner : String) : Edit → Option MethodRecord
  | addMethod access name descriptor signature exceptions =>
    some (.declared owner access name descriptor signature exceptions)
  | _ => none

theorem declaringClass_of_field? {owner : String} {e : Edit} {f : FieldRecord} (h : e.field? owner = some f) :
    f.declaringClass = owner := by
  cases e <;> cases h
  rfl

theorem declaringClass_of_method? {owner : String} {e : Edit} {m : MethodRecord} (h : e.method? owner = some m) :
    m.declaringClass = owner := by
  cases e <;> cases h
  rfl

variable (e : Edit) (element : Option Member) {as : List AnnotationRecord}

theorem distinct_onList (h : Distinct as) : Distinct (e.onList element as) := by
  cases e with
  | addField => exact h
  | addMethod => exact h
  | annotate m a =>
    simp only [onList]
    split
    · exact h.attach a
    · exact h
  | pushParam m place name value =>
    simp only [onList]
    split
    · -- what is pushed to an annotation does not change its type
      rwa [Distinct, map_modify_eq_map AnnotationRecord.name (·.push name value) fun _ => rfl]
    · exact h

theorem getElem?_onList {k : Nat} {a : AnnotationRecord} (h : as[k]? = some a) :
    (e.onList element as)[k]? = some (a.extend (e.pushed element k)) := by
  cases e with
  | addField => simpa only [onList, pushed, a.extend_nil] using h
  | addMethod => simpa only [onList, pushed, a.extend_nil] using h
  | annotate m b =>
    simp only [onList, pushed, a.extend_nil]
    split
    · exact getElem?_attach h b
    · exact h
  | pushParam m place name value =>
    simp only [onList, pushed]
    by_cases hm : m = element
    · by_cases hplace : place = k
      · simp [hm, hplace, h, AnnotationRecord.push, AnnotationRecord.extend]
      · simp [hm, hplace, h, a.extend_nil]
    · simp [hm, h, a.extend_nil]

end Edit

/-! ## One change -/

namespace ClassRecord

variable (c : ClassRecord) (e : Edit) (element : Option Member)

theorem annotationsOf_of_missing (h : ¬c.Has element) : c.annotationsOf element = [] := by
  rcases element with _ | (i | i)
  · exact absurd trivial h
  · simp only [annotationsOf, List.getElem?_eq_none (Nat.le_of_not_lt h)]
    rfl
  · simp only [annotationsOf, List.getElem?_eq_none (Nat.le_of_not_lt h)]
    rfl

section Modify

variable (k : Nat) (g : AnnotationRecord → AnnotationRecord)

theorem annotationsOf_modify_self :
    (c.modifyAnnotationAt k g element).annotationsOf element = (c.annotationsOf element).modify k g := by
  rcases element with _ | (i | i)
  · rfl
  · cases hi : c.fields[i]? <;> simp [modifyAnnotationAt, annotationsOf, hi]
  · cases hi : c.methods[i]? <;> simp [modifyAnnotationAt, annotationsOf, hi]

theorem annotationsOf_modify_ne {other : Option Member} (h : element ≠ other) :
    (c.modifyAnnotationAt k g element).annotationsOf other = c.annotationsOf other := by
  rcases element with _ | (i | i) <;> rcases other with _ | (j | j)
  all_goals first | rfl | exact absurd rfl h | skip
  · have hij : i ≠ j := fun e => h (by rw [e])
    simp [modifyAnnotationAt, annotationsOf, hij]
  · have hij : i ≠ j := fun e => h (by rw [e])
    simp [modifyAnnotationAt, annotationsOf, hij]

theorem bare_modify : (c.modifyAnnotationAt k g element).bare = c.bare := by
  rcases element with _ | (i | i)
  · rfl
  · have hfields := map_modify_eq_map FieldRecord.bare (fun f => { f with annotations := f.annotations.modify k g })
      (fun _ => rfl) c.fields i
    simp only [modifyAnnotationAt, bare, hfields]
  · have hmethods := map_modify_eq_map MethodRecord.bare (fun m => { m with annotations := m.annotations.modify k g })
      (fun _ => rfl) c.methods i
    simp only [modifyAnnotationAt, bare, hmethods]

end Modify

theorem bare_annotate (a : AnnotationRecord) : (c.annotate a element).bare = c.bare := by
  have hfields := c.annotate_fields a element
  have hmethods := c.annotate_methods a element
  rcases element with _ | (i | i)
  · rfl
  · simp only [bare, annotate] at hfields ⊢
    rw [hfields]
  · simp only [bare, annotate] at hmethods ⊢
    rw [hmethods]

theorem annotate_of_isPresent {a : AnnotationRecord} (h : isPresent (c.annotationsOf element) a.name = true) :
    c.annotate a element = c := by
  rcases element with _ | (i | i)
  · have hannotations : attach c.annotations a = c.annotations := attach_of_isPresent h
    rw [annotate, hannotations]
  · have hfields : c.fields.modify i (·.annotate a) = c.fields := by
      refine modify_eq_self fun f hf => ?_
      simp only [annotationsOf, hf, Option.map_some, Option.getD_some] at h
      rw [FieldRecord.annotate, attach_of_isPresent h]
    rw [annotate, hfields]
  · have hmethods : c.methods.modify i (·.annotate a) = c.methods := by
      refine modify_eq_self fun m hm => ?_
      simp only [annotationsOf, hm, Option.map_some, Option.getD_some] at h
      rw [MethodRecord.annotate, attach_of_isPresent h]
    rw [annotate, hmethods]

/-- The annotations of an element change as the change says, unless it is for an element that is not there. -/
theorem annotationsOf_edit :
    (c.edit e).1.annotationsOf element = e.onList element (c.annotationsOf element) ∨
      c.annotationsOf element = [] ∧ (c.edit e).1.annotationsOf element = [] := by
  cases e with
  | addField access name descriptor signature value =>
    exact Or.inl (c.annotationsOf_addField element access name descriptor signature value)
  | addMethod access name descriptor signature exceptions =>
    exact Or.inl (c.annotationsOf_addMethod element access name descriptor signature exceptions)
  | annotate m a =>
    simp only [edit, Edit.onList]
    by_cases hm : m = element
    · subst hm
      rw [if_pos rfl]
      split
      · next hhas => exact Or.inl (c.annotationsOf_annotate_self a m hhas)
      · next hmissing =>
        have hnone := c.annotationsOf_of_missing m hmissing
        exact Or.inr ⟨hnone, hnone⟩
    · rw [if_neg hm]
      split
      · exact Or.inl (c.annotationsOf_annotate_ne a m fun h => hm h.symm)
      · exact Or.inl rfl
  | pushParam m place name value =>
    left
    simp only [edit, Edit.onList]
    by_cases hm : m = element
    · subst hm
      rw [if_pos rfl]
      split
      · exact c.annotationsOf_modify_self m place _
      · next hnone => exact (modify_eq_self fun x hx => absurd hx (by rw [hnone]; nofun)).symm
    · rw [if_neg hm]
      split
      · exact c.annotationsOf_modify_ne m place _ hm
      · rfl

/-- But for annotations, a record changes by the members that are declared. -/
theorem bare_edit :
    (c.edit e).1.bare =
      { c.bare with
        fields := c.bare.fields ++ (e.field? c.name).toList
        methods := c.bare.methods ++ (e.method? c.name).toList } := by
  cases e with
  | addField => simp [edit, addField, bare, Edit.field?, Edit.method?, FieldRecord.bare, FieldRecord.declared]
  | addMethod => simp [edit, addMethod, bare, Edit.field?, Edit.method?, MethodRecord.bare, MethodRecord.declared]
  | annotate m a =>
    simp only [edit, Edit.field?, Edit.method?, Option.toList_none, List.append_nil]
    split
    · exact c.bare_annotate m a
    · rfl
  | pushParam m place name value =>
    simp only [edit, Edit.field?, Edit.method?, Option.toList_none, List.append_nil]
    split
    · exact c.bare_modify m place _
    · rfl

theorem name_edit : (c.edit e).1.name = c.name := by
  have hname := congrArg ClassRecord.name (c.bare_edit e)
  exact hname

theorem distinct_edit (h : Distinct (c.annotationsOf element)) : Distinct ((c.edit e).1.annotationsOf element) := by
  rcases c.annotationsOf_edit e element with hlist | ⟨-, hlist⟩
  · rw [hlist]
    exact e.distinct_onList element h
  · rw [hlist]
    exact List.nodup_nil

theorem getElem?_edit {k : Nat} {a : AnnotationRecord} (h : (c.annotationsOf element)[k]? = some a) :
    ((c.edit e).1.annotationsOf element)[k]? = some (a.extend (e.pushed element k)) := by
  rcases c.annotationsOf_edit e element with hlist | ⟨hnone, -⟩
  · rw [hlist]
    exact e.getElem?_onList element h
  · rw [hnone] at h
    cases h

/-- What comes of attaching `a`: one annotation more at the end of the element, or nothing. -/
def Attaches (a : AnnotationRecord) (r : ClassRecord × Answer) : Prop :=
  r.2 = .attached (!isPresent (c.annotationsOf element) a.name) ∧
    if isPresent (c.annotationsOf element) a.name then r.1 = c
    else
      r.1.bare = c.bare ∧ r.1.annotationsOf element = c.annotationsOf element ++ [a] ∧
        ∀ other ≠ element, r.1.annotationsOf other = c.annotationsOf other

theorem attaches_edit (a : AnnotationRecord) (h : c.Has element) :
    c.Attaches element a (c.edit (.annotate element a)) := by
  have hedit : c.edit (.annotate element a) =
      (c.annotate a element, .attached !isPresent (c.annotationsOf element) a.name) := by
    rw [edit, if_pos h, any_same]
  rw [hedit]
  refine ⟨rfl, ?_⟩
  split
  · next hpresent => exact c.annotate_of_isPresent element hpresent
  · next hpresent =>
    refine ⟨c.bare_annotate element a, ?_, fun other hother => c.annotationsOf_annotate_ne a element hother⟩
    rw [c.annotationsOf_annotate_self a element h, attach_of_not_isPresent (Bool.eq_false_iff.mpr hpresent)]

/-! ## A run of changes -/

variable (es fs : List Edit)

theorem edits_cons : c.edits (e :: es) = (c.edit e).1.edits es := rfl

theorem edits_append : c.edits (es ++ fs) = (c.edits es).edits fs := List.foldl_append

theorem bare_edits :
    (c.edits es).bare =
      { c.bare with
        fields := c.bare.fields ++ es.filterMap (Edit.field? c.name)
        methods := c.bare.methods ++ es.filterMap (Edit.method? c.name) } := by
  induction es generalizing c with
  | nil => simp only [edits, List.foldl_nil, List.filterMap_nil, List.append_nil]
  | cons e es ih =>
    rw [edits_cons, ih, bare_edit, name_edit]
    simp only [List.filterMap_cons, List.append_assoc]
    cases e.field? c.name <;> cases e.method? c.name <;> rfl

theorem distinct_edits (h : Distinct (c.annotationsOf element)) : Distinct ((c.edits es).annotationsOf element) := by
  induction es generalizing c with
  | nil => exact h
  | cons e es ih => exact ih (c.edit e).1 (c.distinct_edit e element h)

/-- An annotation keeps its place, its type and its flag, and its parameters are followed by those that
    are pushed to it. -/
theorem getElem?_edits {k : Nat} {a : AnnotationRecord} (h : (c.annotationsOf element)[k]? = some a) :
    ((c.edits es).annotationsOf element)[k]? = some (a.extend (es.flatMap (Edit.pushed element k))) := by
  induction es generalizing c a with
  | nil => rwa [List.flatMap_nil, a.extend_nil]
  | cons e es ih => rw [edits_cons, ih (c.edit e).1 (c.getElem?_edit e element h), List.flatMap_cons, a.extend_extend]

/-! ## Members -/

theorem name_edits : (c.edits es).name = c.name := by
  have hname := congrArg ClassRecord.name (c.bare_edits es)
  exact hname

theorem fields_edits :
    (c.edits es).fields.map FieldRecord.bare = c.fields.map FieldRecord.bare ++ es.filterMap (Edit.field? c.name) :=
  congrArg ClassRecord.fields (c.bare_edits es)

theorem methods_edits :
    (c.edits es).methods.map MethodRecord.bare =
      c.methods.map MethodRecord.bare ++ es.filterMap (Edit.method? c.name) :=
  congrArg ClassRecord.methods (c.bare_edits es)

/-- Behind a change that declares a field, the field stands where the fields ended before. -/
theorem getElem?_field_edits {f : FieldRecord} (h : e.field? c.name = some f) :
    (c.edits (e :: es)).fields[c.fields.length]?.map FieldRecord.bare = some f := by
  have hfields := c.fields_edits (e :: es)
  rw [List.filterMap_cons_some h] at hfields
  exact getElem?_length_of_map hfields

theorem getElem?_method_edits {m : MethodRecord} (h : e.method? c.name = some m) :
    (c.edits (e :: es)).methods[c.methods.length]?.map MethodRecord.bare = some m := by
  have hmethods := c.methods_edits (e :: es)
  rw [List.filterMap_cons_some h] at hmethods
  exact getElem?_length_of_map hmethods

/-- All members are declared by the class itself. -/
structure OwnsMembers (c : ClassRecord) : Prop where
  fields : ∀ f ∈ c.fields, f.declaringClass = c.name
  methods : ∀ m ∈ c.methods, m.declaringClass = c.name

/-- A record that started without members has those only that were declared. -/
theorem ownsMembers_edits (hfields : c.fields = []) (hmethods : c.methods = []) : (c.edits es).OwnsMembers := by
  have hdeclared := c.fields_edits es
  have hdeclared' := c.methods_edits es
  rw [hfields, List.map_nil, List.nil_append] at hdeclared
  rw [hmethods, List.map_nil, List.nil_append] at hdeclared'
  constructor
  · intro f hf
    have hbare : f.bare ∈ es.filterMap (Edit.field? c.name) := hdeclared ▸ List.mem_map_of_mem hf
    obtain ⟨e, -, he⟩ := List.mem_filterMap.mp hbare
    exact (Edit.declaringClass_of_field? he).trans (c.name_edits es).symm
  · intro m hm
    have hbare : m.bare ∈ es.filterMap (Edit.method? c.name) := hdeclared' ▸ List.mem_map_of_mem hm
    obtain ⟨e, -, he⟩ := List.mem_filterMap.mp hbare
    exact (Edit.declaringClass_of_method? he).trans (c.name_edits es).symm

theorem isSome_annotationNamed? (name : String) : (c.annotationNamed? name).isSome = c.isAnnotated name := by
  rw [Bool.eq_iff_iff, annotationNamed?, List.find?_isSome, isAnnotated, isPresent, List.any_eq_true]

/-- Of a record that was changed in any way since it was made, and whatever is done to it next:
    - no element has two annotations of a type, all members are declared by the class, and it has an
      annotation of a type to show just if it says so;
    - attaching an annotation to an element answers whether its type was missing there, puts it at the end
      if it was, and changes nothing if it was not;
    - an annotation stays where it is with its type, its flag and its parameters, behind which come those
      that are pushed to it later;
    - a new member is answered by a place, and at that place it stays. -/
theorem edits_keep_record (access : Access) (name : String) (super : Option String) (interfaces : List String)
    (location : String) (before after : List Edit) :
    let start := ClassRecord.new access name super interfaces location
    let c := start.edits before
    ((∀ element, Distinct (c.annotationsOf element)) ∧ c.name = Name.external name ∧ c.OwnsMembers ∧
        ∀ n, (c.annotationNamed? n).isSome = c.isAnnotated n) ∧
      (∀ (element : Option Member) (a : AnnotationRecord), c.Has element →
        c.Attaches element a (c.edit (.annotate element a))) ∧
      (∀ (element : Option Member) (k : Nat) (a : AnnotationRecord), (c.annotationsOf element)[k]? = some a →
        ((start.edits (before ++ after)).annotationsOf element)[k]? =
          some (a.extend (after.flatMap (Edit.pushed element k)))) ∧
      (∀ access name descriptor signature value,
        let e := Edit.addField access name descriptor signature value
        ∃ i, (c.edit e).2 = .added (.field i) ∧ ∃ f, (start.edits (before ++ e :: after)).fields[i]? = some f ∧
          f.name = name ∧ f.descriptor = descriptor ∧ f.signature = fieldSignature name descriptor signature) ∧
      (∀ access name descriptor signature exceptions,
        let e := Edit.addMethod access name descriptor signature exceptions
        ∃ i, (c.edit e).2 = .added (.method i) ∧ ∃ m, (start.edits (before ++ e :: after)).methods[i]? = some m ∧
          m.name = name ∧ m.descriptor = descriptor ∧ m.signature = methodSignature name descriptor signature) := by
  intro start c
  have hnone (element : Option Member) : start.annotationsOf element = [] := by
    rcases element with _ | (i | i) <;> rfl
  have howns : c.OwnsMembers := start.ownsMembers_edits before rfl rfl
  refine ⟨⟨fun element => ?_, start.name_edits before, howns, c.isSome_annotationNamed?⟩, ?_, ?_, ?_, ?_⟩
  · exact start.distinct_edits element before (by rw [hnone]; exact List.nodup_nil)
  · exact fun element a h => c.attaches_edit element a h
  · intro element k a h
    rw [edits_append]
    exact c.getElem?_edits element after h
  · intro access name descriptor signature value e
    refine ⟨c.fields.length, rfl, ?_⟩
    rw [edits_append]
    obtain ⟨f, hf, hbare⟩ := Option.map_eq_some_iff.mp (c.getElem?_field_edits e after rfl)
    exact ⟨f, hf, congrArg FieldRecord.name hbare, congrArg FieldRecord.descriptor hbare,
      congrArg FieldRecord.signature hbare⟩
  · intro access name descriptor signature exceptions e
    refine ⟨c.methods.length, rfl, ?_⟩
    rw [edits_append]
    obtain ⟨m, hm, hbare⟩ := Option.map_eq_some_iff.mp (c.getElem?_method_edits e after rfl)
    exact ⟨m, hm, congrArg MethodRecord.name hbare, congrArg MethodRecord.descriptor hbare,
      congrArg MethodRecord.signature hbare⟩

/-- The flag and the parameters of the first annotation of a type stay, and those of the second are lost. -/
example :
    let c := (ClassRecord.new ⟨0⟩ "a/A" none [] "").edits [.annotate none ⟨"a.Note", false, []⟩]
    c.edit (.annotate none ⟨"a.Note", true, [("value", .int 1)]⟩) = (c, .attached false) := rfl

end ClassRecord

end ClassAtlas
