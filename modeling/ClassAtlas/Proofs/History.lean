import ClassAtlas.Assembly
import ClassAtlas.Proofs.Elements

/-
  ClassAtlas.Proofs.History — the record is a function of the events that were taken.

  Any events may come, in any order; some are refused. Those that were taken are the
  history of an assembly, and it alone says what the record holds. A history is read
  backwards here, the newest event first, because an event is understood from what came
  before it:

  - the annotation that is open was opened by the last event that is no value, and its
    values have come since (`openNote`);
  - the member at hand is the one declared last, unless an end has come since while no
    annotation was open (`current`);
  - an annotation is over as soon as anything but a value comes, and is then offered to the
    element that was at hand when it was opened (`offers`).

  None of these looks at a record or a place. `told_step` ties them to the assembly's
  state, event by event; `record_eq_history` is what follows for every run.
-/

namespace ClassAtlas

namespace Event

def isValue : Event → Bool
  | value _ _ => true
  | _ => false

def isField : Event → Bool
  | field _ _ _ _ _ => true
  | _ => false

def isMethod : Event → Bool
  | method _ _ _ _ _ => true
  | _ => false

def pair? : Event → Option (String × Value)
  | value name v => some (name, v)
  | _ => none

/-- The field that the event declares in the class `owner`, without annotations. -/
def field? (owner : String) : Event → Option FieldRecord
  | field access name descriptor signature v => some (.declared owner access name descriptor signature v)
  | _ => none

def method? (owner : String) : Event → Option MethodRecord
  | method access name descriptor signature exceptions =>
    some (.declared owner access name descriptor signature exceptions)
  | _ => none

end Event

def FieldRecord.bare (f : FieldRecord) : FieldRecord := { f with annotations := [] }

def MethodRecord.bare (m : MethodRecord) : MethodRecord := { m with annotations := [] }

def ClassRecord.bare (c : ClassRecord) : ClassRecord :=
  { c with fields := c.fields.map FieldRecord.bare, methods := c.methods.map MethodRecord.bare, annotations := [] }

/-! ## Histories -/

namespace History

/-- Whether an annotation is open. -/
def isOpen (past : List Event) : Bool :=
  match past.dropWhile Event.isValue with
  | .annotationStart _ _ :: _ => true
  | .parameterStart _ _ _ :: _ => true
  | _ => false

/-- The member at hand; none is the class itself. -/
def current : List Event → Option Member
  | [] => none
  | .field _ _ _ _ _ :: past => some (.field (past.countP Event.isField))
  | .method _ _ _ _ _ :: past => some (.method (past.countP Event.isMethod))
  | .finish :: past => if isOpen past then current past else none
  | _ :: past => current past

/-- The annotation that is open, unless it stands on a parameter: the element that was at hand when it was opened, and
    what has been said of it. -/
def openNote (past : List Event) : Option (Option Member × AnnotationRecord) :=
  match past.dropWhile Event.isValue with
  | .annotationStart descriptor visible :: before =>
    some (current before,
      ⟨Name.ofDescriptor descriptor, visible, (past.takeWhile Event.isValue).reverse.filterMap Event.pair?⟩)
  | _ => none

/-- The annotations that are over, in their order, each with the element to which it was offered. -/
def offers : List Event → List (Option Member × AnnotationRecord)
  | [] => []
  | e :: past => if e.isValue then offers past else offers past ++ (openNote past).toList

/-- Those that were offered to one element. -/
def offersTo (element : Option Member) (os : List (Option Member × AnnotationRecord)) : List AnnotationRecord :=
  (os.filter (·.1 == element)).map (·.2)

/-! ## What one event adds -/

/-- An open annotation is given a value; without one the value is lost. -/
theorem openNote_value (name : String) (v : Value) (past : List Event) :
    openNote (.value name v :: past) = (openNote past).map fun o => (o.1, o.2.push name v) := by
  simp only [openNote, Event.isValue, List.dropWhile_cons, List.takeWhile_cons, if_true]
  split
  · simp [AnnotationRecord.push, Event.pair?]
  · rfl

theorem offersTo_append (element : Option Member) (os ps : List (Option Member × AnnotationRecord)) :
    offersTo element (os ++ ps) = offersTo element os ++ offersTo element ps := by
  simp [offersTo]

end History

/-- What an event adds to a list that is read off the history, oldest event first. -/
theorem filterMap_newest {α : Type} (f : Event → Option α) (e : Event) (past : List Event) :
    (e :: past).reverse.filterMap f = past.reverse.filterMap f ++ (f e).toList := by
  rw [List.reverse_cons, List.filterMap_append]
  cases h : f e <;> simp [h]

theorem filterMap_newest_none {α : Type} {f : Event → Option α} {e : Event} (h : f e = none) (past : List Event) :
    (e :: past).reverse.filterMap f = past.reverse.filterMap f := by
  rw [filterMap_newest, h, Option.toList_none, List.append_nil]

/-! ## Annotating a record -/

namespace ClassRecord

variable (c : ClassRecord) (a : AnnotationRecord) (element : Option Member)

theorem annotate_fields : (c.annotate a element).fields.map FieldRecord.bare = c.fields.map FieldRecord.bare := by
  cases element with
  | none => rfl
  | some m =>
    cases m with
    | field i => exact map_modify_eq_map FieldRecord.bare (·.annotate a) (fun _ => rfl) c.fields i
    | method i => rfl

theorem annotate_methods : (c.annotate a element).methods.map MethodRecord.bare = c.methods.map MethodRecord.bare := by
  cases element with
  | none => rfl
  | some m =>
    cases m with
    | field i => rfl
    | method i => exact map_modify_eq_map MethodRecord.bare (·.annotate a) (fun _ => rfl) c.methods i

theorem has_annotate (other : Option Member) : (c.annotate a element).Has other ↔ c.Has other := by
  rcases element with _ | (i | i) <;> rcases other with _ | (k | k) <;> simp [annotate, Has]

theorem annotate_name : (c.annotate a element).name = c.name := by
  rcases element with _ | (i | i) <;> rfl

/-- An annotation comes to the element that it is attached to. -/
theorem annotationsOf_annotate_self (h : c.Has element) :
    (c.annotate a element).annotationsOf element = attach (c.annotationsOf element) a := by
  rcases element with _ | (i | i)
  · rfl
  · have hi : c.fields[i]? = some c.fields[i] := List.getElem?_eq_getElem h
    simp [annotate, annotationsOf, hi, FieldRecord.annotate]
  · have hi : c.methods[i]? = some c.methods[i] := List.getElem?_eq_getElem h
    simp [annotate, annotationsOf, hi, MethodRecord.annotate]

/-- No other element sees it. -/
theorem annotationsOf_annotate_ne {other : Option Member} (h : other ≠ element) :
    (c.annotate a element).annotationsOf other = c.annotationsOf other := by
  rcases element with _ | (i | i) <;> rcases other with _ | (k | k)
  all_goals first | rfl | exact absurd rfl h | skip
  · have hik : i ≠ k := fun e => h (by rw [e])
    simp [annotate, annotationsOf, hik]
  · have hik : i ≠ k := fun e => h (by rw [e])
    simp [annotate, annotationsOf, hik]

/-- A new member has no annotations, and those of the others stay. -/
theorem annotationsOf_addField (access : Access) (name descriptor : String) (signature : Option String)
    (value : Option Constant) :
    (c.addField access name descriptor signature value).annotationsOf element = c.annotationsOf element := by
  rcases element with _ | (i | i)
  · rfl
  · simp only [addField, annotationsOf, List.getElem?_append]
    split
    · rfl
    · rename_i hi
      rw [List.getElem?_eq_none (by omega : c.fields.length ≤ i)]
      cases i - c.fields.length <;> rfl
  · rfl

theorem annotationsOf_addMethod (access : Access) (name descriptor : String) (signature : Option String)
    (exceptions : Option (List String)) :
    (c.addMethod access name descriptor signature exceptions).annotationsOf element = c.annotationsOf element := by
  rcases element with _ | (i | i)
  · rfl
  · rfl
  · simp only [addMethod, annotationsOf, List.getElem?_append]
    split
    · rfl
    · rename_i hi
      rw [List.getElem?_eq_none (by omega : c.methods.length ≤ i)]
      cases i - c.methods.length <;> rfl

end ClassRecord

namespace Assembly

/-- The events that are not refused. -/
def accepted (s : Assembly) : List Event → List Event
  | [] => []
  | e :: es =>
    match s.step e with
    | .ok r => e :: accepted r.1 es
    | .error _ => accepted s es

end Assembly

/-! ## The record follows the history -/

open History

/-- What a history says of a draft. -/
structure Follows (past : List Event) (d : Draft) : Prop where
  place : d.place.member? = current past
  /-- The place is an element of the record. -/
  has : d.record.Has d.place.member?
  isOpen : d.pending.isSome = isOpen past
  /-- A closed class has nothing open. -/
  closed : d.place = .closed → d.pending = none
  openNote :
    (d.pending.bind fun p => if p.parameter.isSome then none else some (d.place.member?, p.record)) = openNote past
  fields : d.record.fields.map FieldRecord.bare = past.reverse.filterMap (Event.field? d.record.name)
  methods : d.record.methods.map MethodRecord.bare = past.reverse.filterMap (Event.method? d.record.name)
  notes : ∀ element, d.record.annotationsOf element = firstOfType (offersTo element (offers past))

/-- What a draft keeps of it once its open annotation has been settled. -/
structure Settled (past : List Event) (d : Draft) (s : Draft) : Prop where
  place : s.place = d.place
  pending : s.pending = none
  name : s.record.name = d.record.name
  has : ∀ element, s.record.Has element ↔ d.record.Has element
  fields : s.record.fields.map FieldRecord.bare = d.record.fields.map FieldRecord.bare
  methods : s.record.methods.map MethodRecord.bare = d.record.methods.map MethodRecord.bare
  notes : ∀ element, s.record.annotationsOf element =
    firstOfType (offersTo element (offers past ++ (History.openNote past).toList))

theorem settle_settled {past : List Event} {d : Draft} (h : Follows past d) : Settled past d d.settle.1 := by
  have hopen := h.openNote
  rcases d with ⟨r, place, _ | ⟨a, _ | parameter⟩⟩
  · -- nothing is open, so nothing is offered
    refine ⟨rfl, rfl, rfl, fun _ => Iff.rfl, rfl, rfl, fun element => ?_⟩
    rw [← hopen, Option.bind_none, Option.toList_none, List.append_nil]
    exact h.notes element
  · refine ⟨rfl, rfl, r.annotate_name a _, r.has_annotate a _, r.annotate_fields a _, r.annotate_methods a _,
      fun element => ?_⟩
    simp only [Option.bind_some, Option.isSome_none, Bool.false_eq_true, if_false] at hopen
    rw [← hopen, offersTo_append]
    by_cases e : element = place.member?
    · have hself := r.annotationsOf_annotate_self a element (e ▸ h.has)
      have hoffered : offersTo element (some (place.member?, a)).toList = [a] := by simp [offersTo, e]
      rw [hoffered, firstOfType_append_singleton, ← h.notes element, ← hself, e]
      rfl
    · have hother := r.annotationsOf_annotate_ne a place.member? e
      have hoffered : offersTo element (some (place.member?, a)).toList = [] := by simp [offersTo, Ne.symm e]
      rw [hoffered, List.append_nil, ← h.notes element, ← hother]
      rfl
  · -- what stands on a parameter is let go
    refine ⟨rfl, rfl, rfl, fun _ => Iff.rfl, rfl, rfl, fun element => ?_⟩
    simp only [Option.bind_some, Option.isSome_some, if_true] at hopen
    rw [← hopen, Option.toList_none, List.append_nil]
    exact h.notes element

theorem countP_isField (owner : String) (past : List Event) :
    past.countP Event.isField = (past.reverse.filterMap (Event.field? owner)).length := by
  rw [List.length_filterMap_eq_countP, List.countP_reverse]
  apply List.countP_congr
  intro e _
  cases e <;> simp [Event.isField, Event.field?]

theorem countP_isMethod (owner : String) (past : List Event) :
    past.countP Event.isMethod = (past.reverse.filterMap (Event.method? owner)).length := by
  rw [List.length_filterMap_eq_countP, List.countP_reverse]
  apply List.countP_congr
  intro e _
  cases e <;> simp [Event.isMethod, Event.method?]

section Step

variable {past : List Event} {d : Draft} (h : Follows past d) (location : String)
include h

/-- An event that declares no member and gives no value settles the draft's record and moves its place. -/
theorem follows_of_settled {e : Event} (hvalue : e.isValue = false) (hfield : e.field? d.record.name = none)
    (hmethod : e.method? d.record.name = none) {s : Draft} (hrecord : s.record = d.settle.1.record)
    (hplace : s.place.member? = current (e :: past)) (hhas : d.record.Has s.place.member?)
    (hopen : s.pending.isSome = isOpen (e :: past)) (hclosed : s.place = .closed → s.pending = none)
    (hnote : (s.pending.bind fun p => if p.parameter.isSome then none else some (s.place.member?, p.record)) =
      History.openNote (e :: past)) : Follows (e :: past) s := by
  have hs := settle_settled h
  refine ⟨hplace, ?_, hopen, hclosed, hnote, ?_, ?_, fun element => ?_⟩
  · rw [hrecord]
    exact (hs.has _).mpr hhas
  · rw [hrecord, hs.fields, hs.name, h.fields, filterMap_newest_none hfield]
  · rw [hrecord, hs.methods, hs.name, h.methods, filterMap_newest_none hmethod]
  · rw [hrecord, hs.notes element, offers]
    simp [hvalue]

/-- A declaration settles the draft, puts its member at the end of the settled record, and moves there. -/
theorem follows_declare {e : Event} {add : ClassRecord → ClassRecord} {index : ClassRecord → Member}
    (hvalue : e.isValue = false) (hplace : some (index d.settle.1.record) = current (e :: past))
    (hopen : isOpen (e :: past) = false) (hnote : History.openNote (e :: past) = none) (hname : ∀ c, (add c).name = c.name)
    (hhas : ∀ c, (add c).Has (some (index c)))
    (hfields : ∀ c,
      (add c).fields.map FieldRecord.bare = c.fields.map FieldRecord.bare ++ (e.field? c.name).toList)
    (hmethods : ∀ c,
      (add c).methods.map MethodRecord.bare = c.methods.map MethodRecord.bare ++ (e.method? c.name).toList)
    (hnotes : ∀ c element, (add c).annotationsOf element = c.annotationsOf element) :
    Follows (e :: past) (d.declare location add index).1 := by
  have hs := settle_settled h
  have hrecord : (d.declare location add index).1.record = add d.settle.1.record := rfl
  have hpending : (d.declare location add index).1.pending = none := hs.pending
  refine ⟨hplace, ?_, ?_, fun _ => hpending, ?_, ?_, ?_, fun element => ?_⟩
  · exact hhas d.settle.1.record
  · rw [hpending, hopen, Option.isSome_none]
  · rw [hpending, hnote, Option.bind_none]
  · rw [hrecord, hfields, hname, hs.fields, hs.name, h.fields, filterMap_newest]
  · rw [hrecord, hmethods, hname, hs.methods, hs.name, h.methods, filterMap_newest]
  · rw [hrecord, hnotes, hs.notes element, offers]
    simp [hvalue]

theorem follows_field (access : Access) (name descriptor : String) (signature : Option String)
    (value : Option Constant) :
    Follows (.field access name descriptor signature value :: past)
      (d.declare location (·.addField access name descriptor signature value) fun c => .field c.fields.length).1 := by
  have hs := settle_settled h
  have hcount : d.settle.1.record.fields.length = past.countP Event.isField := by
    rw [countP_isField d.record.name, ← h.fields, ← hs.fields, List.length_map]
  refine follows_declare h location rfl (congrArg (fun n => some (Member.field n)) hcount) rfl rfl (fun _ => rfl) ?_
    (fun _ => List.map_append) (fun c => (List.append_nil _).symm) fun c element => c.annotationsOf_addField element ..
  intro c
  show c.fields.length < (c.fields ++ [_]).length
  simp

theorem follows_method (access : Access) (name descriptor : String) (signature : Option String)
    (exceptions : Option (List String)) :
    Follows (.method access name descriptor signature exceptions :: past)
      (d.declare location (·.addMethod access name descriptor signature exceptions) fun c =>
        .method c.methods.length).1 := by
  have hs := settle_settled h
  have hcount : d.settle.1.record.methods.length = past.countP Event.isMethod := by
    rw [countP_isMethod d.record.name, ← h.methods, ← hs.methods, List.length_map]
  refine follows_declare h location rfl (congrArg (fun n => some (Member.method n)) hcount) rfl rfl (fun _ => rfl) ?_
    (fun c => (List.append_nil _).symm) (fun _ => List.map_append) fun c element => c.annotationsOf_addMethod element ..
  intro c
  show c.methods.length < (c.methods ++ [_]).length
  simp

theorem follows_annotationStart (descriptor : String) (visible : Bool) (hplace : d.place ≠ .closed) :
    Follows (.annotationStart descriptor visible :: past)
      (d.startNote location (AnnotationRecord.ofDescriptor descriptor visible) none).1 := by
  have hs := settle_settled h
  have hstay : d.settle.1.place.member? = current past := by rw [hs.place, h.place]
  refine follows_of_settled h rfl rfl rfl rfl hstay ?_ rfl ?_ ?_
  · show d.record.Has d.settle.1.place.member?
    rw [hs.place]
    exact h.has
  · exact fun hc => absurd (hs.place.symm.trans hc) hplace
  · exact congrArg (fun m => some (m, AnnotationRecord.ofDescriptor descriptor visible)) hstay

theorem follows_parameterStart (index : UInt8) (descriptor : String) (visible : Bool) (hplace : d.place ≠ .closed) :
    Follows (.parameterStart index descriptor visible :: past)
      (d.startNote location (AnnotationRecord.ofDescriptor descriptor visible) (some index)).1 := by
  have hs := settle_settled h
  have hstay : d.settle.1.place.member? = current past := by rw [hs.place, h.place]
  refine follows_of_settled h rfl rfl rfl rfl hstay ?_ rfl ?_ rfl
  · show d.record.Has d.settle.1.place.member?
    rw [hs.place]
    exact h.has
  · exact fun hc => absurd (hs.place.symm.trans hc) hplace

/-- A value is gathered by the open annotation, or lost; the record does not change. -/
theorem follows_value (name : String) (v : Value) :
    Follows (.value name v :: past) (d.pushValue location name v).1 := by
  have hopen := h.isOpen
  have hnote := h.openNote
  rcases d with ⟨r, place, _ | ⟨a, parameter⟩⟩
  · refine ⟨h.place, h.has, hopen, fun _ => rfl, ?_, ?_, ?_, h.notes⟩
    · rw [openNote_value, ← hnote]
      rfl
    · exact h.fields.trans (filterMap_newest_none rfl past).symm
    · exact h.methods.trans (filterMap_newest_none rfl past).symm
  · refine ⟨h.place, h.has, hopen, fun hc => absurd (h.closed hc) (by simp), ?_, ?_, ?_, h.notes⟩
    · rw [openNote_value, ← hnote]
      cases parameter <;> rfl
    · exact h.fields.trans (filterMap_newest_none rfl past).symm
    · exact h.methods.trans (filterMap_newest_none rfl past).symm

/-- An end settles the open annotation, if there is one, and else leaves the place. -/
theorem follows_finish : Follows (.finish :: past) (d.finish location).1 := by
  have hs := settle_settled h
  have hopen := h.isOpen
  have hstay := h.place
  have hhas := h.has
  rcases d with ⟨r, place, _ | p⟩
  · have hclose : current (.finish :: past) = none := by simp [current, ← hopen]
    rcases place with _ | m | _
    · exact follows_of_settled h rfl rfl rfl rfl hclose.symm trivial rfl (fun _ => rfl) rfl
    · exact follows_of_settled h rfl rfl rfl rfl hclose.symm trivial rfl (fun _ => rfl) rfl
    · exact follows_of_settled h rfl rfl rfl rfl hclose.symm trivial rfl (fun _ => rfl) rfl
  · have hback : current (.finish :: past) = current past := by simp [current, ← hopen]
    refine follows_of_settled h rfl rfl rfl rfl ?_ ?_ ?_ (fun _ => hs.pending) ?_
    · exact (congrArg Place.member? hs.place).trans (hstay.trans hback.symm)
    · exact (congrArg Place.member? hs.place) ▸ hhas
    · exact congrArg Option.isSome hs.pending
    · exact congrArg (Option.bind · _) hs.pending

end Step

/-- Nothing was taken before the header came; after it the draft follows the history. -/
def Told (past : List Event) (s : Assembly) : Prop :=
  match s.draft with
  | none => past = []
  | some d => Follows past d

theorem ok_of_inBody {s t : Assembly} {callback : Callback} {change : Draft → Draft × List Notice}
    {notices : List Notice} (hstep : s.inBody callback change = .ok (t, notices)) :
    ∃ d, s.draft = some d ∧ d.place ≠ .closed ∧ t = { s with draft := some (change d).1 } ∧
      notices = (change d).2 := by
  unfold Assembly.inBody at hstep
  cases hd : s.draft with
  | none => simp [hd] at hstep
  | some d =>
    by_cases hclosed : d.place = .closed
    · simp [hd, hclosed] at hstep
    · simp only [hd, hclosed, if_false, Except.ok.injEq, Prod.mk.injEq] at hstep
      exact ⟨d, rfl, hclosed, hstep.1.symm, hstep.2.symm⟩

theorem told_inBody {past : List Event} {s t : Assembly} {e : Event} {callback : Callback}
    {change : Draft → Draft × List Notice} {notices : List Notice} (h : Told past s)
    (hstep : s.inBody callback change = .ok (t, notices))
    (hchange : ∀ d, d.place ≠ .closed → Follows past d → Follows (e :: past) (change d).1) : Told (e :: past) t := by
  obtain ⟨d, hd, hplace, rfl, -⟩ := ok_of_inBody hstep
  simp only [Told, hd] at h
  exact hchange d hplace h

/-- An event that is taken becomes the newest of the history. -/
theorem told_step {past : List Event} {s t : Assembly} {e : Event} {notices : List Notice} (h : Told past s)
    (hstep : s.step e = .ok (t, notices)) : Told (e :: past) t := by
  cases e with
  | header access name super interfaces =>
    cases hd : s.draft with
    | some d => simp [Assembly.step, hd] at hstep
    | none =>
      simp only [Told, hd] at h
      simp only [Assembly.step, hd, Except.ok.injEq, Prod.mk.injEq] at hstep
      rw [← hstep.1, h]
      exact ⟨rfl, trivial, rfl, fun _ => rfl, rfl, rfl, rfl, fun element => by rcases element with _ | (i | i) <;> rfl⟩
  | field access name descriptor signature value =>
    exact told_inBody h hstep fun d _ hd => follows_field hd s.location access name descriptor signature value
  | method access name descriptor signature exceptions =>
    exact told_inBody h hstep fun d _ hd => follows_method hd s.location access name descriptor signature exceptions
  | annotationStart descriptor visible =>
    exact told_inBody h hstep fun d hplace hd => follows_annotationStart hd s.location descriptor visible hplace
  | parameterStart index descriptor visible =>
    exact told_inBody h hstep fun d hplace hd => follows_parameterStart hd s.location index descriptor visible hplace
  | value name v => exact told_inBody h hstep fun d _ hd => follows_value hd s.location name v
  | finish =>
    cases hd : s.draft with
    | none => simp [Assembly.step, hd] at hstep
    | some d =>
      simp only [Told, hd] at h
      simp only [Assembly.step, hd, Except.ok.injEq, Prod.mk.injEq] at hstep
      rw [← hstep.1]
      exact follows_finish h s.location

/-- Along a run, what is refused is left out of the history and leaves the state as it was. -/
theorem told_run (es : List Event) {past : List Event} {s : Assembly} (h : Told past s) :
    Told ((s.accepted es).reverse ++ past) (s.run es) := by
  induction es generalizing s past with
  | nil => exact h
  | cons e es ih =>
    cases hstep : s.step e with
    | error err =>
      have := ih h
      simpa [Assembly.accepted, Assembly.run, hstep] using this
    | ok r =>
      have := ih (told_step h hstep)
      simpa [Assembly.accepted, Assembly.run, hstep] using this

/-- After any events in any order, the ones that were taken say what the record holds: its fields are the fields they
    declared, its methods the methods they declared, each in order, and an element has of the annotations that are over
    those that were opened while it was at hand, each with the values it was given while open, the first of each type
    and no other. -/
theorem record_eq_history (location : String) (bytecode : Option Bytes) (es : List Event) :
    let past := ((Assembly.start location bytecode).accepted es).reverse
    match ((Assembly.start location bytecode).run es).draft with
    | none => past = []
    | some d =>
      d.record.fields.map FieldRecord.bare = past.reverse.filterMap (Event.field? d.record.name) ∧
        d.record.methods.map MethodRecord.bare = past.reverse.filterMap (Event.method? d.record.name) ∧
        ∀ element, d.record.annotationsOf element = firstOfType (offersTo element (offers past)) := by
  have hstart : Told [] (Assembly.start location bytecode) := rfl
  have hrun := told_run es hstart
  rw [List.append_nil] at hrun
  unfold Told at hrun
  intro past
  split at hrun
  · exact hrun
  · exact ⟨hrun.fields, hrun.methods, hrun.notes⟩

end ClassAtlas
