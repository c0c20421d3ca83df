import ClassAtlas.ClassFile.Read
import ClassAtlas.Proofs.Elements

/-
  ClassAtlas.Proofs.Replay — a class file told as a stream comes out as its record.

  `ClassFile.events` says nowhere what a value or an end belongs to; the assembly has to
  know. Between the parts of a class file it stands at one place with nothing open
  (`between`), and each part brings it back there: an annotation to the place where it was
  opened, a member to the body. So the stream is followed part by part (`Smooth`), and
  what is left at the end is `ClassFile.record`, written down without any event.

  `Smooth` also looks at the notices: a balanced stream never calls for a repair.
-/

namespace ClassAtlas

/-- The notices of a stream that was out of shape. The other two tell of an annotation let go. -/
def Notice.isRepair : Notice → Bool
  | valueDropped _ _ => true
  | parameterNoteDropped _ _ _ => false
  | duplicateDropped _ _ => false
  | annotationLeftOpen _ => true
  | memberLeftOpen _ => true
  | annotationCutShort _ => true
  | endAfterClose _ => true

namespace Assembly

/-- Take the events in order, up to the first that is refused: the last state, and every notice on the way. -/
def tell (s : Assembly) : List Event → Except AssemblyError (Assembly × List Notice)
  | [] => .ok (s, [])
  | e :: es =>
    match s.step e with
    | .error err => .error err
    | .ok (t, notices) => (t.tell es).map fun r => (r.1, notices ++ r.2)

/-- The events lead from one state to another; none is refused, and nothing is repaired. -/
inductive Smooth : Assembly → List Event → Assembly → Prop
  | nil (s : Assembly) : Smooth s [] s
  | cons {s t u : Assembly} {e : Event} {es : List Event} {notices : List Notice} : s.step e = .ok (t, notices) →
      (∀ n ∈ notices, n.isRepair = false) → Smooth t es u → Smooth s (e :: es) u

namespace Smooth

variable {s t u : Assembly} {es fs : List Event}

/-- An event that is taken without a notice. -/
theorem silent {e : Event} (hstep : s.step e = .ok (t, [])) (h : Smooth t es u) : Smooth s (e :: es) u :=
  cons hstep (by simp) h

theorem append (h : Smooth s es t) (h' : Smooth t fs u) : Smooth s (es ++ fs) u := by
  induction h with
  | nil s => exact h'
  | cons hstep hquiet _ ih => exact cons hstep hquiet (ih h')

/-- One part after the other, where each leads from a state to the next of its kind. -/
theorem flatMap {α σ : Type} {state : σ → Assembly} {part : α → List Event} {next : σ → α → σ}
    (h : ∀ x a, Smooth (state x) (part a) (state (next x a))) (as : List α) (x : σ) :
    Smooth (state x) (as.flatMap part) (state (as.foldl next x)) := by
  induction as generalizing x with
  | nil => exact nil _
  | cons a as ih => exact (h x a).append (ih (next x a))

theorem tell_eq (h : Smooth s es t) :
    ∃ notices, s.tell es = .ok (t, notices) ∧ ∀ n ∈ notices, n.isRepair = false := by
  induction h with
  | nil s => exact ⟨[], rfl, by simp⟩
  | @cons s t u e es first hstep hquiet _ ih =>
    obtain ⟨rest, htell, hrest⟩ := ih
    refine ⟨first ++ rest, by simp [tell, hstep, htell, Except.map], fun n hn => ?_⟩
    rcases List.mem_append.mp hn with hn | hn
    · exact hquiet n hn
    · exact hrest n hn

/-- A receiver that keeps no notices comes to the same state. -/
theorem deliver_eq (h : Smooth s es t) : deliver receive s es = (t, none) := by
  induction h with
  | nil s => rfl
  | cons hstep _ _ ih => simp [deliver, receive, hstep, Except.map, ih]

end Smooth

/-! ## Annotations -/

/-- The state between two parts of a class file: nothing is open. -/
def between (location : String) (place : Place) (r : ClassRecord) : Assembly :=
  ⟨location, none, some ⟨r, place, none⟩⟩

variable (location : String) (place : Place)

/-- The values of an open annotation are gathered behind those it has. -/
theorem smooth_values (hplace : place ≠ .closed) (r : ClassRecord) (parameter : Option UInt8)
    (pairs : List (String × Value)) (a : AnnotationRecord) :
    Smooth ⟨location, none, some ⟨r, place, some ⟨a, parameter⟩⟩⟩ (pairs.map fun p => .value p.1 p.2)
      ⟨location, none, some ⟨r, place, some ⟨{ a with params := a.params ++ pairs }, parameter⟩⟩⟩ := by
  induction pairs generalizing a with
  | nil =>
    cases a
    rw [List.append_nil]
    exact .nil _
  | cons p pairs ih =>
    have hrest := ih (a.push p.1 p.2)
    simp only [AnnotationRecord.push, List.append_assoc, List.singleton_append] at hrest
    exact .silent (by simp [step, inBody, Draft.pushValue, AnnotationRecord.push, hplace]) hrest

theorem smooth_note (hplace : place ≠ .closed) (r : ClassRecord) (a : AnnotationInfo) :
    Smooth (between location place r) a.events (between location place (r.annotate a.toRecord place.member?)) := by
  have hstart : (between location place r).step (.annotationStart a.descriptor a.visible) =
      .ok (⟨location, none,
        some ⟨r, place, some ⟨AnnotationRecord.ofDescriptor a.descriptor a.visible, none⟩⟩⟩, []) := by
    simp [between, step, inBody, Draft.startNote, Draft.settle, hplace]
  refine .silent hstart ((smooth_values location place hplace r none a.pairs _).append ?_)
  refine .cons (by simp only [step, Draft.finish, Draft.settle]; rfl) ?_ (.nil _)
  intro n hn
  split at hn
  · rw [List.mem_singleton.mp hn]; rfl
  · cases hn

/-- An annotation of a parameter leaves the record as it was. -/
theorem smooth_parameterNote (hplace : place ≠ .closed) (r : ClassRecord) (p : UInt8 × AnnotationInfo) :
    Smooth (between location place r) (p.2.eventsOn p.1) (between location place r) := by
  have hstart : (between location place r).step (.parameterStart p.1 p.2.descriptor p.2.visible) =
      .ok (⟨location, none,
        some ⟨r, place, some ⟨AnnotationRecord.ofDescriptor p.2.descriptor p.2.visible, some p.1⟩⟩⟩, []) := by
    simp [between, step, inBody, Draft.startNote, Draft.settle, hplace]
  refine .silent hstart ((smooth_values location place hplace r (some p.1) p.2.pairs _).append ?_)
  refine .cons (by simp only [step, Draft.finish, Draft.settle]; rfl) ?_ (.nil _)
  intro n hn
  rw [List.mem_singleton.mp hn]
  rfl

theorem smooth_notes (hplace : place ≠ .closed) (r : ClassRecord) (as : List AnnotationInfo) :
    Smooth (between location place r) (as.flatMap AnnotationInfo.events)
      (between location place ((as.map AnnotationInfo.toRecord).foldl (fun r a => r.annotate a place.member?) r)) := by
  rw [List.foldl_map]
  exact .flatMap (smooth_note location place hplace) as r

theorem smooth_parameterNotes (hplace : place ≠ .closed) (r : ClassRecord)
    (ps : List (UInt8 × AnnotationInfo)) :
    Smooth (between location place r) (ps.flatMap fun p => AnnotationInfo.eventsOn p.1 p.2)
      (between location place r) := by
  induction ps with
  | nil => exact .nil _
  | cons p ps ih => exact (smooth_parameterNote location place hplace r p).append ih

/-! ## Members -/

/-- The annotations of the last field gather on that field. -/
theorem foldl_annotate_lastField (r : ClassRecord) (as : List AnnotationRecord) (f : FieldRecord) :
    as.foldl (fun r' a => r'.annotate a (some (.field r.fields.length))) { r with fields := r.fields ++ [f] } =
      { r with fields := r.fields ++ [{ f with annotations := as.foldl attach f.annotations }] } := by
  induction as generalizing f with
  | nil => rfl
  | cons a as ih =>
    have hlast : ({ r with fields := r.fields ++ [f] } : ClassRecord).annotate a (some (.field r.fields.length)) =
        { r with fields := r.fields ++ [f.annotate a] } := by
      simp [ClassRecord.annotate, List.modify_eq_take_drop]
    rw [List.foldl_cons, hlast, ih]
    rfl

theorem foldl_annotate_lastMethod (r : ClassRecord) (as : List AnnotationRecord) (m : MethodRecord) :
    as.foldl (fun r' a => r'.annotate a (some (.method r.methods.length))) { r with methods := r.methods ++ [m] } =
      { r with methods := r.methods ++ [{ m with annotations := as.foldl attach m.annotations }] } := by
  induction as generalizing m with
  | nil => rfl
  | cons a as ih =>
    have hlast : ({ r with methods := r.methods ++ [m] } : ClassRecord).annotate a (some (.method r.methods.length)) =
        { r with methods := r.methods ++ [m.annotate a] } := by
      simp [ClassRecord.annotate, List.modify_eq_take_drop]
    rw [List.foldl_cons, hlast, ih]
    rfl

theorem foldl_annotate_class (as : List AnnotationRecord) (r : ClassRecord) :
    as.foldl (fun r' a => r'.annotate a none) r = { r with annotations := as.foldl attach r.annotations } := by
  induction as generalizing r with
  | nil => rfl
  | cons a as ih => rw [List.foldl_cons, ih]; rfl

/-- A field's events put the field at the end of the record's. -/
theorem smooth_field (r : ClassRecord) (m : MemberInfo) :
    Smooth (between location .body r) m.fieldEvents
      (between location .body { r with fields := r.fields ++ [m.field r.name] }) := by
  let here : Place := .member (.field r.fields.length)
  let declared := r.addField m.access m.name m.descriptor m.attributes.signature m.attributes.constant
  have hnotes := smooth_notes location here (by simp [here]) declared m.attributes.annotations
  have hend : (m.attributes.annotations.map AnnotationInfo.toRecord).foldl
    (fun r' a => r'.annotate a here.member?) declared =
      { r with fields := r.fields ++ [m.field r.name] } := by
    simp only [here, declared, Place.member?, ClassRecord.addField, FieldRecord.declared,
      foldl_annotate_lastField, foldl_attach_nil]
    rfl
  rw [hend] at hnotes
  exact .silent rfl (hnotes.append (.silent rfl (.nil _)))

/-- A method's events put the method at the end of the record's; those of its parameters change nothing. -/
theorem smooth_method (r : ClassRecord) (m : MemberInfo) :
    Smooth (between location .body r) m.methodEvents
      (between location .body { r with methods := r.methods ++ [m.method r.name] }) := by
  let here : Place := .member (.method r.methods.length)
  let declared := r.addMethod m.access m.name m.descriptor m.attributes.signature m.attributes.exceptions
  have hnotes := smooth_notes location here (by simp [here]) declared m.attributes.annotations
  have hend : (m.attributes.annotations.map AnnotationInfo.toRecord).foldl
    (fun r' a => r'.annotate a here.member?) declared =
      { r with methods := r.methods ++ [m.method r.name] } := by
    simp only [here, declared, Place.member?, ClassRecord.addMethod, MethodRecord.declared,
      foldl_annotate_lastMethod, foldl_attach_nil]
    rfl
  rw [hend] at hnotes
  have hparameters := smooth_parameterNotes location here (by simp [here])
    { r with methods := r.methods ++ [m.method r.name] } m.attributes.parameterAnnotations
  exact .silent rfl ((hnotes.append hparameters).append (.silent rfl (.nil _)))

/-! ## The class -/

theorem foldl_fields (ms : List MemberInfo) (r : ClassRecord) :
    ms.foldl (fun r m => { r with fields := r.fields ++ [m.field r.name] }) r =
      { r with fields := r.fields ++ ms.map (·.field r.name) } := by
  induction ms generalizing r with
  | nil => simp
  | cons m ms ih => simp [ih]

theorem foldl_methods (ms : List MemberInfo) (r : ClassRecord) :
    ms.foldl (fun r m => { r with methods := r.methods ++ [m.method r.name] }) r =
      { r with methods := r.methods ++ ms.map (·.method r.name) } := by
  induction ms generalizing r with
  | nil => simp
  | cons m ms ih => simp [ih]

/-- A whole class, from a new assembly to the closed one that holds its record. -/
theorem smooth_events (c : ClassFile) (bytecode : Option Bytes) :
    Smooth (start location bytecode) c.events (between location .closed (c.record location bytecode)) := by
  have hnotes := smooth_notes location .body (by simp)
    { ClassRecord.new c.access c.name c.super c.interfaces location with bytecode := bytecode } c.attributes.annotations
  have hfields := Smooth.flatMap (smooth_field location) c.fields
  have hmethods := Smooth.flatMap (smooth_method location) c.methods
  simp only [Place.member?, foldl_annotate_class, ClassRecord.new, foldl_attach_nil] at hnotes
  simp only [foldl_fields] at hfields
  simp only [foldl_methods] at hmethods
  have hparts := (hnotes.append (hfields _)).append (hmethods _)
  exact .silent rfl (.append hparts (.silent rfl (.nil _)))

end Assembly

/-- Decoding a unit is reading it and writing down what was read: it is malformed or gives the record, and is never
    refused. -/
theorem decodeUnit_eq (location : String) (retain : Bool) (bytes : Bytes) :
    decodeUnit location retain bytes =
      match ClassFile.parse bytes with
      | .error e => .error (.malformed e)
      | .ok c => .ok (c.version, c.record location (if retain then some bytes else none)) := by
  unfold decodeUnit readClass
  cases hparse : ClassFile.parse bytes with
  | error e => rfl
  | ok c =>
    have hdeliver := (Assembly.smooth_events location c (if retain then some bytes else none)).deliver_eq
    simp only [hdeliver]
    rfl

/-- What comes of a unit: the decoder's error as it is; or else the record that is computed from the class file without
    any events, with the bytes just if they are to be kept, and on the way no notice of a stream out of shape. -/
theorem decodeUnit_eq_record (location : String) (retain : Bool) (bytes : Bytes) :
    match ClassFile.parse bytes with
    | .error e => decodeUnit location retain bytes = .error (.malformed e)
    | .ok c =>
      decodeUnit location retain bytes =
        .ok (c.version, c.record location (if retain then some bytes else none)) ∧
        ∃ s notices,
          (Assembly.start location (if retain then some bytes else none)).tell c.events = .ok (s, notices) ∧
          s.result = .ok (c.record location (if retain then some bytes else none)) ∧
          ∀ n ∈ notices, n.isRepair = false := by
  rw [decodeUnit_eq]
  cases hparse : ClassFile.parse bytes with
  | error e => rfl
  | ok c =>
    obtain ⟨notices, htell, hquiet⟩ := (Assembly.smooth_events location c (if retain then some bytes else none)).tell_eq
    exact ⟨rfl, _, notices, htell, rfl, hquiet⟩

end ClassAtlas
