import ClassAtlas.Assembly

/-
  ClassAtlas.Proofs.Workbench — an assembly worked on by one small change after another.

  `Assembly.step` answers an event with a new state or with a refusal. Nothing has been
  changed when it refuses: there is no state in its refusal that could have been. Here the
  same events are taken by changing what lies on a bench, piece by piece: the open
  annotation is taken off before it is attached, a scope is left before the next member is
  declared. What was changed before a refusal would stay changed, so here it is a fact that
  nothing was.

  The scopes that are open lie in a stack, the class at the bottom; notices are kept in
  order. `Workbench.lay` puts an assembly on the bench. Every event then does on the bench
  what it does to the assembly, and lets the bench be if it is refused (`call_lay`).
-/

namespace ClassAtlas

structure Workbench where
  location : String
  bytecode : Option Bytes
  record : Option ClassRecord
  /-- The innermost scope first; none is the class itself. -/
  scopes : List (Option Member)
  pending : Option Pending
  closed : Bool
  notices : List Notice

namespace Workbench

/-- A refusal leaves the bench as it is at that moment. -/
abbrev Work := EStateM AssemblyError Workbench

def note (n : Notice) : Work Unit := modify fun w => { w with notices := w.notices ++ [n] }

/-- Go on only if the class has been declared and not been closed. -/
def ensureOpen (callback : Callback) : Work Unit := do
  let w ← get
  if w.record.isNone || w.closed then throw (.outsideBody callback w.location)

/-- Take the open annotation and attach it to the innermost scope. False if there is none. -/
def settle : Work Bool := do
  let w ← get
  match w.pending with
  | none => return false
  | some p =>
    set { w with pending := none }
    match w.record with
    | none => return true
    | some r =>
      match p.parameter with
      | some index =>
        note (.parameterNoteDropped p.record.name r.name index)
        return true
      | none =>
        let scope := w.scopes.head?.join
        modify fun w => { w with record := some (r.annotate p.record scope) }
        if isPresent (r.annotationsOf scope) p.record.name then note (.duplicateDropped p.record.name r.name)
        return true

/-- Leave whatever member is open. -/
def leaveMember : Work Unit := do
  if ← settle then note (.annotationLeftOpen (← get).location)
  let w ← get
  match w.scopes with
  | some _ :: outer =>
    note (.memberLeftOpen w.location)
    modify fun w => { w with scopes := outer }
  | _ => pure ()

def declare (callback : Callback) (add : ClassRecord → ClassRecord) (index : ClassRecord → Member) : Work Unit := do
  ensureOpen callback
  leaveMember
  let w ← get
  match w.record with
  | none => throw (.outsideBody callback w.location)
  | some r => set { w with record := some (add r), scopes := some (index r) :: w.scopes }

def startNote (callback : Callback) (a : AnnotationRecord) (parameter : Option UInt8) : Work Unit := do
  ensureOpen callback
  if ← settle then note (.annotationCutShort (← get).location)
  modify fun w => { w with pending := some ⟨a, parameter⟩ }

def header (access : Access) (name : String) (super : Option String) (interfaces : List String) : Work Unit := do
  let w ← get
  match w.record with
  | some r => throw (.secondClass r.name w.location)
  | none =>
    set { w with bytecode := none }
    let record := { ClassRecord.new access name super interfaces w.location with bytecode := w.bytecode }
    modify fun w => { w with record := some record, scopes := none :: w.scopes }

def pushValue (name : String) (v : Value) : Work Unit := do
  ensureOpen .value
  let w ← get
  match w.pending with
  | some p => set { w with pending := some { p with record := p.record.push name v } }
  | none => note (.valueDropped w.location name)

def finish : Work Unit := do
  let w ← get
  if w.record.isNone then throw (.outsideBody .finish w.location)
  if ← settle then return
  let w ← get
  match w.scopes with
  | none :: outer => set { w with scopes := outer, closed := true }
  | some _ :: outer => set { w with scopes := outer }
  | [] => note (.endAfterClose w.location)

def call : Event → Work Unit
  | .header access name super interfaces => header access name super interfaces
  | .field access name descriptor signature value =>
    declare .field (·.addField access name descriptor signature value) fun c => .field c.fields.length
  | .method access name descriptor signature exceptions =>
    declare .method (·.addMethod access name descriptor signature exceptions) fun c =>
      .method c.methods.length
  | .annotationStart descriptor visible =>
    startNote .annotationStart (AnnotationRecord.ofDescriptor descriptor visible) none
  | .parameterStart index descriptor visible =>
    startNote .parameterStart (AnnotationRecord.ofDescriptor descriptor visible) (some index)
  | .value name v => pushValue name v
  | .finish => finish

def start (location : String) (bytecode : Option Bytes) : Workbench := ⟨location, bytecode, none, [], none, false, []⟩

/-- The finished record; a class that was never declared or never closed yields none. -/
def result (w : Workbench) : Except AssemblyError ClassRecord :=
  match w.record with
  | none => .error (.outsideBody .result w.location)
  | some r => if w.closed then .ok r else .error (.unfinished w.location)

/-! ## An assembly on the bench -/

/-- The scopes that are open at a place. -/
def scopesAt : Place → List (Option Member)
  | .body => [none]
  | .member m => [some m, none]
  | .closed => []

def lay (s : Assembly) (notices : List Notice) : Workbench where
  location := s.location
  bytecode := s.bytecode
  record := s.draft.map (·.record)
  scopes := (s.draft.map fun d => scopesAt d.place).getD []
  pending := s.draft.bind (·.pending)
  closed := s.isComplete
  notices := notices

/-- What is on the bench after an answer to an event that came when `s` was. -/
def laid (s : Assembly) (notices : List Notice) :
    Except AssemblyError (Assembly × List Notice) → EStateM.Result AssemblyError Workbench Unit
  | .ok (t, more) => .ok () (lay t (notices ++ more))
  | .error e => .error e (lay s notices)

theorem head_scopesAt (place : Place) : (scopesAt place).head?.join = place.member? := by
  cases place <;> rfl

section Draft

variable (location : String) (bytecode : Option Bytes) (d : Draft) (notices : List Notice)

abbrev layDraft : Workbench := lay ⟨location, bytecode, some d⟩ notices

theorem settle_lay :
    settle.run (layDraft location bytecode d notices) =
      .ok d.pending.isSome (layDraft location bytecode d.settle.1 (notices ++ d.settle.2)) := by
  rcases d with ⟨r, place, _ | ⟨a, _ | index⟩⟩
  · simp [settle, lay, Draft.settle]
  · have hscope := head_scopesAt place
    by_cases h : isPresent (r.annotationsOf place.member?) a.name = true
    · simp [-bind_pure_comp, settle, note, lay, Draft.settle, hscope, h, Assembly.isComplete]
    · simp [-bind_pure_comp, settle, note, lay, Draft.settle, hscope, h, Assembly.isComplete]
  · rfl

theorem settle_place : d.settle.1.place = d.place := by
  rcases d with ⟨r, place, _ | ⟨a, _ | index⟩⟩ <;> rfl

theorem leaveMember_lay (hopen : d.place ≠ .closed) :
    leaveMember.run (layDraft location bytecode d notices) =
      .ok () (layDraft location bytecode (d.leaveMember location).1 (notices ++ (d.leaveMember location).2)) := by
  have hplace := settle_place d
  simp only [leaveMember, EStateM.run_bind, settle_lay, Draft.leaveMember]
  generalize d.settle = settled at hplace ⊢
  obtain ⟨⟨r, place, pending⟩, more⟩ := settled
  obtain rfl : place = d.place := hplace
  cases hd : d.place with
  | body => cases d.pending.isSome <;> simp [-bind_pure_comp, note, lay, scopesAt, Assembly.isComplete, Place.member?]
  | member m =>
    have hopen' : (Place.member m == Place.closed) = (Place.body == Place.closed) := rfl
    cases d.pending.isSome <;>
      simp [-bind_pure_comp, note, lay, scopesAt, Assembly.isComplete, Place.member?, hopen']
  | closed => exact absurd hd hopen

theorem finish_lay :
    finish.run (layDraft location bytecode d notices) =
      .ok () (layDraft location bytecode (d.finish location).1 (notices ++ (d.finish location).2)) := by
  have hsettle := settle_lay location bytecode d notices
  have hdeclared : (layDraft location bytecode d notices).record.isNone = false := rfl
  simp only [finish, EStateM.run_bind, EStateM.run_get, hdeclared, Bool.false_eq_true, if_false, hsettle]
  rcases d with ⟨r, place, _ | p⟩
  · cases place with
    | body => simp [note, lay, Draft.finish, Draft.settle, scopesAt, Assembly.isComplete]
    | member m =>
      have hopen : (Place.member m == Place.closed) = (Place.body == Place.closed) := rfl
      simp [note, lay, Draft.finish, Draft.settle, scopesAt, Assembly.isComplete, hopen]
    | closed => simp [note, lay, Draft.finish, Draft.settle, scopesAt, Assembly.isComplete]
  · rfl

end Draft

/-! ## Events -/

variable (s : Assembly) (notices : List Notice)

/-- The guard comes first. If it lets the event pass, the class is open; if not, nothing more is done. -/
theorem inBody_lay {callback : Callback} {rest : Work Unit} {change : Draft → Draft × List Notice}
    (hrest : ∀ d : Draft, d.place ≠ .closed →
      rest.run (layDraft s.location s.bytecode d notices) =
        .ok () (layDraft s.location s.bytecode (change d).1 (notices ++ (change d).2))) :
    (do ensureOpen callback; rest).run (lay s notices) = laid s notices (s.inBody callback change) := by
  rcases s with ⟨location, bytecode, _ | d⟩
  · rfl
  · rw [EStateM.run_bind, Assembly.inBody]
    by_cases hclosed : d.place = .closed
    · have hrefused : (ensureOpen callback).run (layDraft location bytecode d notices) =
          .error (.outsideBody callback location) (layDraft location bytecode d notices) := by
        simp [ensureOpen, lay, Assembly.isComplete, hclosed]
      rw [hrefused]
      simp [hclosed, laid]
    · have hpassed : (ensureOpen callback).run (layDraft location bytecode d notices) =
          .ok () (layDraft location bytecode d notices) := by
        simp [ensureOpen, lay, Assembly.isComplete, hclosed]
      rw [hpassed]
      simp [hclosed, laid, hrest d hclosed]

theorem declare_lay (callback : Callback) (add : ClassRecord → ClassRecord) (index : ClassRecord → Member) :
    (declare callback add index).run (lay s notices) =
      laid s notices (s.inBody callback (·.declare s.location add index)) := by
  refine inBody_lay s notices fun d hopen => ?_
  have hplace : (d.leaveMember s.location).1.place = .body := rfl
  rw [EStateM.run_bind, leaveMember_lay s.location s.bytecode d notices hopen, Draft.declare]
  generalize d.leaveMember s.location = left at hplace ⊢
  obtain ⟨⟨r, place, pending⟩, more⟩ := left
  obtain rfl : place = .body := hplace
  rfl

theorem startNote_lay (callback : Callback) (a : AnnotationRecord) (parameter : Option UInt8) :
    (startNote callback a parameter).run (lay s notices) =
      laid s notices (s.inBody callback (·.startNote s.location a parameter)) := by
  refine inBody_lay s notices fun d _ => ?_
  rw [EStateM.run_bind, settle_lay, Draft.startNote]
  obtain ⟨⟨r, place, pending⟩, more⟩ := d.settle
  cases d.pending.isSome with
  | true => simp [note, lay, Assembly.isComplete]
  | false => simp [lay, Assembly.isComplete]

theorem pushValue_lay (name : String) (v : Value) :
    (pushValue name v).run (lay s notices) = laid s notices (s.inBody .value (·.pushValue s.location name v)) := by
  refine inBody_lay s notices fun d _ => ?_
  rcases d with ⟨r, place, _ | p⟩
  · rfl
  · simp [lay, Draft.pushValue, Assembly.isComplete]

/-- On the bench an event does what it does to the assembly. If it is refused it does nothing. -/
theorem call_lay (e : Event) : (call e).run (lay s notices) = laid s notices (s.step e) := by
  cases e with
  | header access name super interfaces =>
    rcases s with ⟨location, bytecode, _ | d⟩
    · simp [call, header, lay, laid, Assembly.step, scopesAt, Assembly.isComplete]
    · rfl
  | field access name descriptor signature value => exact declare_lay s notices .field _ _
  | method access name descriptor signature exceptions => exact declare_lay s notices .method _ _
  | annotationStart descriptor visible => exact startNote_lay s notices .annotationStart _ none
  | parameterStart index descriptor visible => exact startNote_lay s notices .parameterStart _ (some index)
  | value name v => exact pushValue_lay s notices name v
  | finish =>
    rcases s with ⟨location, bytecode, _ | d⟩
    · rfl
    · exact finish_lay location bytecode d notices

end Workbench

end ClassAtlas
