import ClassAtlas.Proofs.History
import ClassAtlas.Proofs.Workbench

/-
  ClassAtlas.Proofs.Refusal — what an event that is refused leaves behind: nothing.

  Three phases decide whether an event is taken. Before the class is declared there can be
  only a header; within it anything but a header; behind it nothing but ends, which then
  end nothing. On the bench an event is answered at some point of its work, and what was
  done up to there stays done. That the guard stands before all of it has to hold for each
  event in each state, and does (`after_of_refused`).

  So the events that were refused can be left out of a run: the others are answered as
  before, and the bench is the same in the end. A class that has been closed stays as it is.
-/

namespace ClassAtlas

inductive Phase where
  | before
  | within
  | behind
  deriving DecidableEq, Repr

def Phase.forbids : Phase → Event → Bool
  | before, .header _ _ _ _ => false
  | before, _ => true
  | within, .header _ _ _ _ => true
  | within, _ => false
  | behind, .finish => false
  | behind, _ => true

namespace Workbench

def phase (w : Workbench) : Phase :=
  match w.record with
  | none => .before
  | some _ => if w.closed then .behind else .within

def answer (w : Workbench) (e : Event) : Except AssemblyError Unit :=
  match (call e).run w with
  | .ok _ _ => .ok ()
  | .error err _ => .error err

/-- The bench once the event has been answered, in whichever way. -/
def after (w : Workbench) (e : Event) : Workbench :=
  match (call e).run w with
  | .ok _ t => t
  | .error _ t => t

def run (w : Workbench) (es : List Event) : Workbench := es.foldl after w

def answers (w : Workbench) : List Event → List (Event × Except AssemblyError Unit)
  | [] => []
  | e :: es => (e, w.answer e) :: (w.after e).answers es

/-- The events that are left when those that are refused are struck out. -/
def taken (w : Workbench) (es : List Event) : List Event := ((w.answers es).filter (·.2.isOk)).map (·.1)

/-! ## One event -/

section Event

variable (s : Assembly) (notices : List Notice) (e : Event)

theorem answer_lay : (lay s notices).answer e = (s.step e).map fun _ => () := by
  rw [answer, call_lay]
  cases s.step e <;> rfl

theorem after_lay :
    (lay s notices).after e =
      match s.step e with
      | .ok (t, more) => lay t (notices ++ more)
      | .error _ => lay s notices := by
  rw [after, call_lay]
  cases s.step e <;> rfl

theorem result_lay : (lay s notices).result = s.result := by
  rcases s with ⟨location, bytecode, _ | d⟩
  · rfl
  · simp [result, lay, Assembly.result, Assembly.isComplete]

theorem phase_lay :
    (lay s notices).phase =
      match s.draft with
      | none => .before
      | some d => if d.place = .closed then .behind else .within := by
  rcases s with ⟨location, bytecode, _ | d⟩
  · rfl
  · by_cases hclosed : d.place = .closed <;> simp [phase, lay, Assembly.isComplete, hclosed]

theorem isOk_header (access : Access) (name : String) (super : Option String) (interfaces : List String) :
    (s.step (.header access name super interfaces)).isOk = decide ((lay s notices).phase = .before) := by
  rw [phase_lay, Assembly.step]
  cases s.draft with
  | none => rfl
  | some d => by_cases hclosed : d.place = .closed <;> simp [hclosed, Except.isOk, Except.toBool]

theorem isOk_finish : (s.step .finish).isOk = !decide ((lay s notices).phase = .before) := by
  rw [phase_lay, Assembly.step]
  cases s.draft with
  | none => rfl
  | some d => by_cases hclosed : d.place = .closed <;> simp [hclosed, Except.isOk, Except.toBool]

theorem isOk_inBody (callback : Callback) (change : Draft → Draft × List Notice) :
    (s.inBody callback change).isOk = decide ((lay s notices).phase = .within) := by
  rw [phase_lay, Assembly.inBody]
  cases s.draft with
  | none => rfl
  | some d => by_cases hclosed : d.place = .closed <;> simp [hclosed, Except.isOk, Except.toBool]

theorem isOk_step : (s.step e).isOk = !(lay s notices).phase.forbids e := by
  cases e with
  | header access name super interfaces => rw [isOk_header s notices]; cases (lay s notices).phase <;> rfl
  | finish => rw [isOk_finish s notices]; cases (lay s notices).phase <;> rfl
  | field access name descriptor signature value =>
    rw [Assembly.step, isOk_inBody s notices]; cases (lay s notices).phase <;> rfl
  | method access name descriptor signature exceptions =>
    rw [Assembly.step, isOk_inBody s notices]; cases (lay s notices).phase <;> rfl
  | annotationStart descriptor visible =>
    rw [Assembly.step, isOk_inBody s notices]; cases (lay s notices).phase <;> rfl
  | parameterStart index descriptor visible =>
    rw [Assembly.step, isOk_inBody s notices]; cases (lay s notices).phase <;> rfl
  | value name v => rw [Assembly.step, isOk_inBody s notices]; cases (lay s notices).phase <;> rfl

end Event

/-! ## Benches with an assembly on them -/

def Laid (w : Workbench) : Prop := ∃ s notices, w = lay s notices

theorem laid_start (location : String) (bytecode : Option Bytes) : Laid (start location bytecode) :=
  ⟨Assembly.start location bytecode, [], rfl⟩

variable {w : Workbench} (h : Laid w)
include h

theorem laid_after (e : Event) : Laid (w.after e) := by
  obtain ⟨s, notices, rfl⟩ := h
  rw [after_lay]
  split
  · exact ⟨_, _, rfl⟩
  · exact ⟨s, notices, rfl⟩

/-- The phase decides, and it alone. -/
theorem isOk_answer (e : Event) : (w.answer e).isOk = !w.phase.forbids e := by
  obtain ⟨s, notices, rfl⟩ := h
  rw [answer_lay, ← isOk_step]
  cases s.step e <;> rfl

/-- An event that is refused has changed nothing on the bench. -/
theorem after_of_refused {e : Event} (hrefused : (w.answer e).isOk = false) : w.after e = w := by
  obtain ⟨s, notices, rfl⟩ := h
  rw [answer_lay] at hrefused
  rw [after_lay]
  cases hstep : s.step e with
  | ok r => simp [hstep, Except.map, Except.isOk, Except.toBool] at hrefused
  | error err => rfl

/-- Without the events that are refused, the others are answered as they were, and the run ends as it did. -/
theorem run_taken (es : List Event) :
    w.answers (w.taken es) = (w.answers es).filter (·.2.isOk) ∧ w.run (w.taken es) = w.run es := by
  induction es generalizing w with
  | nil => exact ⟨rfl, rfl⟩
  | cons e es ih =>
    cases hok : (w.answer e).isOk with
    | true =>
      have htaken : w.taken (e :: es) = e :: (w.after e).taken es := by simp [taken, answers, hok]
      obtain ⟨hanswers, hrun⟩ := ih (laid_after h e)
      rw [htaken]
      constructor
      · simp [answers, hok, hanswers]
      · exact hrun
    | false =>
      have hsame := after_of_refused h hok
      have htaken : w.taken (e :: es) = w.taken es := by simp [taken, answers, hok, hsame]
      obtain ⟨hanswers, hrun⟩ := ih h
      rw [htaken]
      constructor
      · simp [answers, hok, hsame, hanswers]
      · exact hrun.trans (congrArg (run · es) hsame.symm)

omit h in
theorem run_lay (s : Assembly) (notices : List Notice) (es : List Event) :
    ∃ all, (lay s notices).run es = lay (s.run es) all := by
  induction es generalizing s notices with
  | nil => exact ⟨notices, rfl⟩
  | cons e es ih =>
    have hafter := after_lay s notices e
    simp only [run, Assembly.run, List.foldl_cons] at ih ⊢
    rw [hafter]
    cases s.step e with
    | ok r => exact ih r.1 (notices ++ r.2)
    | error err => exact ih s notices

omit h in
theorem run_append (w : Workbench) (es more : List Event) : w.run (es ++ more) = (w.run es).run more :=
  List.foldl_append

theorem laid_run (es : List Event) : Laid (w.run es) := by
  obtain ⟨s, notices, rfl⟩ := h
  obtain ⟨all, hrun⟩ := run_lay s notices es
  exact ⟨s.run es, all, hrun⟩

end Workbench

/-! ## Behind the class -/

namespace Assembly

/-- The class has been closed, and no annotation is open. -/
def Over (s : Assembly) : Prop := ∃ d, s.draft = some d ∧ d.place = .closed ∧ d.pending = none

theorem over_of_isComplete (location : String) (bytecode : Option Bytes) (es : List Event)
    (hcomplete : ((start location bytecode).run es).isComplete = true) : ((start location bytecode).run es).Over := by
  have htold := told_run es (show Told [] (start location bytecode) from rfl)
  cases hd : ((start location bytecode).run es).draft with
  | none => simp [isComplete, hd] at hcomplete
  | some d =>
    have hplace : d.place = .closed := by simpa [isComplete, hd] using hcomplete
    simp only [Told, hd] at htold
    exact ⟨d, hd, hplace, htold.closed hplace⟩

variable {s : Assembly} (h : s.Over)
include h

theorem result_of_over : ∃ r, s.result = .ok r := by
  obtain ⟨d, hd, hplace, -⟩ := h
  exact ⟨d.record, by simp [result, hd, hplace]⟩

/-- Nothing but an end is taken any more, and it ends nothing. -/
theorem step_of_over {e : Event} {t : Assembly} {notices : List Notice}
    (hstep : s.step e = .ok (t, notices)) : t = s := by
  obtain ⟨d, hd, hplace, hpending⟩ := h
  cases e with
  | finish =>
    have hsame : (d.finish s.location).1 = d := by simp [Draft.finish, hplace, hpending]
    simp only [step, hd, hsame, Except.ok.injEq, Prod.mk.injEq] at hstep
    rw [← hstep.1, ← hd]
  | header access name super interfaces => simp [step, hd] at hstep
  | field access name descriptor signature value => simp [step, inBody, hd, hplace] at hstep
  | method access name descriptor signature exceptions => simp [step, inBody, hd, hplace] at hstep
  | annotationStart descriptor visible => simp [step, inBody, hd, hplace] at hstep
  | parameterStart index descriptor visible => simp [step, inBody, hd, hplace] at hstep
  | value name v => simp [step, inBody, hd, hplace] at hstep

theorem run_of_over (es : List Event) : s.run es = s := by
  induction es with
  | nil => rfl
  | cons e es ih =>
    cases hstep : s.step e with
    | error err => simpa [run, hstep] using ih
    | ok r =>
      have hsame := step_of_over h hstep
      simpa [run, hstep, hsame] using ih

end Assembly

namespace Workbench

/-- Wherever a run of events of any kind has led, the bench holds what the assembly holds and gives the answers that it
    gives. An event is refused exactly if the phase forbids it, and then nothing on the bench has changed. The run can
    be had without the events that were refused: the others are answered as they were, and it ends with the same bench.
    Once the class has been closed, it stays closed and its record stays what it is, whatever comes. -/
theorem refusals_change_nothing (location : String) (bytecode : Option Bytes) (es : List Event) :
    let first := start location bytecode
    let w := first.run es
    let s := (Assembly.start location bytecode).run es
    ((∀ e, w.answer e = (s.step e).map fun _ => ()) ∧ w.result = s.result ∧ w.closed = s.isComplete) ∧
      (∀ e, (w.answer e).isOk = !w.phase.forbids e) ∧
      (∀ e, (w.answer e).isOk = false → w.after e = w) ∧
      (first.answers (first.taken es) = (first.answers es).filter (·.2.isOk) ∧
        first.run (first.taken es) = w) ∧
      (w.closed = true →
        ∃ r, w.result = .ok r ∧ ∀ more, (w.run more).closed = true ∧ (w.run more).result = .ok r) := by
  intro first w s
  obtain ⟨notices, hw⟩ : ∃ notices, w = lay s notices := run_lay (Assembly.start location bytecode) [] es
  have hlaid : Laid w := ⟨s, notices, hw⟩
  refine ⟨⟨fun e => ?_, ?_, ?_⟩, isOk_answer hlaid, fun e => after_of_refused hlaid, ?_, fun hclosed => ?_⟩
  · rw [hw, answer_lay]
  · rw [hw, result_lay]
  · rw [hw]
    rfl
  · exact run_taken (laid_start location bytecode) es
  · have hover : s.Over := Assembly.over_of_isComplete location bytecode es (by rwa [hw] at hclosed)
    obtain ⟨r, hr⟩ := Assembly.result_of_over hover
    refine ⟨r, by rw [hw, result_lay, hr], fun more => ?_⟩
    obtain ⟨all, hmore⟩ := run_lay s notices more
    rw [Assembly.run_of_over hover] at hmore
    rw [hw, hmore, result_lay, hr]
    exact ⟨by rwa [hw] at hclosed, rfl⟩

end Workbench

end ClassAtlas
