import ClassAtlas.Proofs.Refusal

/-
  ClassAtlas.Proofs.Omission — ends that nobody told.

  An annotation can be left open when the next one starts, and it and the member it is on
  can be left open when the next member is declared. What comes next then closes them by
  itself, on a way of its own (`Workbench.leaveMember`, `Workbench.startNote`) and not on
  that of an end (`Workbench.finish`). A stream from which such ends are missing is
  completed by putting them in where the bench misses them (`Workbench.completed`).

  It does not matter whether they are put in: one end more in front of an event takes away
  the first of those that it misses and lets it do what it did (`endFits_of_missing`). What
  differs is that a bench that has to close something itself makes a notice of it, and only
  that (`run_completed`). Some of the ends can be put in and others not: what is still
  missing comes to the same completion (`completed_supplied`).
-/

namespace ClassAtlas

/-- Something had been left open, and what came next has closed it. -/
def Notice.isOmission : Notice → Bool
  | annotationLeftOpen _ => true
  | memberLeftOpen _ => true
  | annotationCutShort _ => true
  | _ => false

def withoutOmissions (notices : List Notice) : List Notice := notices.filter (!·.isOmission)

@[simp] theorem withoutOmissions_append (ns more : List Notice) :
    withoutOmissions (ns ++ more) = withoutOmissions ns ++ withoutOmissions more :=
  List.filter_append ns more

@[simp] theorem withoutOmissions_idem (ns : List Notice) :
    withoutOmissions (withoutOmissions ns) = withoutOmissions ns := by
  simp [withoutOmissions]

/-! ## Closing by itself and by an end -/

namespace Draft

variable (d : Draft) (location : String)

@[simp] theorem settle_pending : d.settle.1.pending = none := by
  rcases d with ⟨r, place, _ | ⟨a, _ | index⟩⟩ <;> rfl

theorem settle_of_none {d : Draft} (h : d.pending = none) : d.settle = (d, []) := by
  simp [settle, h]

@[simp] theorem settle_settle : d.settle.1.settle = (d.settle.1, []) := settle_of_none (settle_pending d)

/-- What is said about an annotation that is attached is the same, whoever has ended it. -/
theorem withoutOmissions_settle : withoutOmissions d.settle.2 = d.settle.2 := by
  rcases d with ⟨r, place, _ | ⟨a, _ | index⟩⟩
  · rfl
  · simp only [settle]
    split <;> rfl
  · rfl

theorem finish_of_some {d : Draft} (h : d.pending.isSome) : d.finish location = d.settle := by
  obtain ⟨p, hp⟩ := Option.isSome_iff_exists.mp h
  simp [finish, hp]

theorem finish_place_of_some {d : Draft} (h : d.pending.isSome) : (d.finish location).1.place = d.place := by
  rw [finish_of_some location h, Workbench.settle_place]

theorem finish_pending_of_some {d : Draft} (h : d.pending.isSome) : (d.finish location).1.pending = none := by
  rw [finish_of_some location h, settle_pending]

theorem withoutOmissions_finish : withoutOmissions (d.finish location).2 = (d.finish location).2 := by
  cases hpending : d.pending with
  | some p => rw [finish_of_some location (by rw [hpending]; rfl), withoutOmissions_settle]
  | none => cases hplace : d.place <;> simp [finish, hpending, hplace, withoutOmissions, Notice.isOmission]

/-- One end before a change of the draft: the change comes to the same, and so do the notices, but for omissions. -/
def IndifferentToEnd (change : Draft → Draft × List Notice) : Prop :=
  (change (d.finish location).1).1 = (change d).1 ∧
    withoutOmissions ((d.finish location).2 ++ (change (d.finish location).1).2) = withoutOmissions (change d).2

variable {d location}

/-- An annotation that is open is attached before a member is left. -/
theorem leaveMember_indifferent_of_note (h : d.pending.isSome) :
    d.IndifferentToEnd location (·.leaveMember location) := by
  rw [IndifferentToEnd, finish_of_some location h]
  constructor
  · simp [leaveMember]
  · simp [leaveMember, Workbench.settle_place, h, withoutOmissions, Notice.isOmission]

/-- A member that is open is left before the next is declared. -/
theorem leaveMember_indifferent_of_member {m : Member} (hpending : d.pending = none) (hplace : d.place = .member m) :
    d.IndifferentToEnd location (·.leaveMember location) := by
  have hfinish : d.finish location = ({ d with place := .body }, []) := by simp [finish, hpending, hplace]
  rw [IndifferentToEnd, hfinish]
  simp [leaveMember, settle, hpending, hplace, Place.member?, withoutOmissions, Notice.isOmission]

theorem declare_indifferent {add : ClassRecord → ClassRecord} {index : ClassRecord → Member}
    (h : d.IndifferentToEnd location (·.leaveMember location)) :
    d.IndifferentToEnd location (·.declare location add index) := by
  obtain ⟨hdraft, hnotices⟩ := h
  constructor
  · simp only [declare, hdraft]
  · exact hnotices

theorem startNote_indifferent {a : AnnotationRecord} {parameter : Option UInt8} (h : d.pending.isSome) :
    d.IndifferentToEnd location (·.startNote location a parameter) := by
  rw [IndifferentToEnd, finish_of_some location h]
  constructor
  · simp [startNote]
  · simp [startNote, h, withoutOmissions, Notice.isOmission]

end Draft

namespace Workbench

/-! ## Ends that are missing -/

section Missing

variable (w : Workbench)

def noteEnd : List Event := if w.pending.isSome then [.finish] else []

def memberEnd : List Event := if w.scopes.head?.join.isSome then [.finish] else []

/-- The ends that should have come before the event: with the class open, those of what a member or an
    annotation closes. -/
def missing (e : Event) : List Event :=
  if w.phase = .within then
    match e with
    | .field _ _ _ _ _ => w.noteEnd ++ w.memberEnd
    | .method _ _ _ _ _ => w.noteEnd ++ w.memberEnd
    | .annotationStart _ _ => w.noteEnd
    | .parameterStart _ _ _ => w.noteEnd
    | .header _ _ _ _ => []
    | .value _ _ => []
    | .finish => []
  else []

/-- The stream with the ends that are missing. -/
def completed (w : Workbench) : List Event → List Event
  | [] => []
  | e :: es => w.missing e ++ e :: (w.after e).completed es

/-- The second stream is the first with some of the ends that it misses. -/
inductive Supplied : Workbench → List Event → List Event → Prop
  | nil (w : Workbench) : Supplied w [] []
  | keep {w : Workbench} {e : Event} {es es' : List Event} :
      Supplied (w.after e) es es' → Supplied w (e :: es) (e :: es')
  | supply {w : Workbench} {e : Event} {es es' : List Event} :
      w.missing e ≠ [] → Supplied (w.after .finish) (e :: es) es' → Supplied w (e :: es) (.finish :: es')

/-- The bench without the notices of what it had to close itself. -/
def quiet : Workbench := { w with notices := withoutOmissions w.notices }

end Missing

theorem quiet_lay (s : Assembly) (notices : List Notice) :
    (lay s notices).quiet = lay s (withoutOmissions notices) := rfl

@[simp] theorem quiet_quiet (w : Workbench) : w.quiet.quiet = w.quiet := by simp [quiet]

/-! ## Benches that differ in what was omitted -/

section Alike

variable {w v : Workbench}

theorem laid_quiet (h : Laid w) : Laid w.quiet := by
  obtain ⟨s, notices, rfl⟩ := h
  exact ⟨s, withoutOmissions notices, rfl⟩

theorem quiet_after_quiet (h : Laid w) (e : Event) : (w.quiet.after e).quiet = (w.after e).quiet := by
  obtain ⟨s, notices, rfl⟩ := h
  rw [quiet_lay, after_lay, after_lay]
  cases s.step e with
  | ok r => simp [quiet_lay]
  | error err => simp [quiet_lay]

theorem answer_quiet (h : Laid w) (e : Event) : w.quiet.answer e = w.answer e := by
  obtain ⟨s, notices, rfl⟩ := h
  rw [quiet_lay, answer_lay, answer_lay]

variable (hw : Laid w) (hv : Laid v) (hquiet : w.quiet = v.quiet)
include hw hv hquiet

theorem quiet_after_congr (e : Event) : (w.after e).quiet = (v.after e).quiet := by
  rw [← quiet_after_quiet hw, ← quiet_after_quiet hv, hquiet]

theorem answer_congr (e : Event) : w.answer e = v.answer e := by
  rw [← answer_quiet hw, ← answer_quiet hv, hquiet]

omit hw hv in
theorem missing_congr (e : Event) : w.missing e = v.missing e := by
  show w.quiet.missing e = v.quiet.missing e
  rw [hquiet]

theorem quiet_run_congr (es : List Event) : (w.run es).quiet = (v.run es).quiet := by
  induction es generalizing w v with
  | nil => exact hquiet
  | cons e es ih => exact ih (laid_after hw e) (laid_after hv e) (quiet_after_congr hw hv hquiet e)

theorem answers_congr (es : List Event) : w.answers es = v.answers es := by
  induction es generalizing w v with
  | nil => rfl
  | cons e es ih =>
    rw [answers, answers, answer_congr hw hv hquiet e,
      ih (laid_after hw e) (laid_after hv e) (quiet_after_congr hw hv hquiet e)]

theorem completed_congr (es : List Event) : w.completed es = v.completed es := by
  induction es generalizing w v with
  | nil => rfl
  | cons e es ih =>
    rw [completed, completed, missing_congr hquiet e,
      ih (laid_after hw e) (laid_after hv e) (quiet_after_congr hw hv hquiet e)]

end Alike

/-! ## One end -/

/-- An end put in front of the event: it is taken, the rest of what the event misses is still missed, and
    the event is answered as it was and does what it did. -/
structure EndFits (w : Workbench) (e : Event) (rest : List Event) : Prop where
  taken : w.answer .finish = .ok ()
  missing : (w.after .finish).missing e = rest
  answer : (w.after .finish).answer e = w.answer e
  quiet : ((w.after .finish).after e).quiet = (w.after e).quiet

section End

variable {location : String} {bytecode : Option Bytes} {d : Draft} {notices : List Notice}

theorem memberEnd_lay :
    (layDraft location bytecode d notices).memberEnd = if d.place.member?.isSome then [.finish] else [] := by
  rw [← head_scopesAt]
  rfl

theorem noteEnd_eq_nil : (layDraft location bytecode d notices).noteEnd = [] ↔ d.pending = none := by
  simp [noteEnd, lay]

theorem memberEnd_eq_nil : (layDraft location bytecode d notices).memberEnd = [] ↔ d.place.member? = none := by
  simp [memberEnd_lay]

theorem phase_layDraft (hopen : d.place ≠ .closed) : (layDraft location bytecode d notices).phase = .within := by
  simp [phase_lay, hopen]

theorem after_finish_lay :
    (layDraft location bytecode d notices).after .finish =
      layDraft location bytecode (d.finish location).1 (notices ++ (d.finish location).2) :=
  after_lay _ _ _

variable {callback : Callback} {e : Event} {rest : List Event}

theorem endFits_of_indifferent (change : String → Draft → Draft × List Notice) (hopen : d.place ≠ .closed)
    (hstill : (d.finish location).1.place ≠ .closed)
    (hstep : ∀ s : Assembly, s.step e = s.inBody callback (change s.location))
    (hchange : d.IndifferentToEnd location (change location))
    (hrest : (layDraft location bytecode (d.finish location).1 (notices ++ (d.finish location).2)).missing e = rest) :
    EndFits (layDraft location bytecode d notices) e rest := by
  obtain ⟨hdraft, hnotices⟩ := hchange
  refine ⟨answer_lay _ _ _, by rw [after_finish_lay, hrest], ?_, ?_⟩
  · rw [after_finish_lay, answer_lay, answer_lay, hstep, hstep]
    simp [Assembly.inBody, hopen, hstill, Except.map]
  · rw [after_finish_lay, after_lay, after_lay, hstep, hstep]
    simp only [Assembly.inBody, hopen, hstill, if_false, quiet_lay, hdraft]
    rw [List.append_assoc, withoutOmissions_append, hnotices, ← withoutOmissions_append]

/-- Before a member is declared: the end of the annotation first, then that of the member before it. -/
theorem endFits_declare {x : Event} {add : ClassRecord → ClassRecord} {index : ClassRecord → Member}
    (hopen : d.place ≠ .closed)
    (hstep : ∀ s : Assembly, s.step e = s.inBody callback (·.declare s.location add index))
    (hends : ∀ w : Workbench, w.missing e = if w.phase = .within then w.noteEnd ++ w.memberEnd else [])
    (hmissing : (layDraft location bytecode d notices).missing e = x :: rest) :
    x = .finish ∧ EndFits (layDraft location bytecode d notices) e rest := by
  rw [hends, if_pos (phase_layDraft hopen), memberEnd_lay, noteEnd] at hmissing
  cases hpending : d.pending with
  | some p =>
    have hnote : d.pending.isSome := by rw [hpending]; rfl
    have hplace := Draft.finish_place_of_some location hnote
    simp only [lay, Option.bind_some, hpending, Option.isSome_some, if_true, List.cons_append, List.nil_append,
      List.cons.injEq] at hmissing
    obtain ⟨rfl, hmember⟩ := hmissing
    refine ⟨rfl, endFits_of_indifferent (fun location d => d.declare location add index) hopen (hplace ▸ hopen) hstep
      (Draft.declare_indifferent (Draft.leaveMember_indifferent_of_note hnote)) ?_⟩
    rw [hends, if_pos (phase_layDraft (hplace ▸ hopen)), memberEnd_lay, hplace, hmember, noteEnd]
    simp [lay, Draft.finish_pending_of_some location hnote]
  | none =>
    simp only [lay, Option.bind_some, hpending, Option.isSome_none, Bool.false_eq_true, if_false,
      List.nil_append] at hmissing
    obtain ⟨m, hplace⟩ : ∃ m, d.place = .member m := by
      cases hd : d.place with
      | member m => exact ⟨m, rfl⟩
      | body => simp [hd, Place.member?] at hmissing
      | closed => exact absurd hd hopen
    simp only [hplace, Place.member?, Option.isSome_some, if_true, List.cons.injEq] at hmissing
    obtain ⟨rfl, rfl⟩ := hmissing
    have hfinish : d.finish location = ({ d with place := .body }, []) := by simp [Draft.finish, hpending, hplace]
    have hstill : (d.finish location).1.place ≠ .closed := by simp [hfinish]
    refine ⟨rfl, endFits_of_indifferent (fun location d => d.declare location add index) hopen hstill hstep
      (Draft.declare_indifferent (Draft.leaveMember_indifferent_of_member hpending hplace)) ?_⟩
    rw [hends, if_pos (phase_layDraft hstill), memberEnd_lay, noteEnd, hfinish]
    simp [lay, hpending, Place.member?]

/-- Before an annotation starts: the end of the one before it. -/
theorem endFits_startNote {x : Event} {a : AnnotationRecord} {parameter : Option UInt8} (hopen : d.place ≠ .closed)
    (hstep : ∀ s : Assembly, s.step e = s.inBody callback (·.startNote s.location a parameter))
    (hends : ∀ w : Workbench, w.missing e = if w.phase = .within then w.noteEnd else [])
    (hmissing : (layDraft location bytecode d notices).missing e = x :: rest) :
    x = .finish ∧ EndFits (layDraft location bytecode d notices) e rest := by
  rw [hends, if_pos (phase_layDraft hopen), noteEnd] at hmissing
  cases hnote : d.pending.isSome with
  | false => simp [lay, hnote] at hmissing
  | true =>
    have hplace := Draft.finish_place_of_some location hnote
    simp only [lay, Option.bind_some, hnote, if_true, List.cons.injEq] at hmissing
    obtain ⟨rfl, rfl⟩ := hmissing
    refine ⟨rfl, endFits_of_indifferent (fun location d => d.startNote location a parameter) hopen
      (hplace ▸ hopen) hstep
      (Draft.startNote_indifferent hnote) ?_⟩
    rw [hends, if_pos (phase_layDraft (hplace ▸ hopen)), noteEnd]
    simp [lay, Draft.finish_pending_of_some location hnote]

theorem withoutOmissions_declare {add : ClassRecord → ClassRecord} {index : ClassRecord → Member}
    (hopen : d.place ≠ .closed)
    (hends : ∀ w : Workbench, w.missing e = if w.phase = .within then w.noteEnd ++ w.memberEnd else [])
    (hnone : (layDraft location bytecode d notices).missing e = []) :
    withoutOmissions (d.declare location add index).2 = (d.declare location add index).2 := by
  rw [hends, if_pos (phase_layDraft hopen), List.append_eq_nil_iff, noteEnd_eq_nil, memberEnd_eq_nil] at hnone
  obtain ⟨hpending, hmember⟩ := hnone
  simp [Draft.declare, Draft.leaveMember, Draft.settle_of_none hpending, hpending, hmember, withoutOmissions]

theorem withoutOmissions_startNote {a : AnnotationRecord} {parameter : Option UInt8} (hopen : d.place ≠ .closed)
    (hends : ∀ w : Workbench, w.missing e = if w.phase = .within then w.noteEnd else [])
    (hnone : (layDraft location bytecode d notices).missing e = []) :
    withoutOmissions (d.startNote location a parameter).2 = (d.startNote location a parameter).2 := by
  rw [hends, if_pos (phase_layDraft hopen), noteEnd_eq_nil] at hnone
  simp [Draft.startNote, Draft.settle_of_none hnone, hnone, withoutOmissions]

end End

section Ends

variable {w : Workbench} (h : Laid w)
include h

/-- Ends are missing only from a class that is open. -/
theorem exists_draft_of_missing {e : Event} (hmissing : w.missing e ≠ []) :
    ∃ location bytecode d notices, w = layDraft location bytecode d notices ∧ d.place ≠ .closed := by
  obtain ⟨⟨location, bytecode, _ | d⟩, notices, rfl⟩ := h
  · exact absurd rfl hmissing
  · refine ⟨location, bytecode, d, notices, rfl, fun hclosed => hmissing ?_⟩
    simp [missing, phase_lay, hclosed]

theorem endFits_of_missing {e x : Event} {rest : List Event} (hmissing : w.missing e = x :: rest) :
    x = .finish ∧ EndFits w e rest := by
  obtain ⟨location, bytecode, d, notices, rfl, hopen⟩ :=
    exists_draft_of_missing h (by rw [hmissing]; exact List.cons_ne_nil _ _)
  cases e with
  | field access name descriptor signature value =>
    exact endFits_declare hopen (fun _ => rfl) (fun _ => rfl) hmissing
  | method access name descriptor signature exceptions =>
    exact endFits_declare hopen (fun _ => rfl) (fun _ => rfl) hmissing
  | annotationStart descriptor visible => exact endFits_startNote hopen (fun _ => rfl) (fun _ => rfl) hmissing
  | parameterStart index descriptor visible => exact endFits_startNote hopen (fun _ => rfl) (fun _ => rfl) hmissing
  | header access name super interfaces => simp [missing] at hmissing
  | value name v => simp [missing] at hmissing
  | finish => simp [missing] at hmissing

omit h in
/-- Where nothing is missing, nothing has to be closed. -/
theorem withoutOmissions_step {s t : Assembly} {notices more : List Notice} {e : Event}
    (hnone : (lay s notices).missing e = []) (hstep : s.step e = .ok (t, more)) :
    withoutOmissions more = more := by
  obtain ⟨location, bytecode, draft⟩ := s
  cases e with
  | header access name super interfaces =>
    cases draft with
    | none =>
      cases hstep
      rfl
    | some d => cases hstep
  | field access name descriptor signature value =>
    obtain ⟨d, rfl, hopen, -, rfl⟩ := ok_of_inBody hstep
    exact withoutOmissions_declare hopen (fun _ => rfl) hnone
  | method access name descriptor signature exceptions =>
    obtain ⟨d, rfl, hopen, -, rfl⟩ := ok_of_inBody hstep
    exact withoutOmissions_declare hopen (fun _ => rfl) hnone
  | annotationStart descriptor visible =>
    obtain ⟨d, rfl, hopen, -, rfl⟩ := ok_of_inBody hstep
    exact withoutOmissions_startNote hopen (fun _ => rfl) hnone
  | parameterStart index descriptor visible =>
    obtain ⟨d, rfl, hopen, -, rfl⟩ := ok_of_inBody hstep
    exact withoutOmissions_startNote hopen (fun _ => rfl) hnone
  | value name v =>
    obtain ⟨d, -, -, -, rfl⟩ := ok_of_inBody hstep
    cases hd : d.pending with
    | none => simp [Draft.pushValue, hd, withoutOmissions, Notice.isOmission]
    | some p => simp [Draft.pushValue, hd, withoutOmissions]
  | finish =>
    cases draft with
    | none => cases hstep
    | some d =>
      cases hstep
      exact Draft.withoutOmissions_finish d location

theorem after_quiet_of_nothing_missing {e : Event} (hnone : w.missing e = []) :
    w.quiet.after e = (w.after e).quiet := by
  obtain ⟨s, notices, rfl⟩ := h
  rw [quiet_lay, after_lay, after_lay]
  cases hstep : s.step e with
  | error err => rfl
  | ok r =>
    obtain ⟨t, more⟩ := r
    show lay t (withoutOmissions notices ++ more) = lay t (withoutOmissions (notices ++ more))
    rw [withoutOmissions_append, withoutOmissions_step hnone hstep]

/-! ## All that an event misses -/

/-- The ends that an event misses, put in front of it: they are taken, and the event misses nothing any
    more, is answered as it was and does what it did. -/
theorem ends_fit {e : Event} : ∀ {ends : List Event}, w.missing e = ends →
    (∀ a ∈ w.answers ends, a.2 = .ok ()) ∧ (w.run ends).missing e = [] ∧ (w.run ends).answer e = w.answer e ∧
      ((w.run ends).after e).quiet = (w.after e).quiet ∧ w.quiet.run ends = (w.run ends).quiet := by
  intro ends hmissing
  induction ends generalizing w with
  | nil => exact ⟨by simp [answers], hmissing, rfl, rfl, rfl⟩
  | cons x ends ih =>
    obtain ⟨rfl, hfits⟩ := endFits_of_missing h hmissing
    obtain ⟨htaken, hnone, hanswer, hquiet, hrun⟩ := ih (laid_after h .finish) hfits.missing
    have hfirst : w.quiet.after .finish = (w.after .finish).quiet :=
      after_quiet_of_nothing_missing h (by simp [missing])
    refine ⟨?_, hnone, hanswer.trans hfits.answer, hquiet.trans hfits.quiet, ?_⟩
    · intro a ha
      rcases List.mem_cons.mp ha with rfl | ha
      · exact hfits.taken
      · exact htaken a ha
    · show (w.quiet.after .finish).run ends = ((w.after .finish).run ends).quiet
      rw [hfirst, hrun]

/-- With its ends in front of it an event does what it did, and nothing has to be closed for it. -/
theorem run_missing_quiet (e : Event) : w.quiet.run (w.missing e ++ [e]) = (w.after e).quiet := by
  obtain ⟨-, hnone, -, hquiet, hrun⟩ := ends_fit h (rfl : w.missing e = w.missing e)
  calc w.quiet.run (w.missing e ++ [e])
      = (w.quiet.run (w.missing e)).after e := run_append _ _ _
    _ = (w.run (w.missing e)).quiet.after e := by rw [hrun]
    _ = ((w.run (w.missing e)).after e).quiet := after_quiet_of_nothing_missing (laid_run h _) hnone
    _ = (w.after e).quiet := hquiet

theorem run_missing (e : Event) : (w.run (w.missing e ++ [e])).quiet = (w.after e).quiet := by
  rw [quiet_run_congr h (laid_quiet h) (quiet_quiet w).symm, run_missing_quiet h, quiet_quiet]

end Ends

/-! ## Streams -/

section Streams

variable {w : Workbench} (h : Laid w)
include h

/-- A stream that has been completed does what it did, and nothing has to be closed in it. -/
theorem run_completed (es : List Event) : w.quiet.run (w.completed es) = (w.run es).quiet := by
  induction es generalizing w with
  | nil => rfl
  | cons e es ih =>
    have hafter := laid_after h e
    calc w.quiet.run (w.completed (e :: es))
        = (w.quiet.run (w.missing e ++ [e])).run ((w.after e).completed es) := by
          rw [completed, ← run_append, List.append_assoc, List.singleton_append]
      _ = (w.after e).quiet.run ((w.after e).completed es) := by rw [run_missing_quiet h]
      _ = ((w.after e).run es).quiet := ih hafter

omit h in
theorem supplied_congr {v : Workbench} (hw : Laid w) (hv : Laid v) (hquiet : w.quiet = v.quiet) {es es' : List Event}
    (hsupplied : Supplied w es es') : Supplied v es es' := by
  induction hsupplied generalizing v with
  | nil w => exact .nil v
  | keep hrest ih => exact .keep (ih (laid_after hw _) (laid_after hv _) (quiet_after_congr hw hv hquiet _))
  | supply hmissing hrest ih =>
    refine .supply ?_ (ih (laid_after hw _) (laid_after hv _) (quiet_after_congr hw hv hquiet _))
    rwa [← missing_congr hquiet]

/-- The ends that an event misses are put in front of it one by one. -/
theorem supplied_cons {e : Event} {es es' : List Event} (hrest : Supplied (w.after e) es es') :
    Supplied w (e :: es) (w.missing e ++ e :: es') := by
  generalize hends : w.missing e = ends
  induction ends generalizing w with
  | nil => exact .keep hrest
  | cons x ends ih =>
    obtain ⟨rfl, hfits⟩ := endFits_of_missing h hends
    have hlater := laid_after h .finish
    refine .supply (by rw [hends]; exact List.cons_ne_nil _ _) (ih hlater ?_ hfits.missing)
    exact supplied_congr (laid_after h e) (laid_after hlater e) hfits.quiet.symm hrest

/-- The completion has all the ends that are missing. -/
theorem supplied_completed (es : List Event) : Supplied w es (w.completed es) := by
  induction es generalizing w with
  | nil => exact .nil w
  | cons e es ih => exact supplied_cons h (ih (laid_after h e))

/-- Whichever ends have been put in, what is still missing comes to the same completion. -/
theorem completed_supplied {es es' : List Event} (hsupplied : Supplied w es es') :
    w.completed es' = w.completed es := by
  induction hsupplied with
  | nil w => rfl
  | keep hrest ih => rw [completed, completed, ih (laid_after h _)]
  | @supply w e es es' hmissing hrest ih =>
    obtain ⟨x, ends, hends⟩ := List.exists_cons_of_ne_nil hmissing
    obtain ⟨rfl, hfits⟩ := endFits_of_missing h hends
    have hlater := laid_after h .finish
    rw [completed, ih hlater, completed, completed, hfits.missing, hends,
      completed_congr (laid_after hlater e) (laid_after h e) hfits.quiet]
    simp [missing]

theorem answers_supplied {es es' : List Event} (hsupplied : Supplied w es es') :
    (w.answers es).Sublist (w.answers es') := by
  induction hsupplied with
  | nil w => exact List.Sublist.refl _
  | keep hrest ih => exact (ih (laid_after h _)).cons_cons _
  | @supply w e es es' hmissing hrest ih =>
    obtain ⟨x, ends, hends⟩ := List.exists_cons_of_ne_nil hmissing
    obtain ⟨rfl, hfits⟩ := endFits_of_missing h hends
    have hlater := laid_after h .finish
    have hsame : w.answers (e :: es) = (w.after .finish).answers (e :: es) := by
      rw [answers, answers, hfits.answer, answers_congr (laid_after hlater e) (laid_after h e) hfits.quiet]
    rw [hsame]
    exact (ih hlater).cons _

theorem quiet_run_supplied {es es' : List Event} (hsupplied : Supplied w es es') :
    (w.run es').quiet = (w.run es).quiet := by
  rw [← run_completed h, ← run_completed h, completed_supplied h hsupplied]

end Streams

/-- The bench shows which assembly lies on it. -/
theorem lay_inj {s t : Assembly} {notices more : List Notice} (h : lay s notices = lay t more) : s = t := by
  obtain ⟨location, bytecode, draft⟩ := s
  obtain ⟨location', bytecode', draft'⟩ := t
  simp only [lay, Workbench.mk.injEq] at h
  obtain ⟨rfl, rfl, hrecord, hscopes, hpending, -, -⟩ := h
  rcases draft with _ | ⟨record, place, pending⟩ <;> rcases draft' with _ | ⟨record', place', pending'⟩
  · rfl
  · cases hrecord
  · cases hrecord
  · cases hrecord
    cases hpending
    cases place <;> cases place' <;> simp_all [scopesAt]

/-- Take any bench that some events of any kind have led to. The ends that an event misses there are taken
    if they are told before it, the event is answered as it would have been without them, and it leaves
    the same bench, but for notices of what had to be closed; with the class open it is refused only if it
    is a header.

    So it is with streams. Completing one gives the bench that it gave, without such notices, and leaves
    nothing to complete. Putting in only some of the ends that are missing gives the same result and the
    same assembly, too, and no event of the stream is answered otherwise. -/
theorem omitted_ends_harmless (location : String) (bytecode : Option Bytes) (es : List Event) :
    let first := start location bytecode
    let w := first.run es
    (∀ e, (∀ a ∈ w.answers (w.missing e), a.2 = .ok ()) ∧ (w.run (w.missing e)).answer e = w.answer e ∧
        (w.run (w.missing e ++ [e])).quiet = (w.after e).quiet ∧
        (w.phase = .within → (w.answer e).isOk = !Phase.within.forbids e)) ∧
      (Supplied first es (first.completed es) ∧ first.run (first.completed es) = w.quiet ∧
        first.completed (first.completed es) = first.completed es) ∧
      ∀ es', Supplied first es es' →
        first.completed es' = first.completed es ∧ (first.answers es).Sublist (first.answers es') ∧
          (first.run es').quiet = w.quiet ∧ (first.run es').result = w.result ∧
          (Assembly.start location bytecode).run es' = (Assembly.start location bytecode).run es := by
  intro first w
  have hfirst : Laid first := laid_start location bytecode
  have hlaid : Laid w := laid_run hfirst es
  have hsupplied := supplied_completed hfirst es
  refine ⟨fun e => ?_, ⟨hsupplied, run_completed hfirst es, completed_supplied hfirst hsupplied⟩, fun es' h => ?_⟩
  · obtain ⟨htaken, -, hanswer, -, -⟩ := ends_fit hlaid (rfl : w.missing e = w.missing e)
    exact ⟨htaken, hanswer, run_missing hlaid e, fun hwithin => by rw [isOk_answer hlaid, hwithin]⟩
  · have hquiet : (first.run es').quiet = (first.run es).quiet := quiet_run_supplied hfirst h
    refine ⟨completed_supplied hfirst h, answers_supplied hfirst h, hquiet, ?_, ?_⟩
    · show (first.run es').quiet.result = w.quiet.result
      rw [hquiet]
    · obtain ⟨notices, hes⟩ : ∃ notices, first.run es = lay _ notices :=
        run_lay (Assembly.start location bytecode) [] es
      obtain ⟨notices', hes'⟩ : ∃ notices, first.run es' = lay _ notices :=
        run_lay (Assembly.start location bytecode) [] es'
      rw [hes', hes, quiet_lay, quiet_lay] at hquiet
      exact lay_inj hquiet

/-- A method declared behind a field with an annotation, both left open. -/
example :
    (start "app.jar" none).completed
        [.header ⟨0x21⟩ "a/A" none [], .field ⟨0⟩ "first" "I" none none, .annotationStart "La/F;" true,
          .method ⟨1⟩ "run" "()V" none none, .finish, .finish] =
      [.header ⟨0x21⟩ "a/A" none [], .field ⟨0⟩ "first" "I" none none, .annotationStart "La/F;" true,
        .finish, .finish, .method ⟨1⟩ "run" "()V" none none, .finish, .finish] :=
  rfl

end Workbench

end ClassAtlas
