import ClassAtlas.Proofs.Roundtrip

/-
  ClassAtlas.Proofs.Interruption — what a listener has heard when it refuses an event.

  `readClass` makes a list of all events and delivers it. Here the class file is told as it
  is gone through: a loop over the fields, in it a loop over the annotations of a field, in
  it a loop over the values of an annotation, each event passed on before the next one is
  made up. A listener changes as it is told, and it may refuse any event, having changed by
  then or not. The refusal then has to get out of all the loops that are being gone through,
  without the ends that each of them would go on to tell.

  That it does is a fact about loops: they tell what the list tells, to any listener
  (`ClassFile.tell_eq`). A list is heard up to the event that is refused and no further
  (`forM_recorded_error`), and only a list of which no event is refused is heard to its end
  (`forM_recorded_ok`).
-/

namespace ClassAtlas

/-- One who is told a class event by event. An event that is refused may leave it changed. -/
abbrev Listener (σ ε : Type) := Event → EStateM ε σ Unit

section Tell

variable {σ ε : Type} (l : Listener σ ε)

namespace AnnotationInfo

def tellValues (a : AnnotationInfo) : EStateM ε σ Unit := forM a.pairs fun p => l (.value p.1 p.2)

def tell (a : AnnotationInfo) : EStateM ε σ Unit := do
  l (.annotationStart a.descriptor a.visible)
  a.tellValues l
  l .finish

def tellOn (index : UInt8) (a : AnnotationInfo) : EStateM ε σ Unit := do
  l (.parameterStart index a.descriptor a.visible)
  a.tellValues l
  l .finish

end AnnotationInfo

namespace MemberInfo

def tellField (m : MemberInfo) : EStateM ε σ Unit := do
  l (.field m.access m.name m.descriptor m.attributes.signature m.attributes.constant)
  forM m.attributes.annotations fun a => a.tell l
  l .finish

def tellMethod (m : MemberInfo) : EStateM ε σ Unit := do
  l (.method m.access m.name m.descriptor m.attributes.signature m.attributes.exceptions)
  forM m.attributes.annotations fun a => a.tell l
  forM m.attributes.parameterAnnotations fun p => p.2.tellOn l p.1
  l .finish

end MemberInfo

def ClassFile.tell (c : ClassFile) : EStateM ε σ Unit := do
  l (.header c.access c.name c.super c.interfaces)
  forM c.attributes.annotations fun a => a.tell l
  forM c.fields fun m => m.tellField l
  forM c.methods fun m => m.tellMethod l
  l .finish

/-- Tell the class in `bytes`. All of it is read before anything is told. -/
def tellClass (bytes : Bytes) : EStateM (UnitError ε) σ ClassVersion :=
  match ClassFile.parse bytes with
  | .error e => throw (.malformed e)
  | .ok c => do
    EStateM.adaptExcept .refused (c.tell l)
    return c.version

/-! ## Loops tell what the list tells -/

theorem forM_flatMap {α : Type} (word : α → List Event) (as : List α) :
    forM (as.flatMap word) l = forM as fun a => forM (word a) l := by
  induction as with
  | nil => rfl
  | cons a as ih => rw [List.flatMap_cons, List.forM_append, List.forM_cons, ih]

/-- A thing told one by one, if each is told by its word. -/
theorem forM_words {α : Type} {word : α → List Event} {tell : α → EStateM ε σ Unit}
    (h : ∀ a, tell a = forM (word a) l) (as : List α) : forM as tell = forM (as.flatMap word) l := by
  rw [forM_flatMap, funext h]

theorem forM_single (e : Event) : forM [e] l = l e := by
  rw [List.forM_cons, List.forM_nil]
  exact bind_pure_unit

namespace AnnotationInfo

theorem closing_eq (a : AnnotationInfo) : forM a.closing l = (do a.tellValues l; l .finish) := by
  rw [closing, List.forM_append, List.forM_map, forM_single]
  rfl

theorem tell_eq (a : AnnotationInfo) : a.tell l = forM a.events l := by
  rw [events, List.forM_cons, closing_eq]
  rfl

theorem tellOn_eq (index : UInt8) (a : AnnotationInfo) : a.tellOn l index = forM (a.eventsOn index) l := by
  rw [eventsOn, List.forM_cons, closing_eq]
  rfl

end AnnotationInfo

namespace MemberInfo

variable (m : MemberInfo)

theorem tellField_eq : m.tellField l = forM m.fieldEvents l := by
  rw [fieldEvents, List.forM_cons, List.forM_append, forM_single, ← forM_words l fun a => a.tell_eq l]
  rfl

theorem tellMethod_eq : m.tellMethod l = forM m.methodEvents l := by
  rw [methodEvents, List.forM_cons, List.forM_append, List.forM_append, forM_single,
    ← forM_words l fun a => a.tell_eq l, ← forM_words l fun p => p.2.tellOn_eq l p.1, bind_assoc]
  rfl

end MemberInfo

theorem ClassFile.tell_eq (c : ClassFile) : c.tell l = forM c.events l := by
  rw [events, List.forM_cons, List.forM_append, List.forM_append, List.forM_append, forM_single,
    ← forM_words l fun a => a.tell_eq l, ← forM_words l fun m => m.tellField_eq l,
    ← forM_words l fun m => m.tellMethod_eq l, bind_assoc, bind_assoc]
  rfl

end Tell

/-! ## What has been heard -/

section Heard

variable {σ ε : Type}

/-- The listener, and beside it what it has been told and what it answered, the oldest event first. -/
def Listener.recorded (l : Listener σ ε) : Listener (σ × List (Event × Except ε Unit)) ε := fun e s =>
  match l e s.1 with
  | .ok _ t => .ok () (t, s.2 ++ [(e, .ok ())])
  | .error err t => .error err (t, s.2 ++ [(e, .error err)])

/-- Events that were taken, as they are recorded. -/
def asTaken (es : List Event) : List (Event × Except ε Unit) := es.map fun e => (e, .ok ())

variable (l : Listener σ ε)

section Step

variable {l} {e : Event} {s t : σ} {err : ε}

theorem forM_cons_of_ok (h : l e s = .ok () t) (es : List Event) : forM (e :: es) l s = forM es l t := by
  rw [List.forM_cons]
  show EStateM.bind (l e) _ s = _
  rw [EStateM.bind, h]

theorem forM_cons_of_error (h : l e s = .error err t) (es : List Event) : forM (e :: es) l s = .error err t := by
  rw [List.forM_cons]
  show EStateM.bind (l e) _ s = _
  rw [EStateM.bind, h]

theorem recorded_of_ok (h : l e s = .ok () t) (heard : List (Event × Except ε Unit)) :
    l.recorded e (s, heard) = .ok () (t, heard ++ [(e, .ok ())]) := by
  rw [Listener.recorded, h]

theorem recorded_of_error (h : l e s = .error err t) (heard : List (Event × Except ε Unit)) :
    l.recorded e (s, heard) = .error err (t, heard ++ [(e, .error err)]) := by
  rw [Listener.recorded, h]

end Step

/-- A list is told to its end just if all of it is taken. -/
theorem forM_recorded_ok (es : List Event) (s t : σ) (heard log : List (Event × Except ε Unit)) :
    forM es l.recorded (s, heard) = .ok () (t, log) ↔ forM es l s = .ok () t ∧ log = heard ++ asTaken es := by
  induction es generalizing s heard with
  | nil =>
    show EStateM.Result.ok () (s, heard) = .ok () (t, log) ↔ EStateM.Result.ok () s = .ok () t ∧ log = heard ++ []
    simp [eq_comm (a := log)]
  | cons e es ih =>
    cases hfirst : l e s with
    | ok _ u =>
      rw [forM_cons_of_ok (recorded_of_ok hfirst heard), forM_cons_of_ok hfirst, ih, List.append_assoc]
      rfl
    | error err u =>
      rw [forM_cons_of_error (recorded_of_error hfirst heard), forM_cons_of_error hfirst]
      simp

/-- A list is broken off just at an event that is refused after the `k` in front of it were taken. What
    comes behind it is not heard. -/
theorem forM_recorded_error (es : List Event) (s u : σ) (heard log : List (Event × Except ε Unit)) (err : ε) :
    forM es l.recorded (s, heard) = .error err (u, log) ↔
      ∃ k, ∃ hk : k < es.length, ∃ t, forM (es.take k) l s = .ok () t ∧ l es[k] t = .error err u ∧
        log = heard ++ asTaken (es.take k) ++ [(es[k], .error err)] := by
  induction es generalizing s heard with
  | nil =>
    constructor
    · intro h
      cases h
    · rintro ⟨k, hk, -⟩
      exact absurd hk (Nat.not_lt_zero k)
  | cons e es ih =>
    cases hfirst : l e s with
    | ok _ v =>
      rw [forM_cons_of_ok (recorded_of_ok hfirst heard), ih]
      constructor
      · rintro ⟨k, hk, t, hfront, hrefused, rfl⟩
        refine ⟨k + 1, Nat.succ_lt_succ hk, t, ?_, hrefused, by simp [asTaken]⟩
        rw [List.take_succ_cons, forM_cons_of_ok hfirst, hfront]
      · rintro ⟨_ | k, hk, t, hfront, hrefused, rfl⟩
        · -- the first event would be the one refused
          cases hfront
          rw [List.getElem_cons_zero, hfirst] at hrefused
          cases hrefused
        · rw [List.take_succ_cons, forM_cons_of_ok hfirst] at hfront
          exact ⟨k, Nat.lt_of_succ_lt_succ hk, t, hfront, hrefused, by simp [asTaken]⟩
    | error err' v =>
      rw [forM_cons_of_error (recorded_of_error hfirst heard)]
      constructor
      · intro h
        cases h
        exact ⟨0, Nat.zero_lt_succ _, s, rfl, hfirst, by simp [asTaken]⟩
      · rintro ⟨_ | k, hk, t, hfront, hrefused, rfl⟩
        · cases hfront
          rw [List.getElem_cons_zero, hfirst] at hrefused
          cases hrefused
          simp [asTaken]
        · -- the first event would have been taken
          rw [List.take_succ_cons, forM_cons_of_error hfirst] at hfront
          cases hfront

end Heard

/-! ## Reading a class -/

section ReadClass

variable {σ ε : Type}

/-- What a receiver is as a listener: one that is as it was after a refusal. -/
def Listener.ofReceiver (receive : σ → Event → Except ε σ) : Listener σ ε := fun e s =>
  match receive s e with
  | .ok t => .ok () t
  | .error err => .error err s

theorem deliver_eq_forM (receive : σ → Event → Except ε σ) (es : List Event) (s : σ) :
    deliver receive s es =
      match forM es (Listener.ofReceiver receive) s with
      | .ok _ t => (t, none)
      | .error err t => (t, some err) := by
  induction es generalizing s with
  | nil => rfl
  | cons e es ih =>
    rw [deliver]
    cases hfirst : receive s e with
    | ok t =>
      have htaken : Listener.ofReceiver receive e s = .ok () t := by rw [Listener.ofReceiver, hfirst]
      rw [forM_cons_of_ok htaken]
      exact ih t
    | error err =>
      have hrefused : Listener.ofReceiver receive e s = .error err s := by rw [Listener.ofReceiver, hfirst]
      rw [forM_cons_of_error hrefused]

variable {l : Listener σ ε} {bytes : Bytes} {s : σ}

theorem tellClass_of_error {e : DecodeError} (h : ClassFile.parse bytes = .error e) :
    tellClass l bytes s = .error (.malformed e) s := by
  rw [tellClass, h]
  rfl

theorem tellClass_of_ok {c : ClassFile} (h : ClassFile.parse bytes = .ok c) :
    tellClass l bytes s =
      match forM c.events l s with
      | .ok _ t => .ok c.version t
      | .error err t => .error (.refused err) t := by
  rw [tellClass, h, ← c.tell_eq l]
  show EStateM.bind (EStateM.adaptExcept UnitError.refused (c.tell l)) _ s = _
  rw [EStateM.bind, EStateM.adaptExcept]
  cases c.tell l s <;> rfl

theorem readClass_eq_tellClass (receive : σ → Event → Except ε σ) (s : σ) (bytes : Bytes) :
    readClass receive s bytes =
      match tellClass (Listener.ofReceiver receive) bytes s with
      | .ok version t => (t, .ok version)
      | .error e t => (t, .error e) := by
  rw [readClass]
  cases hparse : ClassFile.parse bytes with
  | error e => rw [tellClass_of_error hparse]
  | ok c =>
    rw [tellClass_of_ok hparse]
    simp only [deliver_eq_forM]
    cases forM c.events (Listener.ofReceiver receive) s <;> rfl

/-- Telling a class in loops does what reading it does. Take any listener and any bytes. If they are no
    class file, that is the error, and nothing has been heard. If they are, either the listener takes
    every event, has heard them all, and gets the version; or it has taken the first `k` in turn and
    refuses the next, and then its refusal is the error and it has heard nothing else. -/
theorem telling_ends_at_refusal (bytes : Bytes) :
    (∀ (receive : σ → Event → Except ε σ) (s : σ),
      readClass receive s bytes =
        match tellClass (Listener.ofReceiver receive) bytes s with
        | .ok version t => (t, .ok version)
        | .error e t => (t, .error e)) ∧
      ∀ (l : Listener σ ε) (s : σ),
        match ClassFile.parse bytes with
        | .error e => tellClass l.recorded bytes (s, []) = .error (.malformed e) (s, [])
        | .ok c =>
          (∀ version t log, tellClass l.recorded bytes (s, []) = .ok version (t, log) ↔
            version = c.version ∧ forM c.events l s = .ok () t ∧ log = asTaken c.events) ∧
          ∀ e u log, tellClass l.recorded bytes (s, []) = .error e (u, log) ↔
            ∃ k, ∃ hk : k < c.events.length, ∃ t err, forM (c.events.take k) l s = .ok () t ∧
              l c.events[k] t = .error err u ∧ e = .refused err ∧
              log = asTaken (c.events.take k) ++ [(c.events[k], .error err)] := by
  refine ⟨fun receive s => readClass_eq_tellClass receive s bytes, fun l s => ?_⟩
  cases hparse : ClassFile.parse bytes with
  | error e => exact tellClass_of_error hparse
  | ok c =>
    have htold : tellClass l.recorded bytes (s, []) = _ := tellClass_of_ok hparse
    rw [htold]
    refine ⟨fun version t log => ?_, fun e u log => ?_⟩
    · have hall := forM_recorded_ok l c.events s t [] log
      rw [List.nil_append] at hall
      rw [← hall]
      cases forM c.events l.recorded (s, []) with
      | ok _ r => simp [eq_comm (a := version)]
      | error err r => simp
    · have hbroken := forM_recorded_error l c.events s u [] log
      simp only [List.nil_append] at hbroken
      constructor
      · intro h
        cases hrun : forM c.events l.recorded (s, []) with
        | ok _ r => simp [hrun] at h
        | error err r =>
          simp only [hrun, EStateM.Result.error.injEq] at h
          obtain ⟨rfl, rfl⟩ := h
          obtain ⟨k, hk, t, hfront, hrefused, hlog⟩ := (hbroken err).mp hrun
          exact ⟨k, hk, t, err, hfront, hrefused, rfl, hlog⟩
      · rintro ⟨k, hk, t, err, hfront, hrefused, rfl, hlog⟩
        rw [(hbroken err).mpr ⟨k, hk, t, hfront, hrefused, hlog⟩]

/-- A listener that counts what it is told, and has enough at the eleventh event. -/
def refusingEleventh : Listener Nat String := fun _ n => if n = 10 then .error "enough" (n + 1) else .ok () (n + 1)

/-- The eleventh event of thirteen ends the annotation on the parameter of the method. -/
theorem telling_ends_at_refusal_specimen :
    tellClass refusingEleventh.recorded (ClassFile.write ClassOutline.specimen) (0, []) =
      .error (.refused "enough")
        (11, asTaken (ClassOutline.specimen.file.events.take 10) ++ [(.finish, .error "enough")]) := by
  have hparse : ClassFile.parse (ClassFile.write ClassOutline.specimen) = .ok ClassOutline.specimen.file :=
    ClassFile.parse_write ClassOutline.specimen_fits
  have hlength : 10 < ClassOutline.specimen.file.events.length := by decide
  have hevent : ClassOutline.specimen.file.events[10] = .finish := by rfl
  have hcounted : forM (ClassOutline.specimen.file.events.take 10) refusingEleventh 0 = .ok () 10 := by rfl
  have hrefused : refusingEleventh ClassOutline.specimen.file.events[10] 10 = .error "enough" 11 := by rfl
  -- the bytes and the class are kept closed: unfolded, they are too deep to rewrite in
  generalize ClassFile.write ClassOutline.specimen = bytes at hparse ⊢
  generalize ClassOutline.specimen.file = c at *
  have htold := (telling_ends_at_refusal bytes).2 refusingEleventh 0
  rw [hparse] at htold
  refine (htold.2 _ _ _).mpr ⟨10, hlength, 10, "enough", hcounted, hrefused, rfl, ?_⟩
  rw [hevent]

end ReadClass

end ClassAtlas
