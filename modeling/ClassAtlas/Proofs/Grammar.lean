import ClassAtlas.Proofs.Roundtrip

/-
  ClassAtlas.Proofs.Grammar — a class file can be read off the stream that tells it.

  The grammar of a stream is written down once more, as what a word says: a `ClassTree`
  holds the header, the members and their annotations in order, and `Whole` relates a tree
  to the words that spell it. Values and ends name no owner, so it has to be shown that the
  owner can be told: a word of each kind begins with a token of its own and shows where it
  ends, whatever comes behind it (`Delimited`). Words of a kind can then stand one after
  another, up to the first token that begins none of them (`Delimited.star`), and that is
  all the grammar does, five times over.

  So no two trees have a word in common (`whole_unique`), and the word that a class file is
  told in has the tree of that class file (`whole_events`), whoever listens.
-/

namespace ClassAtlas

/-! ## Trees -/

/-- A field as it is declared, and its annotations. -/
structure FieldTree where
  access : Access
  name : String
  descriptor : String
  signature : Option String
  value : Option Constant
  annotations : List AnnotationInfo

structure MethodTree where
  access : Access
  name : String
  descriptor : String
  signature : Option String
  exceptions : Option (List String)
  annotations : List AnnotationInfo
  parameterAnnotations : List (UInt8 × AnnotationInfo)

structure ClassTree where
  access : Access
  name : String
  super : Option String
  interfaces : List String
  annotations : List AnnotationInfo
  fields : List FieldTree
  methods : List MethodTree

def MemberInfo.fieldTree (m : MemberInfo) : FieldTree :=
  ⟨m.access, m.name, m.descriptor, m.attributes.signature, m.attributes.constant, m.attributes.annotations⟩

def MemberInfo.methodTree (m : MemberInfo) : MethodTree :=
  ⟨m.access, m.name, m.descriptor, m.attributes.signature, m.attributes.exceptions, m.attributes.annotations,
    m.attributes.parameterAnnotations⟩

def ClassFile.tree (c : ClassFile) : ClassTree :=
  ⟨c.access, c.name, c.super, c.interfaces, c.attributes.annotations, c.fields.map MemberInfo.fieldTree,
    c.methods.map MemberInfo.methodTree⟩

/-! ## Words -/

namespace Grammar

/-- Words of one kind, one after another. -/
inductive Star {α : Type} (Part : α → List Event → Prop) : List α → List Event → Prop
  | nil : Star Part [] []
  | cons {a : α} {as : List α} {es fs : List Event} : Part a es → Star Part as fs → Star Part (a :: as) (es ++ fs)

inductive Pair : String × Value → List Event → Prop
  | mk (name : String) (v : Value) : Pair (name, v) [.value name v]

inductive Annotation : AnnotationInfo → List Event → Prop
  | mk (descriptor : String) (visible : Bool) {pairs : List (String × Value)} {values : List Event} :
      Star Pair pairs values →
        Annotation ⟨descriptor, visible, pairs⟩ (.annotationStart descriptor visible :: (values ++ [.finish]))

inductive ParameterAnnotation : UInt8 × AnnotationInfo → List Event → Prop
  | mk (index : UInt8) (descriptor : String) (visible : Bool) {pairs : List (String × Value)} {values : List Event} :
      Star Pair pairs values →
        ParameterAnnotation (index, ⟨descriptor, visible, pairs⟩)
          (.parameterStart index descriptor visible :: (values ++ [.finish]))

inductive Field : FieldTree → List Event → Prop
  | mk (access : Access) (name descriptor : String) (signature : Option String) (value : Option Constant)
      {annotations : List AnnotationInfo} {notes : List Event} :
      Star Annotation annotations notes →
        Field ⟨access, name, descriptor, signature, value, annotations⟩
          (.field access name descriptor signature value :: (notes ++ [.finish]))

inductive Method : MethodTree → List Event → Prop
  | mk (access : Access) (name descriptor : String) (signature : Option String) (exceptions : Option (List String))
      {annotations : List AnnotationInfo} {parameterAnnotations : List (UInt8 × AnnotationInfo)}
      {notes parameterNotes : List Event} :
      Star Annotation annotations notes → Star ParameterAnnotation parameterAnnotations parameterNotes →
        Method ⟨access, name, descriptor, signature, exceptions, annotations, parameterAnnotations⟩
          (.method access name descriptor signature exceptions :: (notes ++ (parameterNotes ++ [.finish])))

/-- A whole unit. -/
inductive Whole : ClassTree → List Event → Prop
  | mk (access : Access) (name : String) (super : Option String) (interfaces : List String)
      {annotations : List AnnotationInfo} {fields : List FieldTree} {methods : List MethodTree}
      {notes fieldWords methodWords : List Event} :
      Star Annotation annotations notes → Star Field fields fieldWords → Star Method methods methodWords →
        Whole ⟨access, name, super, interfaces, annotations, fields, methods⟩
          (.header access name super interfaces :: (notes ++ (fieldWords ++ (methodWords ++ [.finish]))))

/-! ## A class file's word -/

theorem star_flatMap {α β : Type} {Part : β → List Event → Prop} {f : α → β} {word : α → List Event}
    (h : ∀ a, Part (f a) (word a)) (as : List α) : Star Part (as.map f) (as.flatMap word) := by
  induction as with
  | nil => exact .nil
  | cons a as ih => exact .cons (h a) ih

theorem star_pairs (pairs : List (String × Value)) : Star Pair pairs (pairs.map fun p => .value p.1 p.2) := by
  induction pairs with
  | nil => exact .nil
  | cons p pairs ih => exact .cons (.mk p.1 p.2) ih

theorem annotation_events (a : AnnotationInfo) : Annotation a a.events :=
  .mk a.descriptor a.visible (star_pairs a.pairs)

theorem parameterAnnotation_events (p : UInt8 × AnnotationInfo) : ParameterAnnotation p (p.2.eventsOn p.1) :=
  .mk p.1 p.2.descriptor p.2.visible (star_pairs p.2.pairs)

theorem star_annotations (as : List AnnotationInfo) : Star Annotation as (as.flatMap AnnotationInfo.events) := by
  have hstar := star_flatMap (f := id) annotation_events as
  rwa [List.map_id] at hstar

theorem star_parameterAnnotations (ps : List (UInt8 × AnnotationInfo)) :
    Star ParameterAnnotation ps (ps.flatMap fun p => AnnotationInfo.eventsOn p.1 p.2) := by
  have hstar := star_flatMap (f := id) parameterAnnotation_events ps
  rwa [List.map_id] at hstar

theorem field_events (m : MemberInfo) : Field m.fieldTree m.fieldEvents :=
  .mk m.access m.name m.descriptor m.attributes.signature m.attributes.constant
    (star_annotations m.attributes.annotations)

theorem method_events (m : MemberInfo) : Method m.methodTree m.methodEvents := by
  rw [MemberInfo.methodEvents, List.append_assoc]
  exact .mk m.access m.name m.descriptor m.attributes.signature m.attributes.exceptions
    (star_annotations m.attributes.annotations) (star_parameterAnnotations m.attributes.parameterAnnotations)

theorem whole_events (c : ClassFile) : Whole c.tree c.events := by
  rw [ClassFile.events, List.append_assoc, List.append_assoc]
  exact .mk c.access c.name c.super c.interfaces (star_annotations c.attributes.annotations)
    (star_flatMap field_events c.fields) (star_flatMap method_events c.methods)

/-! ## One tree for a word -/

inductive Token where
  | header
  | field
  | method
  | note
  | parameter
  | value
  | finish
  deriving DecidableEq

def token : Event → Token
  | .header _ _ _ _ => .header
  | .field _ _ _ _ _ => .field
  | .method _ _ _ _ _ => .method
  | .annotationStart _ _ => .note
  | .parameterStart _ _ _ => .parameter
  | .value _ _ => .value
  | .finish => .finish

/-- What comes next does not begin with that token. -/
def Shut (t : Token) (rest : List Event) : Prop := ∀ e ∈ rest.head?, token e ≠ t

/-- A word of this kind begins with that token, and it can be told from whatever comes behind it. -/
structure Delimited {α : Type} (t : Token) (Part : α → List Event → Prop) : Prop where
  begins : ∀ {a es}, Part a es → ∃ e rest, es = e :: rest ∧ token e = t
  unique : ∀ {a b es fs x y}, Part a es → Part b fs → es ++ x = fs ++ y → a = b ∧ x = y

theorem shut_cons {t : Token} {e : Event} (h : token e ≠ t) (rest : List Event) : Shut t (e :: rest) := by
  intro e' he
  rw [List.head?_cons, Option.mem_some_iff] at he
  rwa [← he]

theorem shut_finish {t : Token} (h : .finish ≠ t) (rest : List Event) : Shut t (.finish :: rest) :=
  shut_cons (e := .finish) h rest

section Delimited

variable {α : Type} {t : Token} {Part : α → List Event → Prop} (h : Delimited t Part)
include h

/-- Where no word of the kind can begin, none has. -/
theorem not_shut {a : α} {es : List Event} (ha : Part a es) (fs rest : List Event) : ¬ Shut t (es ++ fs ++ rest) := by
  obtain ⟨e, more, rfl, he⟩ := h.begins ha
  exact fun hshut => hshut e rfl he

/-- Words of another kind may come, or what comes behind them. -/
theorem shut_star {u : Token} (hne : t ≠ u) {as : List α} {es rest : List Event} (hstar : Star Part as es)
    (hrest : Shut u rest) : Shut u (es ++ rest) := by
  cases hstar with
  | nil => exact hrest
  | cons ha _ =>
    obtain ⟨e, more, rfl, he⟩ := h.begins ha
    exact shut_cons (by rwa [he]) _

/-- Words one after another can be told apart, and from what comes behind them if that cannot be one more. -/
theorem Delimited.star {as bs : List α} {es fs x y : List Event} (ha : Star Part as es) (hb : Star Part bs fs)
    (heq : es ++ x = fs ++ y) (hx : Shut t x) (hy : Shut t y) : as = bs ∧ x = y := by
  induction ha generalizing bs fs with
  | nil =>
    cases hb with
    | nil => exact ⟨rfl, heq⟩
    | cons hb _ =>
      rw [List.nil_append] at heq
      exact absurd (heq ▸ hx) (not_shut h hb _ _)
  | cons ha _ ih =>
    cases hb with
    | nil =>
      rw [List.nil_append] at heq
      exact absurd (heq ▸ hy) (not_shut h ha _ _)
    | cons hb hbs =>
      rw [List.append_assoc, List.append_assoc] at heq
      obtain ⟨hhead, htail⟩ := h.unique ha hb heq
      obtain ⟨hrest, hend⟩ := ih hbs htail
      exact ⟨by rw [hhead, hrest], hend⟩

/-- Most often an end comes behind them. -/
theorem Delimited.star_finish (ht : .finish ≠ t) {as bs : List α} {es fs x y : List Event} (ha : Star Part as es)
    (hb : Star Part bs fs) (heq : es ++ .finish :: x = fs ++ .finish :: y) : as = bs ∧ x = y := by
  obtain ⟨hparts, hrest⟩ := h.star ha hb heq (shut_finish ht x) (shut_finish ht y)
  exact ⟨hparts, (List.cons.inj hrest).2⟩

end Delimited

theorem delimited_pair : Delimited .value Pair where
  begins := by
    rintro _ _ ⟨name, v⟩
    exact ⟨_, _, rfl, rfl⟩
  unique := by
    rintro _ _ _ _ x y ⟨name, v⟩ ⟨name', v'⟩ heq
    simp only [List.singleton_append, List.cons.injEq, Event.value.injEq] at heq
    obtain ⟨⟨rfl, rfl⟩, hrest⟩ := heq
    exact ⟨rfl, hrest⟩

theorem delimited_annotation : Delimited .note Annotation where
  begins := by
    rintro _ _ ⟨descriptor, visible, _⟩
    exact ⟨_, _, rfl, rfl⟩
  unique := by
    rintro _ _ _ _ x y ⟨descriptor, visible, hp⟩ ⟨descriptor', visible', hq⟩ heq
    simp only [List.cons_append, List.append_assoc, List.nil_append, List.cons.injEq,
      Event.annotationStart.injEq] at heq
    obtain ⟨⟨rfl, rfl⟩, hrest⟩ := heq
    obtain ⟨rfl, hend⟩ := delimited_pair.star_finish (by decide) hp hq hrest
    exact ⟨rfl, hend⟩

theorem delimited_parameterAnnotation : Delimited .parameter ParameterAnnotation where
  begins := by
    rintro _ _ ⟨index, descriptor, visible, _⟩
    exact ⟨_, _, rfl, rfl⟩
  unique := by
    rintro _ _ _ _ x y ⟨index, descriptor, visible, hp⟩ ⟨index', descriptor', visible', hq⟩ heq
    simp only [List.cons_append, List.append_assoc, List.nil_append, List.cons.injEq, Event.parameterStart.injEq] at heq
    obtain ⟨⟨rfl, rfl, rfl⟩, hrest⟩ := heq
    obtain ⟨rfl, hend⟩ := delimited_pair.star_finish (by decide) hp hq hrest
    exact ⟨rfl, hend⟩

theorem delimited_field : Delimited .field Field where
  begins := by
    rintro _ _ ⟨access, name, descriptor, signature, value, _⟩
    exact ⟨_, _, rfl, rfl⟩
  unique := by
    rintro _ _ _ _ x y ⟨access, name, descriptor, signature, value, ha⟩
      ⟨access', name', descriptor', signature', value', hb⟩ heq
    simp only [List.cons_append, List.append_assoc, List.nil_append, List.cons.injEq, Event.field.injEq] at heq
    obtain ⟨⟨rfl, rfl, rfl, rfl, rfl⟩, hrest⟩ := heq
    obtain ⟨rfl, hend⟩ := delimited_annotation.star_finish (by decide) ha hb hrest
    exact ⟨rfl, hend⟩

/-- The annotations of a method itself end where those of its parameters begin, or at its end. -/
theorem delimited_method : Delimited .method Method where
  begins := by
    rintro _ _ ⟨access, name, descriptor, signature, exceptions, _, _⟩
    exact ⟨_, _, rfl, rfl⟩
  unique := by
    rintro _ _ _ _ x y ⟨access, name, descriptor, signature, exceptions, ha, hp⟩
      ⟨access', name', descriptor', signature', exceptions', hb, hq⟩ heq
    simp only [List.cons_append, List.append_assoc, List.nil_append, List.cons.injEq, Event.method.injEq] at heq
    obtain ⟨⟨rfl, rfl, rfl, rfl, rfl⟩, hrest⟩ := heq
    have hshut : ∀ {ps es} (z : List Event), Star ParameterAnnotation ps es → Shut .note (es ++ .finish :: z) :=
      fun z hstar => shut_star delimited_parameterAnnotation (by decide) hstar (shut_finish (by decide) z)
    obtain ⟨rfl, hparameters⟩ := delimited_annotation.star ha hb hrest (hshut x hp) (hshut y hq)
    obtain ⟨rfl, hend⟩ := delimited_parameterAnnotation.star_finish (by decide) hp hq hparameters
    exact ⟨rfl, hend⟩

/-- A stream has one tree, or none. -/
theorem whole_unique {a b : ClassTree} {es : List Event} (ha : Whole a es) (hb : Whole b es) : a = b := by
  obtain ⟨access, name, super, interfaces, hnotes, hfields, hmethods⟩ := ha
  generalize hes : Event.header access name super interfaces :: _ = es at hb
  obtain ⟨access', name', super', interfaces', hnotes', hfields', hmethods'⟩ := hb
  simp only [List.cons.injEq, Event.header.injEq] at hes
  obtain ⟨⟨rfl, rfl, rfl, rfl⟩, hrest⟩ := hes
  have hmethod : ∀ {t ms es}, t ≠ .method → .finish ≠ t → Star Method ms es → Shut t (es ++ [.finish]) :=
    fun hm hf hstar => shut_star delimited_method hm.symm hstar (shut_finish hf [])
  have hfield : ∀ {fs ms es gs}, Star Field fs es → Star Method ms gs → Shut .note (es ++ (gs ++ [.finish])) :=
    fun hf hm => shut_star delimited_field (by decide) hf (hmethod (by decide) (by decide) hm)
  obtain ⟨rfl, hrest⟩ :=
    delimited_annotation.star hnotes hnotes' hrest (hfield hfields hmethods) (hfield hfields' hmethods')
  obtain ⟨rfl, hrest⟩ := delimited_field.star hfields hfields' hrest (hmethod (by decide) (by decide) hmethods)
    (hmethod (by decide) (by decide) hmethods')
  obtain ⟨rfl, -⟩ := delimited_method.star_finish (by decide) hmethods hmethods' hrest
  rfl

end Grammar

/-! ## Listening -/

variable {σ ε : Type}

/-- The receiver, and beside it what it has been told, the oldest event first. -/
def logging (receive : σ → Event → Except ε σ) (s : σ × List Event) (e : Event) : Except ε (σ × List Event) :=
  (receive s.1 e).map fun t => (t, s.2 ++ [e])

/-- A receiver that never refuses is told everything, and the log does not disturb it. -/
theorem deliver_logging {receive : σ → Event → Except ε σ} (hnever : ∀ s e, ∃ t, receive s e = .ok t)
    (es : List Event) (s : σ) (log : List Event) :
    ∃ t, deliver receive s es = (t, none) ∧
      deliver (logging receive) (s, log) es = ((t, log ++ es), none) := by
  induction es generalizing s log with
  | nil => exact ⟨s, rfl, by rw [List.append_nil]; rfl⟩
  | cons e es ih =>
    obtain ⟨u, hu⟩ := hnever s e
    obtain ⟨t, htold, hlogged⟩ := ih u (log ++ [e])
    refine ⟨t, by rw [deliver, hu]; exact htold, ?_⟩
    have hstep : logging receive (s, log) e = .ok (u, log ++ [e]) := by simp [logging, hu, Except.map]
    rw [deliver, hstep]
    simpa using hlogged

/-- A receiver that never refuses is told a class file in one word of the grammar, whatever it does with
    it, and of all trees this word has the class file's: its header, its class annotations, its fields and
    its methods, each member with what declares it and with its own annotations, each annotation with its
    own values, and all in the order of the file. Bytes that are no class file are told in no word at all. -/
theorem readClass_tells_tree (receive : σ → Event → Except ε σ) (hnever : ∀ s e, ∃ t, receive s e = .ok t)
    (s : σ) (bytes : Bytes) :
    ∃ t word answer, readClass receive s bytes = (t, answer) ∧
      readClass (logging receive) (s, []) bytes = ((t, word), answer) ∧
      match ClassFile.parse bytes with
      | .error e => answer = .error (.malformed e) ∧ word = []
      | .ok c =>
        answer = .ok c.version ∧ Grammar.Whole c.tree word ∧ ∀ tree, Grammar.Whole tree word → tree = c.tree := by
  unfold readClass
  cases hparse : ClassFile.parse bytes with
  | error e => exact ⟨s, [], _, rfl, rfl, rfl, rfl⟩
  | ok c =>
    obtain ⟨t, htold, hlogged⟩ := deliver_logging hnever c.events s []
    rw [List.nil_append] at hlogged
    refine ⟨t, c.events, .ok c.version, ?_, ?_, rfl, Grammar.whole_events c, fun tree htree => ?_⟩
    · simp only [htold]
    · simp only [hlogged]
    · exact Grammar.whole_unique htree (Grammar.whole_events c)

/-- A receiver that counts what it is told. -/
def counting (n : Nat) (_ : Event) : Except Empty Nat := .ok (n + 1)

theorem readClass_tells_specimen :
    (∀ n e, ∃ m, counting n e = .ok m) ∧
      ∃ word, readClass counting 0 (ClassFile.write ClassOutline.specimen) = (13, .ok ⟨52, 0⟩) ∧
        readClass (logging counting) (0, []) (ClassFile.write ClassOutline.specimen) = ((13, word), .ok ⟨52, 0⟩) ∧
        Grammar.Whole ClassOutline.specimen.file.tree word ∧
          ∀ tree, Grammar.Whole tree word → tree = ClassOutline.specimen.file.tree := by
  have hparse : ClassFile.parse (ClassFile.write ClassOutline.specimen) = .ok ClassOutline.specimen.file :=
    ClassFile.parse_write ClassOutline.specimen_fits
  have hcount : readClass counting 0 (ClassFile.write ClassOutline.specimen) = (13, .ok ⟨52, 0⟩) := by
    rw [readClass, hparse]
    rfl
  have hnever : ∀ n e, ∃ m, counting n e = .ok m := fun n _ => ⟨n + 1, rfl⟩
  have htold := readClass_tells_tree counting hnever 0 (ClassFile.write ClassOutline.specimen)
  rw [hparse, hcount] at htold
  obtain ⟨t, word, answer, hsame, hlogged, -, hwhole, hunique⟩ := htold
  obtain ⟨rfl, rfl⟩ := Prod.mk.inj hsame
  exact ⟨hnever, word, hcount, hlogged, hwhole, hunique⟩

end ClassAtlas
