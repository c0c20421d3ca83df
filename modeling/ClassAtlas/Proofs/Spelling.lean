import ClassAtlas.Proofs.Naming
import ClassAtlas.Proofs.Selection

/-
  ClassAtlas.Proofs.Spelling — four ways to write a class, and what becomes of each.

  A class file writes the name of a class with slashes (an internal name); people also write
  dots, the name of the file, or an import line (`Spelling`). `Name.normalize` takes
  decorations off one after another, and each step could cut into the name itself. Only one
  does. A name without blanks and semicolons has nothing to trim and no semicolons to lose,
  and the import keyword ends in a blank; so what is left of an import line is the name that
  stands in it (`bared_importLine`). But a file suffix can be part of a name: once slashes are
  dots, a last segment `class` looks the same.

  So a dotted spelling stands for its class unless that segment is there, and the other two
  always do (`normalize_write`). A spelling that does is as good as the name wherever a class
  is asked for (`Spelling.Finds`).
-/

namespace ClassAtlas

namespace Text

/-! ## Nothing to trim -/

theorem dropWhile_eq_self {p : Char → Bool} {s : List Char} (h : ∀ c ∈ s.head?, p c = false) : s.dropWhile p = s := by
  cases s with
  | nil => rfl
  | cons c cs => exact List.dropWhile_cons_of_neg (by simp [h c rfl])

theorem trim_eq_self {s : List Char} (hfirst : ∀ c ∈ s.head?, isBlank c = false)
    (hlast : ∀ c ∈ s.getLast?, isBlank c = false) :
    trim s = s := by
  have hback : ∀ c ∈ s.reverse.head?, isBlank c = false := by
    rw [List.head?_reverse]
    exact hlast
  rw [trim, trimLeft, dropWhile_eq_self hfirst, trimRight, dropWhile_eq_self hback, List.reverse_reverse]

end Text

namespace Name

open Text

/-! ## One step after another -/

/-- No blank in it, and no semicolon. -/
def IsBare (s : List Char) : Prop := ∀ c ∈ s, isBlank c = false ∧ c ≠ ';'

instance (s : List Char) : Decidable (IsBare s) := List.decidableBAll (fun c => isBlank c = false ∧ c ≠ ';') s

def importKeyword : List Char := ['i', 'm', 'p', 'o', 'r', 't', ' ']

def fileSuffix : List Char := ['.', 'c', 'l', 'a', 's', 's']

/-- What is left when all but a file suffix has been taken off. -/
def bared (s : List Char) : List Char := dropSemicolons (dropImport (trim s))

theorem normalize_eq (typed : String) :
    normalize typed = String.ofList
      (((dropFileSuffix (bared typed.toList)).filter fun c => !isBlank c).map slashToDot) :=
  rfl

theorem dropImport_append (s : List Char) : dropImport (importKeyword ++ s) = trim s := by
  have hrest : ['i', 'm', 'p', 'o', 'r', 't', ' '].isPrefixOf? (importKeyword ++ s) = some s :=
    List.isPrefixOf?_eq_some_iff_append_eq.mpr rfl
  rw [dropImport, hrest]

theorem dropFileSuffix_append (s : List Char) : dropFileSuffix (s ++ fileSuffix) = s := by
  have hfront : ['.', 'c', 'l', 'a', 's', 's'].isSuffixOf? (s ++ fileSuffix) = some s :=
    List.isSuffixOf?_eq_some_iff_append_eq.mpr rfl
  rw [dropFileSuffix, hfront, Option.getD_some]

variable {s : List Char}

/-- There is a file suffix, or nothing is taken off. -/
theorem dropFileSuffix_cases (s : List Char) :
    s = dropFileSuffix s ++ fileSuffix ∨ (∀ r, s ≠ r ++ fileSuffix) ∧ dropFileSuffix s = s := by
  by_cases h : ∃ r, s = r ++ fileSuffix
  · obtain ⟨r, rfl⟩ := h
    rw [dropFileSuffix_append]
    exact .inl rfl
  · have hnone : ['.', 'c', 'l', 'a', 's', 's'].isSuffixOf? s = none :=
      Option.eq_none_iff_forall_ne_some.mpr fun r hr => h ⟨r, (List.append_eq_of_isSuffixOf?_eq_some hr).symm⟩
    exact .inr ⟨fun r hr => h ⟨r, hr⟩, by rw [dropFileSuffix, hnone, Option.getD_none]⟩

namespace IsBare

theorem append {t : List Char} (hs : IsBare s) (ht : IsBare t) : IsBare (s ++ t) := by
  intro c hc
  rcases List.mem_append.mp hc with hc | hc
  · exact hs c hc
  · exact ht c hc

theorem trim_eq (h : IsBare s) : trim s = s :=
  trim_eq_self (fun c hc => (h c (List.mem_of_mem_head? hc)).1) fun c hc => (h c (List.mem_of_getLast? hc)).1

/-- The import keyword ends in a blank. -/
theorem dropImport_eq (h : IsBare s) : dropImport s = s := by
  unfold dropImport
  split
  · next rest hrest =>
    have hmem : ' ' ∈ s := by
      rw [← List.append_eq_of_isPrefixOf?_eq_some hrest]
      simp
    exact absurd (h ' ' hmem).1 (by decide)
  · rfl

theorem dropSemicolons_eq (h : IsBare s) : dropSemicolons s = s := by
  unfold dropSemicolons
  refine if_neg fun hlast => ?_
  exact (h ';' (List.mem_of_getLast? hlast)).2 rfl

theorem dropSemicolons_append (h : IsBare s) : dropSemicolons (s ++ [';']) = s := by
  have hfront : s.reverse.dropWhile (· = ';') = s.reverse := by
    refine dropWhile_eq_self fun c hc => ?_
    rw [List.head?_reverse] at hc
    simpa using (h c (List.mem_of_getLast? hc)).2
  have hall : (s ++ [';']).reverse.dropWhile (· = ';') = s.reverse := by
    rw [List.reverse_append, List.reverse_singleton, List.singleton_append,
      List.dropWhile_cons_of_pos (by simp), hfront]
  rw [dropSemicolons, if_pos (by simp), hall, List.reverse_reverse, h.trim_eq]

theorem bared_eq (h : IsBare s) : bared s = s := by
  rw [bared, h.trim_eq, h.dropImport_eq, h.dropSemicolons_eq]

/-- Of an import line the name is left. -/
theorem bared_importLine (h : IsBare s) : bared (importKeyword ++ (s ++ [';'])) = s := by
  have hsemicolon : ∀ t : List Char, ∀ c ∈ (t ++ [';']).getLast?, isBlank c = false := by
    intro t c hc
    obtain rfl : ';' = c := by simpa using hc
    decide
  have hname : trim (s ++ [';']) = s ++ [';'] := by
    refine trim_eq_self (fun c hc => ?_) (hsemicolon s)
    rcases List.mem_append.mp (List.mem_of_mem_head? hc) with hc | hc
    · exact (h c hc).1
    · obtain rfl := List.mem_singleton.mp hc
      decide
  have hline : trim (importKeyword ++ (s ++ [';'])) = importKeyword ++ (s ++ [';']) := by
    refine trim_eq_self (fun c hc => ?_) ?_
    · obtain rfl : 'i' = c := by simpa [importKeyword] using hc
      decide
    · rw [← List.append_assoc]
      exact hsemicolon (importKeyword ++ s)
  rw [bared, hline, dropImport_append, hname, h.dropSemicolons_append]

theorem dropFileSuffix (h : IsBare s) : IsBare (dropFileSuffix s) := by
  rcases dropFileSuffix_cases s with hsuffix | ⟨-, hsame⟩
  · intro c hc
    refine h c ?_
    rw [hsuffix]
    exact List.mem_append_left _ hc
  · rwa [hsame]

theorem filter_eq (h : IsBare s) : (s.filter fun c => !isBlank c) = s :=
  List.filter_eq_self.mpr fun c hc => by rw [(h c hc).1]; rfl

end IsBare

/-- What is typed comes down to what is left of it, without a file suffix. -/
theorem normalize_of_bared {typed : String} (hs : IsBare s) (h : bared typed.toList = s) :
    normalize typed = external (String.ofList (dropFileSuffix s)) := by
  rw [normalize_eq, h, hs.dropFileSuffix.filter_eq, external, String.toList_ofList]

/-! ## Names in a class file -/

/-- A name as a class file writes it: no blank in it, no dot and no semicolon. -/
def IsInternal (s : String) : Prop := ∀ c ∈ s.toList, isBlank c = false ∧ c ≠ '.' ∧ c ≠ ';'

instance (s : String) : Decidable (IsInternal s) :=
  List.decidableBAll (fun c => isBlank c = false ∧ c ≠ '.' ∧ c ≠ ';') s.toList

/-- The last segment is `class`, and there is one before it. -/
def EndsInClass (s : String) : Prop := ∃ r, s = r ++ "/class"

theorem toList_external (s : String) : (external s).toList = s.toList.map slashToDot := String.toList_ofList

theorem external_external (s : String) : external (external s) = external s := by
  have hdot : slashToDot ∘ slashToDot = slashToDot := by
    funext c
    by_cases h : c = '/' <;> simp [slashToDot, h]
  rw [external, toList_external, List.map_map, hdot, external]

namespace IsInternal

variable {s : String}

theorem bare (h : IsInternal s) : IsBare s.toList := fun c hc => ⟨(h c hc).1, (h c hc).2.2⟩

theorem dot_not_mem (h : IsInternal s) : '.' ∉ s.toList := fun hdot => (h '.' hdot).2.1 rfl

theorem external_bare (h : IsInternal s) : IsBare (external s).toList := by
  intro c hc
  rw [toList_external] at hc
  obtain ⟨d, hd, rfl⟩ := List.mem_map.mp hc
  unfold slashToDot
  split
  · decide
  · exact h.bare d hd

/-- Only dots that were slashes can begin a file suffix. -/
theorem external_eq_append_iff (h : IsInternal s) : (∃ r, (external s).toList = r ++ fileSuffix) ↔ EndsInClass s := by
  rw [toList_external]
  constructor
  · rintro ⟨r, hr⟩
    obtain ⟨front, back, hs, -, hback⟩ := List.map_eq_append_iff.mp hr
    have hdot : '.' ∉ back := fun hdot => h.dot_not_mem (by rw [hs]; exact List.mem_append_right _ hdot)
    have hclass : back = "/class".toList := map_slashToDot_inj hdot (by decide) (hback.trans (by decide))
    refine ⟨String.ofList front, String.toList_inj.mp ?_⟩
    rw [String.toList_append, String.toList_ofList, hs, hclass]
  · rintro ⟨r, rfl⟩
    refine ⟨r.toList.map slashToDot, ?_⟩
    rw [String.toList_append, List.map_append]
    exact congrArg _ (by decide)

/-- A dotted name stands for itself unless it ends like the name of a file. -/
theorem external_dropFileSuffix_iff (h : IsInternal s) :
    external (String.ofList (Name.dropFileSuffix (external s).toList)) = external s ↔ ¬EndsInClass s := by
  rw [← h.external_eq_append_iff]
  rcases dropFileSuffix_cases (external s).toList with hsuffix | ⟨hnot, hsame⟩
  · refine ⟨fun heq => ?_, fun hnone => absurd ⟨_, hsuffix⟩ hnone⟩
    have hlength := congrArg (fun t => t.toList.length) heq
    have hlonger := congrArg List.length hsuffix
    simp only [toList_external (String.ofList _), String.toList_ofList, List.length_map] at hlength
    simp only [List.length_append, fileSuffix, List.length_cons, List.length_nil] at hlonger
    omega
  · rw [hsame, String.ofList_toList, external_external]
    exact iff_of_true rfl fun ⟨r, hr⟩ => hnot r hr

end IsInternal

/-- Ways to write a class. -/
inductive Spelling where
  | internal
  | dotted
  | file
  | importLine
  deriving DecidableEq, Repr

namespace Spelling

def write (s : String) : Spelling → String
  | internal => s
  | dotted => external s
  | file => s ++ ".class"
  | importLine => "import " ++ external s ++ ";"

def isDotted : Spelling → Bool
  | dotted | importLine => true
  | internal | file => false

variable {s : String}

theorem normalize_write (h : IsInternal s) (w : Spelling) :
    normalize (w.write s) = external s ↔ (w.isDotted → ¬EndsInClass s) := by
  cases w with
  | internal =>
    have hnot : Name.dropFileSuffix s.toList = s.toList := by
      rcases dropFileSuffix_cases s.toList with hsuffix | ⟨-, hsame⟩
      · exact absurd (by rw [hsuffix]; simp [fileSuffix]) h.dot_not_mem
      · exact hsame
    rw [write, normalize_of_bared h.bare h.bare.bared_eq, hnot, String.ofList_toList]
    simp [isDotted]
  | file =>
    have htyped : (s ++ ".class").toList = s.toList ++ fileSuffix := by
      rw [String.toList_append]
      exact congrArg _ (by decide)
    have hbare : IsBare (s.toList ++ fileSuffix) := h.bare.append (by decide)
    rw [write, normalize_of_bared hbare (by rw [htyped, hbare.bared_eq]), dropFileSuffix_append, String.ofList_toList]
    simp [isDotted]
  | dotted =>
    rw [write, normalize_of_bared h.external_bare h.external_bare.bared_eq, h.external_dropFileSuffix_iff]
    simp [isDotted]
  | importLine =>
    have htyped : ("import " ++ external s ++ ";").toList = importKeyword ++ ((external s).toList ++ [';']) := by
      rw [String.toList_append, String.toList_append, List.append_assoc]
      exact congrArg₂ (fun a b => a ++ ((external s).toList ++ b)) (by decide) (by decide)
    rw [write, normalize_of_bared h.external_bare (by rw [htyped, h.external_bare.bared_importLine]),
      h.external_dropFileSuffix_iff]
    simp [isDotted]

end Spelling

/-- In a descriptor the name of a type stands between its `L` and its semicolon. -/
theorem ofDescriptor_of_internal (s : String) : ofDescriptor ("L" ++ s ++ ";") = external s := by
  have hinner : bareDescriptor ("L" ++ s ++ ";").toList = s.toList := by
    have htyped : ("L" ++ s ++ ";").toList = ['L'] ++ (s.toList ++ [';']) := by
      rw [String.toList_append, String.toList_append, List.append_assoc]
      exact congrArg₂ (fun a b => a ++ (s.toList ++ b)) (by decide) (by decide)
    have hfront : ['L'].isPrefixOf? (['L'] ++ (s.toList ++ [';'])) = some (s.toList ++ [';']) :=
      List.isPrefixOf?_eq_some_iff_append_eq.mpr rfl
    have hback : [';'].isSuffixOf? (s.toList ++ [';']) = some s.toList := List.isSuffixOf?_eq_some_iff_append_eq.mpr rfl
    rw [htyped, bareDescriptor, hfront, Option.bind_some, hback]
  rw [ofDescriptor, hinner, external]

end Name

/-! ## Asking for a class -/

/-- The record is that of a class file that calls its class `s`. -/
def ClassRecord.IsReadOf (record : ClassRecord) (s : String) : Prop :=
  ∃ location retain bytes c version, ClassFile.parse bytes = .ok c ∧ c.name = s ∧
    decodeUnit location retain bytes = .ok (version, record)

theorem ClassRecord.IsReadOf.name_eq {record : ClassRecord} {s : String} (h : record.IsReadOf s) :
    record.name = Name.external s := by
  obtain ⟨location, retain, bytes, c, version, hparse, rfl, hdecode⟩ := h
  rw [decodeUnit_eq, hparse] at hdecode
  cases hdecode
  rfl

/-- The options of a scan that ask for a class. -/
inductive ClassOption where
  | subclassOf
  | annotatedWith
  | memberAnnotatedWith
  deriving DecidableEq, Repr

/-- What the option asks of the class `c` among `classes`, if `name` is asked for. -/
def ClassOption.Asks (classes : List ClassRecord) (name : String) (c : ClassRecord) : ClassOption → Prop
  | subclassOf => c.name ≠ name ∧ ∃ super ∈ c.supertypes, Leads classes name super
  | annotatedWith => ∃ a ∈ c.annotations, a.name = name
  | memberAnnotatedWith =>
    (∃ f ∈ c.fields, ∃ a ∈ f.annotations, a.name = name) ∨
      ∃ m ∈ c.methods, ∃ a ∈ m.annotations, a.name = name

namespace ScanRequest

variable (r : ScanRequest)

/-- What was typed for the option. -/
def given : ClassOption → Option String
  | .subclassOf => r.subclassOf
  | .annotatedWith => r.annotatedWith
  | .memberAnnotatedWith => r.memberAnnotatedWith

def without : ClassOption → ScanRequest
  | .subclassOf => { r with subclassOf := none }
  | .annotatedWith => { r with annotatedWith := none }
  | .memberAnnotatedWith => { r with memberAnnotatedWith := none }

/-- Each of them puts a condition of its own. -/
theorem wants_iff (o : ClassOption) (named : Option (String → Bool)) (classes : List ClassRecord) (c : ClassRecord) :
    r.Wants named classes c ↔
      (r.without o).Wants named classes c ∧ ∀ typed ∈ r.given o, o.Asks classes (Name.normalize typed) c := by
  cases o with
  | subclassOf =>
    exact ⟨fun h => ⟨{ h with descends := fun base hbase => by cases hbase }, h.descends⟩,
      fun h => { h.1 with descends := h.2 }⟩
  | annotatedWith =>
    exact ⟨fun h => ⟨{ h with annotated := fun name hname => by cases hname }, h.annotated⟩,
      fun h => { h.1 with annotated := h.2 }⟩
  | memberAnnotatedWith =>
    exact ⟨fun h => ⟨{ h with memberAnnotated := fun name hname => by cases hname }, h.memberAnnotated⟩,
      fun h => { h.1 with memberAnnotated := h.2 }⟩

end ScanRequest

/-- Wherever a class can be asked for, what is typed asks for the one of that name: of a survey that has
    it, it is the class that is shown, and an option of a scan lists what the option asks of that name,
    and nothing else. -/
structure Finds (typed name : String) : Prop where
  shown : ∀ (survey : Survey) (r : ShowRequest) (record : ClassRecord), r.className = typed →
    record ∈ survey.catalog.records → record.name = name →
      Program.inspected r survey =
        .ok ⟨record, (survey.catalog.directSubclasses name).map (·.name), survey.units⟩
  listed : ∀ (survey : Survey) (r : ScanRequest) (o : ClassOption)
    (named : Option (String → Bool)) (ms : Nat) (c : ClassRecord),
    r.given o = some typed →
      (c ∈ (survey.listing (r.query named) ms).classes ↔
        c ∈ (survey.listing ((r.without o).query named) ms).classes ∧ o.Asks survey.catalog.records name c)

theorem mem_listing_iff {survey : Survey} {r : ScanRequest} {named : Option (String → Bool)} {ms : Nat}
    {c : ClassRecord} :
    c ∈ (survey.listing (r.query named) ms).classes ↔
      c ∈ survey.catalog.records ∧ r.Wants named survey.catalog.records c := by
  rw [← ScanRequest.accepts_query_iff]
  exact List.mem_filter

theorem finds_normalize (typed : String) : Finds typed (Name.normalize typed) where
  shown := by
    rintro survey r record rfl hmem hname
    have hfound := (survey.catalog.mem_records_iff record).mp hmem
    rw [hname] at hfound
    rw [Program.inspected, Survey.portrait, hfound]
    rfl
  listed := by
    intro survey r o named ms c hgiven
    rw [mem_listing_iff, mem_listing_iff, r.wants_iff o, hgiven, and_assoc]
    simp

/-- A class file that calls its class `s` gives a class of the dotted name, and so does a descriptor of
    `s` the type of an annotation. All spellings of `s` come to that name and find what has it, but for
    the two that have dots where the last segment of `s` is `class`: those do not. -/
theorem spellings_alike (s : String) (h : Name.IsInternal s) :
    (∀ record : ClassRecord, record.IsReadOf s → record.name = Name.external s) ∧
      Name.ofDescriptor ("L" ++ s ++ ";") = Name.external s ∧
      ∀ w : Name.Spelling, (Name.normalize (w.write s) = Name.external s ↔ (w.isDotted → ¬Name.EndsInClass s)) ∧
        ((w.isDotted → ¬Name.EndsInClass s) → Finds (w.write s) (Name.external s)) := by
  refine ⟨fun record hread => hread.name_eq, Name.ofDescriptor_of_internal s, fun w => ?_⟩
  have hname := Name.Spelling.normalize_write h w
  refine ⟨hname, fun hw => ?_⟩
  rw [← hname.mpr hw]
  exact finds_normalize (w.write s)

theorem spellings_alike_bar :
    Name.IsInternal "com/foo/Bar" ∧ ¬Name.EndsInClass "com/foo/Bar" ∧
      ∀ w : Name.Spelling, Name.normalize (w.write "com/foo/Bar") = "com.foo.Bar" ∧
        Finds (w.write "com/foo/Bar") "com.foo.Bar" := by
  have hinternal : Name.IsInternal "com/foo/Bar" := by decide
  have hend : ¬Name.EndsInClass "com/foo/Bar" := by
    rw [← hinternal.external_eq_append_iff]
    rintro ⟨r, hr⟩
    have hlast := congrArg List.getLast? hr
    rw [List.getLast?_append, Option.or_of_isSome (by decide)] at hlast
    exact absurd hlast (by decide)
  have hdotted : Name.external "com/foo/Bar" = "com.foo.Bar" := by decide
  obtain ⟨-, -, hspellings⟩ := spellings_alike "com/foo/Bar" hinternal
  rw [hdotted] at hspellings
  exact ⟨hinternal, hend, fun w => ⟨(hspellings w).1.mpr fun _ => hend, (hspellings w).2 fun _ => hend⟩⟩

/-- A dotted name that ends in a segment `class` is taken for that of a file, also in an import line. -/
theorem class_segment_cut :
    Name.IsInternal "a/class" ∧ Name.external "a/class" = "a.class" ∧
      ∀ w : Name.Spelling, w.isDotted → Name.normalize (w.write "a/class") = "a" ∧ "a" ≠ Name.external "a/class" := by
  have hinternal : Name.IsInternal "a/class" := by decide
  have hother : "a" ≠ Name.external "a/class" := by decide
  refine ⟨hinternal, by decide, fun w hw => ⟨?_, hother⟩⟩
  cases w with
  | dotted => decide
  | importLine => decide
  | internal => cases hw
  | file => cases hw

end ClassAtlas
