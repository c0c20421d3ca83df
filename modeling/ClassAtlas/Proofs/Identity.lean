import ClassAtlas.Proofs.Roundtrip

/-
  ClassAtlas.Proofs.Identity — which members of one class compare equal.

  Members are compared by their signatures and by the class that declares them. Those of one
  class agree in the second, so the signature alone tells them apart (`FieldRecord.same_iff`,
  `MethodRecord.same_iff`, `MethodRecord.order_eq_iff`), and their names do so only as far as
  they are in it.

  A signature that is made up has the name at its end for a field and in front for a method,
  and one that begins with the parameters gets the name in front as well. There the name can be
  read off, provided it has no sign in it that could end it (`eq_of_append_cons`). A signature
  that is supplied otherwise stands as it is, without a name: members that share one are the
  same, whatever they are called (`decodeUnit_twins`).
-/

namespace ClassAtlas

/-- Where the first `c` stands, a text has one front only. -/
theorem eq_of_append_cons {α : Type} {c : α} {front front' back back' : List α} (h : c ∉ front) (h' : c ∉ front')
    (heq : front ++ c :: back = front' ++ c :: back') : front = front' := by
  induction front generalizing front' with
  | nil =>
    cases front' with
    | nil => rfl
    | cons b bs =>
      have hc : c = b := (List.cons.inj heq).1
      exact absurd (hc ▸ List.mem_cons_self) h'
  | cons a as ih =>
    cases front' with
    | nil =>
      have ha : a = c := (List.cons.inj heq).1
      exact absurd (ha ▸ List.mem_cons_self) h
    | cons b bs =>
      obtain ⟨hab, hrest⟩ := List.cons.inj heq
      have has : c ∉ as := fun hc => h (List.mem_cons_of_mem a hc)
      have hbs : c ∉ bs := fun hc => h' (List.mem_cons_of_mem b hc)
      rw [hab, ih has hbs hrest]

/-! ## What is compared -/

theorem FieldRecord.same_iff {f g : FieldRecord} (h : f.declaringClass = g.declaringClass) :
    f.same g = true ↔ f.signature = g.signature := by
  simp [FieldRecord.same, h]

theorem MethodRecord.same_iff {m n : MethodRecord} (h : m.declaringClass = n.declaringClass) :
    m.same n = true ↔ m.signature = n.signature := by
  simp [MethodRecord.same, h]

theorem compareOfLessAndEq_eq_iff (a b : String) : compareOfLessAndEq a b = .eq ↔ a = b := by
  show compare a b = .eq ↔ a = b
  exact Std.LawfulEqOrd.compare_eq_iff_eq

theorem MethodRecord.order_eq_iff {m n : MethodRecord} (h : m.declaringClass = n.declaringClass) :
    m.order n = .eq ↔ m.signature = n.signature := by
  rw [MethodRecord.order, Ordering.then_eq_eq, compareOfLessAndEq_eq_iff, compareOfLessAndEq_eq_iff]
  exact ⟨fun hboth => hboth.1, fun hsignature => ⟨hsignature, h⟩⟩

/-! ## Names in signatures -/

namespace MemberInfo

/-- What of a field's signature could hide where its name begins. -/
def fieldText (m : MemberInfo) : String := m.attributes.signature.getD m.name

/-- The signature is the name and the parameters behind it. -/
def IsNamed (m : MemberInfo) : Prop :=
  '(' ∉ m.name.toList ∧ (m.attributes.signature.getD m.descriptor).toList.head? = some '('

/-- The signature begins with type parameters, and they are supplied. -/
def IsGeneric (m : MemberInfo) : Prop := ∃ s, m.attributes.signature = some s ∧ s.toList.head? = some '<'

variable {m n : MemberInfo} {owner : String}

theorem field_same_iff :
    (m.field owner).same (n.field owner) = true ↔ (m.field owner).signature = (n.field owner).signature :=
  FieldRecord.same_iff rfl

theorem method_same_iff :
    (m.method owner).same (n.method owner) = true ↔ (m.method owner).signature = (n.method owner).signature :=
  MethodRecord.same_iff rfl

theorem method_order_eq_iff :
    (m.method owner).order (n.method owner) = .eq ↔ (m.method owner).signature = (n.method owner).signature :=
  MethodRecord.order_eq_iff rfl

theorem field_signature_of_none (h : m.attributes.signature = none) :
    (m.field owner).signature = m.descriptor ++ " " ++ m.name := by
  simp only [MemberInfo.field, fieldSignature, h, Option.getD_none]

theorem field_signature_of_some {s : String} (h : m.attributes.signature = some s) : (m.field owner).signature = s := by
  simp only [MemberInfo.field, fieldSignature, h, Option.getD_some]

/-- Behind its last space the signature of the first has its name; the other has another name there, or no
    space at all. -/
theorem field_signature_ne (hname : m.name ≠ n.name) (hm : m.attributes.signature = none)
    (hmtext : ' ' ∉ m.fieldText.toList) (hntext : ' ' ∉ n.fieldText.toList) :
    (m.field owner).signature ≠ (n.field owner).signature := by
  rw [field_signature_of_none hm]
  rw [fieldText, hm, Option.getD_none] at hmtext
  cases hn : n.attributes.signature with
  | none =>
    rw [field_signature_of_none hn]
    rw [fieldText, hn, Option.getD_none] at hntext
    intro heq
    have hreversed := congrArg (fun s => s.toList.reverse) heq
    have hspace : " ".toList.reverse = [' '] := by decide
    simp only [String.toList_append, List.reverse_append, hspace, List.singleton_append] at hreversed
    have hnames : m.name.toList.reverse = n.name.toList.reverse :=
      eq_of_append_cons (by simpa using hmtext) (by simpa using hntext) hreversed
    exact hname (String.toList_inj.mp (List.reverse_inj.mp hnames))
  | some s =>
    rw [field_signature_of_some hn]
    rw [fieldText, hn, Option.getD_some] at hntext
    intro heq
    apply hntext
    rw [← heq]
    simp

theorem method_signature_of_named (owner : String) (h : m.IsNamed) :
    ∃ back, (m.method owner).signature.toList = m.name.toList ++ '(' :: back := by
  obtain ⟨-, hhead⟩ := h
  cases hs : m.attributes.signature with
  | none =>
    rw [hs, Option.getD_none] at hhead
    obtain ⟨back, hback⟩ := List.head?_eq_some_iff.mp hhead
    exact ⟨back, by simp only [MemberInfo.method, methodSignature, hs, String.toList_append, hback]⟩
  | some s =>
    rw [hs, Option.getD_some] at hhead
    obtain ⟨back, hback⟩ := List.head?_eq_some_iff.mp hhead
    refine ⟨back, ?_⟩
    simp only [MemberInfo.method, methodSignature, hs]
    rw [if_pos hhead, String.toList_append, hback]

/-- A signature that does not begin with the parameters stands as it is. -/
theorem method_signature_of_some {s : String} (h : m.attributes.signature = some s)
    (hhead : s.toList.head? ≠ some '(') :
    (m.method owner).signature = s := by
  simp only [MemberInfo.method, methodSignature, h, hhead, if_false]

theorem method_signature_ne (hname : m.name ≠ n.name) (hm : m.IsNamed) (hn : n.IsNamed) :
    (m.method owner).signature ≠ (n.method owner).signature := by
  obtain ⟨back, hback⟩ := method_signature_of_named owner hm
  obtain ⟨back', hback'⟩ := method_signature_of_named owner hn
  intro heq
  rw [heq, hback'] at hback
  exact hname (String.toList_inj.mp (eq_of_append_cons hn.1 hm.1 hback)).symm

theorem method_signature_ne_generic (hm : m.IsNamed) (hhead : m.name.toList.head? ≠ some '<') (hn : n.IsGeneric) :
    (m.method owner).signature ≠ (n.method owner).signature := by
  obtain ⟨back, hback⟩ := method_signature_of_named owner hm
  obtain ⟨s, hs, hsHead⟩ := hn
  rw [method_signature_of_some hs (by rw [hsHead]; decide)]
  intro heq
  rw [← heq, hback] at hsHead
  cases hlist : m.name.toList with
  | nil =>
    rw [hlist] at hsHead
    cases hsHead
  | cons c cs =>
    rw [hlist] at hsHead hhead
    exact hhead hsHead

/-- The names of two fields show in their signatures: one of them has no signature of its own, and neither
    has a space in its own signature or else in its name. -/
def FieldsShow (m n : MemberInfo) : Prop :=
  (m.attributes.signature = none ∨ n.attributes.signature = none) ∧ ' ' ∉ m.fieldText.toList ∧
    ' ' ∉ n.fieldText.toList

/-- The names of two methods show in their signatures: both are in front of the parameters, or one is and
    cannot be taken for the type parameters of the other. -/
def MethodsShow (m n : MemberInfo) : Prop :=
  (m.IsNamed ∧ n.IsNamed) ∨ (m.IsNamed ∧ m.name.toList.head? ≠ some '<' ∧ n.IsGeneric) ∨
    (n.IsNamed ∧ n.name.toList.head? ≠ some '<' ∧ m.IsGeneric)

theorem signature_ne_of_fieldsShow (hname : m.name ≠ n.name) (h : m.FieldsShow n) :
    (m.field owner).signature ≠ (n.field owner).signature := by
  obtain ⟨hm | hn, hmtext, hntext⟩ := h
  · exact field_signature_ne hname hm hmtext hntext
  · exact (field_signature_ne hname.symm hn hntext hmtext).symm

theorem signature_ne_of_methodsShow (hname : m.name ≠ n.name) (h : m.MethodsShow n) :
    (m.method owner).signature ≠ (n.method owner).signature := by
  rcases h with ⟨hm, hn⟩ | ⟨hm, hhead, hn⟩ | ⟨hn, hhead, hm⟩
  · exact method_signature_ne hname hm hn
  · exact method_signature_ne_generic hm hhead hn
  · exact (method_signature_ne_generic hn hhead hm).symm

end MemberInfo

/-! ## The members of one class -/

theorem declaringClass_of_mem_fields {ms : List MemberInfo} {owner : String} {f : FieldRecord}
    (h : f ∈ ms.map (·.field owner)) : f.declaringClass = owner := by
  obtain ⟨m, -, rfl⟩ := List.mem_map.mp h
  rfl

theorem declaringClass_of_mem_methods {ms : List MemberInfo} {owner : String} {m : MethodRecord}
    (h : m ∈ ms.map (·.method owner)) : m.declaringClass = owner := by
  obtain ⟨m, -, rfl⟩ := List.mem_map.mp h
  rfl

/-- In the record of a unit two fields are the same just if their signatures are, and so are two methods,
    which are then also equal in their order. So members of different names are never the same where the
    names show in the signatures; and where both signatures are supplied, and stand as they are, these
    decide alone, whatever the names. -/
theorem decodeUnit_members_same {location : String} {retain : Bool} {bytes : Bytes} {version : ClassVersion}
    {r : ClassRecord} (h : decodeUnit location retain bytes = .ok (version, r)) :
    ∃ c, ClassFile.parse bytes = .ok c ∧ r.fields = c.fields.map (·.field r.name) ∧
      r.methods = c.methods.map (·.method r.name) ∧
      (∀ f ∈ r.fields, ∀ g ∈ r.fields, f.same g = true ↔ f.signature = g.signature) ∧
      (∀ m ∈ r.methods, ∀ n ∈ r.methods,
        (m.same n = true ↔ m.signature = n.signature) ∧ (m.order n = .eq ↔ m.signature = n.signature)) ∧
      (∀ m ∈ c.fields, ∀ n ∈ c.fields, m.name ≠ n.name → m.FieldsShow n →
        (m.field r.name).same (n.field r.name) = false) ∧
      (∀ m ∈ c.methods, ∀ n ∈ c.methods, m.name ≠ n.name → m.MethodsShow n →
        (m.method r.name).same (n.method r.name) = false ∧ (m.method r.name).order (n.method r.name) ≠ .eq) ∧
      (∀ m ∈ c.fields, ∀ n ∈ c.fields, ∀ s t,
        m.attributes.signature = some s → n.attributes.signature = some t →
        ((m.field r.name).same (n.field r.name) = true ↔ s = t)) ∧
      ∀ m ∈ c.methods, ∀ n ∈ c.methods, ∀ s t,
        m.attributes.signature = some s → n.attributes.signature = some t →
        s.toList.head? ≠ some '(' → t.toList.head? ≠ some '(' →
          ((m.method r.name).same (n.method r.name) = true ↔ s = t) ∧
            ((m.method r.name).order (n.method r.name) = .eq ↔ s = t) := by
  rw [decodeUnit_eq] at h
  cases hparse : ClassFile.parse bytes with
  | error e =>
    rw [hparse] at h
    cases h
  | ok c =>
    rw [hparse] at h
    cases h
    refine ⟨c, rfl, rfl, rfl, ?_, ?_, ?_, ?_, ?_, ?_⟩
    · intro f hf g hg
      exact FieldRecord.same_iff ((declaringClass_of_mem_fields hf).trans (declaringClass_of_mem_fields hg).symm)
    · intro m hm n hn
      have howner := (declaringClass_of_mem_methods hm).trans (declaringClass_of_mem_methods hn).symm
      exact ⟨MethodRecord.same_iff howner, MethodRecord.order_eq_iff howner⟩
    · intro m _ n _ hname hshow
      rw [Bool.eq_false_iff, ne_eq, MemberInfo.field_same_iff]
      exact MemberInfo.signature_ne_of_fieldsShow hname hshow
    · intro m _ n _ hname hshow
      rw [Bool.eq_false_iff, ne_eq, ne_eq, MemberInfo.method_same_iff, MemberInfo.method_order_eq_iff]
      exact ⟨MemberInfo.signature_ne_of_methodsShow hname hshow, MemberInfo.signature_ne_of_methodsShow hname hshow⟩
    · intro m _ n _ s t hs ht
      rw [MemberInfo.field_same_iff, MemberInfo.field_signature_of_some hs, MemberInfo.field_signature_of_some ht]
    · intro m _ n _ s t hs ht hshead hthead
      rw [MemberInfo.method_same_iff, MemberInfo.method_order_eq_iff, MemberInfo.method_signature_of_some hs hshead,
        MemberInfo.method_signature_of_some ht hthead]
      exact ⟨Iff.rfl, Iff.rfl⟩

/-! ## Twins -/

/-- A class with two fields of one type variable, two methods that each bring a type variable of their own, and beside
    them a field and a method without signatures. -/
def ClassOutline.twins : ClassOutline where
  access := ⟨0x0421⟩
  name := "A"
  super := some "java/lang/Object"
  interfaces := []
  signature := some "<T:Ljava/lang/Object;>Ljava/lang/Object;"
  visible := []
  invisible := []
  fields := [⟨⟨0⟩, "first", "Ljava/lang/Object;", some "TT;", none, none, [], [], [], false⟩,
    ⟨⟨0⟩, "second", "Ljava/lang/Object;", some "TT;", none, none, [], [], [], false⟩,
    ⟨⟨0⟩, "count", "I", none, none, none, [], [], [], false⟩]
  methods := [
    ⟨⟨0x0401⟩, "read", "(Ljava/lang/Object;)V", some "<U:Ljava/lang/Object;>(TU;)V", none, none, [], [], [], false⟩,
    ⟨⟨0x0401⟩, "write", "(Ljava/lang/Object;)V", some "<U:Ljava/lang/Object;>(TU;)V", none, none, [], [], [], false⟩,
    ⟨⟨0x0401⟩, "close", "()V", none, none, none, [], [], [], false⟩]

theorem parse_twins : ClassFile.parse (ClassFile.write ClassOutline.twins) = .ok ClassOutline.twins.file :=
  ClassFile.parse_write (by decide +kernel)

theorem decodeUnit_twins_eq :
    decodeUnit "/classes" false (ClassFile.write ClassOutline.twins) =
      .ok (⟨52, 0⟩, ClassOutline.twins.record "/classes" none) := by
  rw [decodeUnit_eq, parse_twins]
  simp only [ClassOutline.record_file]
  rfl

theorem decodeUnit_members_same_twins :
    ∃ r, decodeUnit "/classes" false (ClassFile.write ClassOutline.twins) = .ok (⟨52, 0⟩, r) ∧
      (∃ m ∈ ClassOutline.twins.file.fields, ∃ n ∈ ClassOutline.twins.file.fields, m.name ≠ n.name ∧
        m.FieldsShow n ∧
        (m.field r.name).same (n.field r.name) = false) ∧
      ∃ m ∈ ClassOutline.twins.file.methods, ∃ n ∈ ClassOutline.twins.file.methods, m.name ≠ n.name ∧
        m.MethodsShow n ∧
        (m.method r.name).same (n.method r.name) = false ∧
          (m.method r.name).order (n.method r.name) ≠ .eq := by
  obtain ⟨c, hparse, -, -, -, -, hfields, hmethods, -⟩ := decodeUnit_members_same decodeUnit_twins_eq
  rw [parse_twins] at hparse
  cases hparse
  refine ⟨_, decodeUnit_twins_eq, ?_, ?_⟩
  · -- the first field and the one without a signature
    have hfirst : ClassOutline.twins.file.fields[0] ∈ ClassOutline.twins.file.fields := List.getElem_mem _
    have hcount : ClassOutline.twins.file.fields[2] ∈ ClassOutline.twins.file.fields := List.getElem_mem _
    have hname : ClassOutline.twins.file.fields[0].name ≠ ClassOutline.twins.file.fields[2].name := by decide
    have hshow : ClassOutline.twins.file.fields[0].FieldsShow ClassOutline.twins.file.fields[2] :=
      ⟨Or.inr rfl, by decide, by decide⟩
    exact ⟨_, hfirst, _, hcount, hname, hshow, hfields _ hfirst _ hcount hname hshow⟩
  · -- the method without a signature and the first one
    have hread : ClassOutline.twins.file.methods[0] ∈ ClassOutline.twins.file.methods := List.getElem_mem _
    have hclose : ClassOutline.twins.file.methods[2] ∈ ClassOutline.twins.file.methods := List.getElem_mem _
    have hname : ClassOutline.twins.file.methods[2].name ≠ ClassOutline.twins.file.methods[0].name := by decide
    have hshow : ClassOutline.twins.file.methods[2].MethodsShow ClassOutline.twins.file.methods[0] :=
      Or.inr (Or.inl ⟨⟨by decide, by decide⟩, by decide, _, rfl, by decide⟩)
    exact ⟨_, hclose, _, hread, hname, hshow, hmethods _ hclose _ hread hname hshow⟩

/-- The names of the other two fields are different, and still these are the same, and so are the other two methods. -/
theorem decodeUnit_twins :
    ∃ r, decodeUnit "/classes" false (ClassFile.write ClassOutline.twins) = .ok (⟨52, 0⟩, r) ∧
      (∃ f ∈ r.fields, ∃ g ∈ r.fields, f.name ≠ g.name ∧ f.same g = true) ∧
      ∃ m ∈ r.methods, ∃ n ∈ r.methods, m.name ≠ n.name ∧ m.same n = true ∧ m.order n = .eq := by
  refine ⟨_, decodeUnit_twins_eq, ?_, ?_⟩
  · exact ⟨_, List.mem_cons_self, _, List.mem_cons_of_mem _ List.mem_cons_self, by decide, by decide⟩
  · exact ⟨_, List.mem_cons_self, _, List.mem_cons_of_mem _ List.mem_cons_self, by decide, by decide, by decide⟩

end ClassAtlas
