import ClassAtlas.Proofs.Below

/-
  ClassAtlas.Proofs.Parts — a path in two parts.

  A path without its last component is its parent, a leading part of its text
  (`components_of_parent?`, `parent?_begins`). The part of a path below another one is what
  the other one is to be continued with: joined to it, it leads where the path does
  (`components_of_below?`). All of this is about components; idle segments may be lost on
  the way, and only an empty path has no component (`components_eq_nil_iff`).
-/

namespace ClassAtlas

namespace Text

theorem not_mem_of_mem_splitOn {a : Char} {s p : List Char} (h : p ∈ s.splitOn a) : a ∉ p := by
  induction s generalizing p with
  | nil =>
    rw [List.splitOn_nil, List.mem_singleton] at h
    simp [h]
  | cons c s ih =>
    obtain ⟨q, qs, hs⟩ := List.exists_cons_of_ne_nil (List.splitOn_ne_nil a s)
    rw [List.splitOn_cons_eq_if_modifyHead, hs] at h
    rw [hs] at ih
    split at h
    · rcases List.mem_cons.mp h with rfl | h
      · simp
      · exact ih h
    · next hc =>
      rcases List.mem_cons.mp h with rfl | h
      · intro ha
        rcases List.mem_cons.mp ha with rfl | ha
        · exact hc (beq_self_eq_true _)
        · exact ih List.mem_cons_self ha
      · exact ih (List.mem_cons_of_mem q h)

theorem intercalate_begins {sep p : List Char} {ps qs : List (List Char)} (h : ps <+: qs) :
    sep.intercalate (p :: ps) <+: sep.intercalate (p :: qs) := by
  induction ps generalizing p qs with
  | nil =>
    cases qs with
    | nil => exact List.prefix_rfl
    | cons q qs =>
      rw [List.intercalate_singleton, List.intercalate_cons_cons, List.append_assoc]
      exact List.prefix_append _ _
  | cons q ps ih =>
    obtain ⟨more, rfl⟩ := h
    rw [List.cons_append, List.intercalate_cons_cons, List.intercalate_cons_cons]
    exact (List.prefix_append_right_inj _).mpr (ih (List.prefix_append ps more))

end Text

namespace Path

variable {path base dir rel : String} {head : List Char} {tail : List (List Char)}

/-! ## Segments and components -/

theorem slash_not_mem_segments {s : List Char} (h : s ∈ segments path) : '/' ∉ s := Text.not_mem_of_mem_splitOn h

theorem segments_ofSegments (h : ∀ s ∈ head :: tail, '/' ∉ s) :
    segments (ofSegments (head :: tail)) = head :: tail := by
  rw [segments, ofSegments, String.toList_ofList, List.splitOn_intercalate '/' h (List.cons_ne_nil head tail)]

/-- The first segment of a path that is not empty begins it, whether or not others follow. -/
theorem components_of_ne_empty (hpath : path ≠ "") (hs : segments path = head :: tail) :
    components path = (Component.ofHead? head false).toList ++ tail.filterMap Component.ofSegment? := by
  have hhead : Component.ofHead? head tail.isEmpty = Component.ofHead? head false := by
    obtain ⟨c, hc⟩ := exists_ofHead? head
    rw [hc false fun _ => rfl]
    exact hc _ fun e => List.isEmpty_eq_false_iff.mpr ((openSegments_cons hpath hs).1 e)
  rw [components_of_segments hs, hhead]

theorem components_eq_nil_iff : components path = [] ↔ path = "" := by
  refine ⟨fun h => ?_, fun h => by rw [h]; rfl⟩
  by_contra hpath
  cases hs : segments path with
  | nil => exact segments_ne_nil path hs
  | cons head tail =>
    obtain ⟨c, hc⟩ := exists_ofHead? head
    rw [components_of_ne_empty hpath hs, hc false fun _ => rfl] at h
    cases h

theorem ofSegment?_of_isIdle {s : List Char} (h : isIdle s) : Component.ofSegment? s = none := by
  rw [Component.ofSegment?, if_pos h]

theorem exists_ofSegment? {s : List Char} (h : isIdle s = false) : ∃ c, Component.ofSegment? s = some c := by
  cases hs : Component.ofSegment? s with
  | some c => exact ⟨c, rfl⟩
  | none =>
    rw [isIdle_of_ofSegment? hs] at h
    cases h

/-! ## Idle ends -/

theorem exists_idle_end (tail : List (List Char)) :
    ∃ idle, (∀ s ∈ idle, isIdle s) ∧ tail = trimTail tail ++ idle := by
  refine ⟨(tail.reverse.takeWhile isIdle).reverse, fun s hs => ?_, ?_⟩
  · exact List.all_eq_true.mp List.all_takeWhile s (List.mem_reverse.mp hs)
  · rw [trimTail, ← List.reverse_append, List.takeWhile_append_dropWhile, List.reverse_reverse]

theorem trimTail_begins (tail : List (List Char)) : trimTail tail <+: tail := by
  obtain ⟨idle, -, htail⟩ := exists_idle_end tail
  exact ⟨idle, htail.symm⟩

theorem filterMap_trimTail (tail : List (List Char)) :
    (trimTail tail).filterMap Component.ofSegment? = tail.filterMap Component.ofSegment? := by
  obtain ⟨idle, hidle, htail⟩ := exists_idle_end tail
  have hnone : idle.filterMap Component.ofSegment? = [] :=
    List.filterMap_eq_nil_iff.mpr fun s hs => ofSegment?_of_isIdle (hidle s hs)
  conv_rhs => rw [htail, List.filterMap_append, hnone, List.append_nil]

/-- What is left does not end in an idle segment. -/
theorem not_idle_of_getLast?_trimTail {s : List Char} (h : (trimTail tail).getLast? = some s) : isIdle s = false := by
  have hnot := List.head?_dropWhile_not isIdle tail.reverse
  rw [trimTail, List.getLast?_reverse] at h
  rw [h] at hnot
  simpa using hnot

/-- Idle segments at both ends mean nothing. -/
theorem filterMap_trimmed (ss : List (List Char)) :
    (trimTail (ss.dropWhile isIdle)).filterMap Component.ofSegment? = ss.filterMap Component.ofSegment? := by
  rw [filterMap_trimTail]
  induction ss with
  | nil => rfl
  | cons s ss ih =>
    rw [List.dropWhile_cons]
    split
    · next hidle => rw [ih, List.filterMap_cons_none (ofSegment?_of_isIdle hidle)]
    · rfl

theorem not_idle_of_head?_trimmed (ss : List (List Char)) :
    ∀ s ∈ (trimTail (ss.dropWhile isIdle)).head?, isIdle s = false := by
  intro s hs
  obtain ⟨more, hmore⟩ := trimTail_begins (ss.dropWhile isIdle)
  have hnot := List.head?_dropWhile_not isIdle ss
  rw [← hmore, List.head?_append, Option.mem_def.mp hs] at hnot
  simpa using hnot

theorem ofTrimmed_eq (head : List Char) (tail : List (List Char)) :
    ofTrimmed head tail = if head = [] ∧ trimTail tail = [] then "/" else ofSegments (head :: trimTail tail) := by
  unfold ofTrimmed
  split
  · next htail => rw [if_pos ⟨rfl, htail⟩]
  · next hnot => rw [if_neg fun h => hnot h.1 h.2]

theorem components_ofTrimmed (h : ∀ s ∈ head :: tail, '/' ∉ s) :
    components (ofTrimmed head tail) =
      (Component.ofHead? head false).toList ++ tail.filterMap Component.ofSegment? := by
  rw [ofTrimmed_eq, ← filterMap_trimTail tail]
  split
  · next hroot =>
    rw [hroot.1, hroot.2]
    rfl
  · next hnot =>
    have htrimmed : ∀ s ∈ head :: trimTail tail, '/' ∉ s := by
      obtain ⟨hhead, htail⟩ := List.forall_mem_cons.mp h
      exact List.forall_mem_cons.mpr ⟨hhead, fun s hs => htail s ((trimTail_begins tail).mem hs)⟩
    have hsegments := segments_ofSegments htrimmed
    refine components_of_ne_empty (fun hempty => hnot ?_) hsegments
    rw [hempty] at hsegments
    obtain ⟨hhead, htail⟩ := List.cons.inj hsegments
    exact ⟨hhead.symm, htail.symm⟩

/-! ## Without the last component -/

theorem parent?_of_segments (hs : segments path = head :: tail) :
    parent? path =
      if trimTail tail = [] then (if head = [] then none else some "")
      else some (ofTrimmed head (trimTail tail).dropLast) := by
  simp only [parent?, hs]
  cases trimTail tail <;> simp

theorem components_of_parent? (h : parent? path = some dir) : ∃ c, components path = components dir ++ [c] := by
  cases hs : segments path with
  | nil => exact absurd hs (segments_ne_nil path)
  | cons head tail =>
    have hpath : path ≠ "" := by
      rintro rfl
      cases h
    rw [components_of_ne_empty hpath hs, ← filterMap_trimTail tail]
    rw [parent?_of_segments hs] at h
    split at h
    · next htrim =>
      obtain ⟨c, hc⟩ := exists_ofHead? head
      refine ⟨c, ?_⟩
      split at h
      · cases h
      · cases h
        rw [hc false fun _ => rfl, htrim]
        rfl
    · next htrim =>
      obtain ⟨front, last, hkept⟩ := (List.eq_nil_or_concat (trimTail tail)).resolve_left htrim
      rw [List.concat_eq_append] at hkept
      rw [hkept, List.dropLast_concat] at h
      cases h
      obtain ⟨c, hc⟩ := exists_ofSegment? (not_idle_of_getLast?_trimTail (hkept ▸ List.getLast?_concat))
      have hslash : ∀ s ∈ head :: front, '/' ∉ s := by
        have hfront : head :: front <+: segments path := by
          rw [hs, List.cons_prefix_cons]
          exact ⟨rfl, (List.prefix_append front [last]).trans (hkept ▸ trimTail_begins tail)⟩
        exact fun s hmem => slash_not_mem_segments (hfront.mem hmem)
      refine ⟨c, ?_⟩
      rw [components_ofTrimmed hslash, hkept, List.filterMap_append, List.append_assoc]
      simp [hc]

/-- A path with a name at its end is that name in a directory. -/
theorem parent?_of_fileName? {name : String} (h : fileName? path = some name) :
    ∃ dir, parent? path = some dir ∧ components path = components dir ++ [.name name] := by
  have hlast : (components path).getLast? = some (.name name) := by
    rw [fileName?] at h
    split at h
    · next hname => rw [hname, Option.some.inj h]
    · cases h
  cases hparent : parent? path with
  | some dir =>
    obtain ⟨c, hc⟩ := components_of_parent? hparent
    refine ⟨dir, rfl, ?_⟩
    rw [hc, List.getLast?_concat] at hlast
    rw [hc, Option.some.inj hlast]
  | none =>
    -- only an empty path and a root have none, and those have no name
    cases hs : segments path with
    | nil => exact absurd hs (segments_ne_nil path)
    | cons head tail =>
      rw [parent?_of_segments hs] at hparent
      split at hparent
      · next htrim =>
        split at hparent
        · next hhead =>
          rw [components_of_segments hs, ← filterMap_trimTail tail, htrim, hhead] at hlast
          cases htail : tail.isEmpty <;> simp [htail, Component.ofHead?] at hlast
        · cases hparent
      · cases hparent

/-- The parent is how the path begins. -/
theorem parent?_begins (h : parent? path = some dir) : dir.toList <+: path.toList := by
  cases hs : segments path with
  | nil => exact absurd hs (segments_ne_nil path)
  | cons head tail =>
    have htext : path.toList = ['/'].intercalate (head :: tail) := by
      rw [← hs, segments, List.intercalate_splitOn]
    rw [parent?_of_segments hs] at h
    split at h
    · split at h
      · cases h
      · cases h
        exact List.nil_prefix
    · next htrim =>
      cases h
      have hkept : (trimTail (trimTail tail).dropLast) <+: tail :=
        ((trimTail_begins _).trans (List.dropLast_prefix _)).trans (trimTail_begins tail)
      rw [ofTrimmed_eq, htext]
      split
      · next hroot =>
        rw [hroot.1]
        cases tail with
        | nil => exact absurd rfl htrim
        | cons t ts => exact List.prefix_append _ _
      · rw [ofSegments, String.toList_ofList]
        exact Text.intercalate_begins hkept

/-! ## Without what it begins with -/

theorem dropComponents?_eq_some {bs : List Component} {ss rest : List (List Char)}
    (h : dropComponents? bs ss = some rest) :
    ss.filterMap Component.ofSegment? = bs ++ rest.filterMap Component.ofSegment? ∧ rest <:+ ss := by
  fun_induction dropComponents? bs ss with
  | case1 ss =>
    cases h
    exact ⟨rfl, List.suffix_rfl⟩
  | case2 => cases h
  | case3 b bs s ss hs ih =>
    obtain ⟨hmeans, hsuffix⟩ := ih h
    rw [List.filterMap_cons_none hs]
    exact ⟨hmeans, hsuffix.trans (List.suffix_cons s ss)⟩
  | case4 bs s ss c hs ih =>
    obtain ⟨hmeans, hsuffix⟩ := ih h
    rw [List.filterMap_cons_some hs, hmeans]
    exact ⟨rfl, hsuffix.trans (List.suffix_cons s ss)⟩
  | case5 => cases h

theorem isSome_dropComponents? (bs : List Component) (ss : List (List Char)) :
    (dropComponents? bs ss).isSome = true ↔ bs <+: ss.filterMap Component.ofSegment? := by
  fun_induction dropComponents? bs ss with
  | case1 ss => simp
  | case2 => simp
  | case3 b bs s ss hs ih => rw [List.filterMap_cons_none hs, ih]
  | case4 bs s ss c hs ih => rw [List.filterMap_cons_some hs, List.cons_prefix_cons, ih]; simp
  | case5 b bs s ss c hs hne =>
    rw [List.filterMap_cons_some hs, List.cons_prefix_cons]
    simp [Ne.symm hne]

/-- Segments of which the first is not idle mean the same wherever they stand. -/
theorem components_ofSegments {ns : List (List Char)} (hslash : ∀ s ∈ ns, '/' ∉ s)
    (hhead : ∀ s ∈ ns.head?, isIdle s = false) :
    components (ofSegments ns) = ns.filterMap Component.ofSegment? := by
  cases ns with
  | nil => rfl
  | cons n more =>
    have hn : isIdle n = false := hhead n rfl
    obtain ⟨c, hc⟩ := exists_ofSegment? hn
    rw [isIdle, Bool.or_eq_false_iff, decide_eq_false_iff_not, decide_eq_false_iff_not] at hn
    rw [components_of_segments (segments_ofSegments hslash), Component.ofHead?, if_neg hn.1, if_neg hn.2,
      List.filterMap_cons_some hc, hc]
    rfl

theorem components_join_ofSegments (hbase : base ≠ "") {ns : List (List Char)} (hslash : ∀ s ∈ ns, '/' ∉ s)
    (hhead : ∀ s ∈ ns.head?, isIdle s = false) :
    components (join base (ofSegments ns)) = components base ++ ns.filterMap Component.ofSegment? := by
  have hstart : (ofSegments ns).toList.head? ≠ some '/' := by
    intro hfirst
    rw [ofSegments, String.toList_ofList] at hfirst
    cases ns with
    | nil => cases hfirst
    | cons n more =>
      cases n with
      | nil => exact absurd (hhead [] rfl) (by decide)
      | cons d ds =>
        have hd : d = '/' := by
          cases more <;> simpa [List.intercalate_singleton, List.intercalate_cons_cons] using hfirst
        exact hslash _ List.mem_cons_self (hd ▸ List.mem_cons_self)
  have hpieces : (segments (ofSegments ns)).filterMap Component.ofSegment? = ns.filterMap Component.ofSegment? := by
    cases ns with
    | nil => rfl
    | cons n more => rw [segments_ofSegments hslash]
  cases hs : segments base with
  | nil => exact absurd hs (segments_ne_nil base)
  | cons head tail =>
    obtain ⟨-, kept, hopen, hmeans⟩ := openSegments_cons hbase hs
    have hjoined : segments (join base (ofSegments ns)) = head :: (kept ++ segments (ofSegments ns)) := by
      rw [segments_join_of_head hstart, hopen, List.cons_append]
    have hmore : (kept ++ segments (ofSegments ns)).isEmpty = false :=
      List.isEmpty_eq_false_iff.mpr (List.append_ne_nil_of_right_ne_nil kept (segments_ne_nil _))
    rw [components_of_segments hjoined, hmore, List.filterMap_append, hmeans, hpieces, components_of_ne_empty hbase hs,
      List.append_assoc]

theorem join_empty (rel : String) : join "" rel = rel := by
  rw [join]
  split
  · rfl
  · rw [if_pos (by decide), String.empty_append]

/-- Below nothing there is the path itself, without an idle end. -/
theorem exists_below?_empty (path : String) : ∃ rel, below? "" path = some rel ∧ components rel = components path := by
  cases hs : segments path with
  | nil => exact absurd hs (segments_ne_nil path)
  | cons head tail =>
    have hempty : components "" = [] := rfl
    simp only [below?, hs, hempty]
    refine ⟨_, rfl, ?_⟩
    split
    · next hnothing =>
      rw [Bool.and_eq_true, decide_eq_true_iff, List.isEmpty_iff] at hnothing
      rw [components_of_segments hs, hnothing.1, hnothing.2]
      rfl
    · next hsome =>
      have hpath : path ≠ "" := by
        rintro rfl
        obtain ⟨rfl, rfl⟩ := List.cons.inj hs
        exact hsome rfl
      rw [components_of_ne_empty hpath hs, components_ofTrimmed fun s hmem => slash_not_mem_segments (hs ▸ hmem)]

theorem below?_of_ne_empty (hpath : path ≠ "") (hs : segments path = head :: tail) {b c : Component}
    {bs : List Component} (hb : components base = b :: bs) (hc : Component.ofHead? head false = some c) :
    below? base path =
      if c = b then (dropComponents? bs tail).map fun rest => ofSegments (trimTail (rest.dropWhile isIdle))
      else none := by
  have hhead : Component.ofHead? head tail.isEmpty = some c := by
    obtain ⟨c', hc'⟩ := exists_ofHead? head
    rw [hc' _ fun e => List.isEmpty_eq_false_iff.mpr ((openSegments_cons hpath hs).1 e), ← hc' false fun _ => rfl, hc]
  simp only [below?, hs, hb, hhead]

/-- What a path is below another one is how the other one goes on to it. -/
theorem components_of_below? (h : below? base path = some rel) :
    components path = components base ++ components rel ∧ components (join base rel) = components path := by
  by_cases hbase : base = ""
  · subst hbase
    obtain ⟨rel', hrel', hcomponents⟩ := exists_below?_empty path
    obtain rfl : rel' = rel := Option.some.inj (hrel'.symm.trans h)
    exact ⟨hcomponents.symm, by rw [join_empty, hcomponents]⟩
  cases hs : segments path with
  | nil => exact absurd hs (segments_ne_nil path)
  | cons head tail =>
    cases hb : components base with
    | nil => exact absurd (components_eq_nil_iff.mp hb) hbase
    | cons b bs =>
      have hpath : path ≠ "" := by
        rintro rfl
        obtain ⟨rfl, rfl⟩ := List.cons.inj hs
        simp [below?, hs, hb, Component.ofHead?] at h
      obtain ⟨c, hc⟩ := exists_ofHead? head
      rw [below?_of_ne_empty hpath hs hb (hc false fun _ => rfl)] at h
      split at h
      · next hfirst =>
        obtain ⟨rest, hdrop, rfl⟩ := Option.map_eq_some_iff.mp h
        obtain ⟨hmeans, hsuffix⟩ := dropComponents?_eq_some hdrop
        have hkept := filterMap_trimmed rest
        have hslash : ∀ s ∈ trimTail (rest.dropWhile isIdle), '/' ∉ s := by
          intro s hmem
          have hrest : s ∈ rest := (List.dropWhile_sublist isIdle).subset ((trimTail_begins _).mem hmem)
          exact slash_not_mem_segments (hs ▸ List.mem_cons_of_mem head (hsuffix.mem hrest))
        have hfront := not_idle_of_head?_trimmed rest
        have hpathMeans : components path = components base ++ rest.filterMap Component.ofSegment? := by
          rw [components_of_ne_empty hpath hs, hc false fun _ => rfl, hfirst, hmeans, hb]
          rfl
        rw [components_ofSegments hslash hfront, components_join_ofSegments hbase hslash hfront, hkept, ← hb,
          hpathMeans]
        exact ⟨rfl, rfl⟩
      · cases h

theorem isSome_below? (base path : String) :
    (below? base path).isSome = true ↔ components base <+: components path := by
  by_cases hbase : base = ""
  · subst hbase
    obtain ⟨rel, hrel, -⟩ := exists_below?_empty path
    rw [hrel]
    exact iff_of_true rfl List.nil_prefix
  cases hs : segments path with
  | nil => exact absurd hs (segments_ne_nil path)
  | cons head tail =>
    cases hb : components base with
    | nil => exact absurd (components_eq_nil_iff.mp hb) hbase
    | cons b bs =>
      by_cases hpath : path = ""
      · subst hpath
        obtain ⟨rfl, rfl⟩ := List.cons.inj hs
        have hempty : components "" = [] := rfl
        rw [hempty]
        simp [below?, hs, hb, Component.ofHead?]
      · obtain ⟨c, hc⟩ := exists_ofHead? head
        rw [below?_of_ne_empty hpath hs hb (hc false fun _ => rfl), components_of_ne_empty hpath hs,
          hc false fun _ => rfl, Option.toList_some, List.singleton_append, List.cons_prefix_cons,
          ← isSome_dropComponents?]
        by_cases hfirst : c = b
        · simp [hfirst]
        · simp [hfirst, Ne.symm hfirst]

end Path

end ClassAtlas
