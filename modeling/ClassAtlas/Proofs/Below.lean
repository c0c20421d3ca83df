import ClassAtlas.Load
import ClassAtlas.Proofs.PathOrder

/-
  ClassAtlas.Proofs.Below — paths below a directory, and the same paths on their own.

  A file below a directory has a path that begins with the directory's, however that is
  spelled, and goes on with names (`segments_foldl_join`). Taking the directory's path off
  again leaves the names, joined by slashes (`below?_foldl_join`), and two files below one
  directory are in the order of these (`order_foldl_join`). So whatever is asked of such
  a path can be asked of its names alone.
-/

namespace ClassAtlas

namespace Text

theorem splitOnP_map {sep : Char → Bool} {f : Char → Char} (h : ∀ c, sep (f c) = sep c) (s : List Char) :
    (s.map f).splitOnP sep = (s.splitOnP sep).map (List.map f) := by
  induction s with
  | nil => rfl
  | cons c s ih =>
    rw [List.map_cons, List.splitOnP_cons_eq_if_modifyHead, List.splitOnP_cons_eq_if_modifyHead, h c, ih]
    split
    · rfl
    · cases s.splitOnP sep <;> rfl

/-- The last piece is empty only if there is nothing behind the last separator. -/
theorem getLast?_splitOn {a c : Char} (hc : c ≠ a) (s : List Char) : ((s ++ [c]).splitOn a).getLast? ≠ some [] := by
  induction s with
  | nil => simp [List.splitOn_cons_eq_if_modifyHead, hc]
  | cons d s ih =>
    obtain ⟨p, ps, hs⟩ := List.exists_cons_of_ne_nil (List.splitOn_ne_nil a (s ++ [c]))
    rw [hs] at ih
    rw [List.cons_append, List.splitOn_cons_eq_if_modifyHead, hs]
    split
    · rw [List.getLast?_cons_cons]
      exact ih
    · rw [List.modifyHead_cons]
      cases ps with
      | nil => simp
      | cons q ps =>
        rw [List.getLast?_cons_cons] at ih ⊢
        exact ih

end Text

namespace Path

/-! ## A path and the names behind it -/

/-- The segments of a path that is gone on with: an empty one at its end is where the next begins. -/
def openSegments (path : String) : List (List Char) :=
  if (segments path).getLast? = some [] then (segments path).dropLast else segments path

variable {base name : String} {names : List String}

theorem segments_join_of_head (h : name.toList.head? ≠ some '/') :
    segments (join base name) = openSegments base ++ segments name := by
  rw [join_eq_of_head h]
  rcases List.eq_nil_or_concat base.toList with hnil | ⟨front, c, hfront⟩
  · have hbase : base = "" := String.toList_eq_nil_iff.mp hnil
    subst hbase
    rw [if_pos (by decide), String.empty_append]
    rfl
  · have hisEmpty : base.isEmpty = false := by
      rw [String.isEmpty_eq_false_iff]
      rintro rfl
      simp at hfront
    have hlast : base.toList.getLast? = some c := by rw [hfront, List.concat_eq_append, List.getLast?_concat]
    by_cases hslash : c = '/'
    · subst hslash
      have hbase : base = String.ofList front ++ "/" := String.toList_inj.mp (by simpa using hfront)
      have hempty : segments base = segments (String.ofList front) ++ [[]] := by
        have hs := segments_slash (String.ofList front) ""
        rw [String.append_empty] at hs
        rw [hbase, hs]
        rfl
      rw [if_pos (by simp [hlast]), openSegments, hempty, List.getLast?_concat, if_pos rfl, List.dropLast_concat, hbase,
        segments_slash]
    · have hpiece : (segments base).getLast? ≠ some [] := by
        rw [segments, hfront, List.concat_eq_append]
        exact Text.getLast?_splitOn hslash front
      rw [if_neg (by simp [hisEmpty, hlast, hslash]), openSegments, if_neg hpiece, segments_slash]

theorem segments_join (h : IsName name) : segments (join base name) = openSegments base ++ [name.toList] := by
  rw [segments_join_of_head h.head_ne, h.segments]

theorem openSegments_join (h : IsName name) : openSegments (join base name) = openSegments base ++ [name.toList] := by
  have hne : name.toList ≠ [] := fun e => h.1 (String.toList_eq_nil_iff.mp e)
  rw [openSegments, segments_join h, List.getLast?_concat, if_neg fun e => hne (Option.some.inj e)]

theorem openSegments_foldl_join (h : ∀ n ∈ names, IsName n) :
    openSegments (names.foldl join base) = openSegments base ++ names.map String.toList := by
  induction names generalizing base with
  | nil => simp
  | cons n names ih =>
    obtain ⟨hn, hnames⟩ := List.forall_mem_cons.mp h
    rw [List.foldl_cons, ih hnames, openSegments_join hn, List.map_cons, List.append_assoc, List.singleton_append]

/-- A path goes on with the names of what is below it. -/
theorem segments_foldl_join (h : ∀ n ∈ names, IsName n) (hne : names ≠ []) :
    segments (names.foldl join base) = openSegments base ++ names.map String.toList := by
  rcases List.eq_nil_or_concat names with rfl | ⟨front, last, rfl⟩
  · exact absurd rfl hne
  · rw [List.concat_eq_append] at h ⊢
    obtain ⟨hfront, hlast⟩ := List.forall_mem_append.mp h
    rw [List.foldl_append, List.foldl_cons, List.foldl_nil, segments_join (hlast last (List.mem_singleton_self _)),
      openSegments_foldl_join hfront, List.map_append, List.append_assoc]
    rfl

/-- Behind the path itself stand slashes and names. -/
theorem foldl_join_eq_append (h : ∀ n ∈ names, IsName n) (base : String) :
    ∃ more, names.foldl join base = base ++ more ∧
      ∀ c ∈ more.toList, c = '/' ∨ ∃ n ∈ names, c ∈ n.toList := by
  induction names generalizing base with
  | nil => exact ⟨"", by simp, by simp⟩
  | cons n names ih =>
    obtain ⟨hn, hnames⟩ := List.forall_mem_cons.mp h
    obtain ⟨more, hmore, hchars⟩ := ih hnames (join base n)
    have hlater : ∀ c ∈ more.toList, c = '/' ∨ ∃ m ∈ n :: names, c ∈ m.toList := by
      intro c hc
      rcases hchars c hc with hslash | ⟨m, hm, hmem⟩
      · exact .inl hslash
      · exact .inr ⟨m, List.mem_cons_of_mem n hm, hmem⟩
    have hfirst : ∃ mid, join base n = base ++ mid ∧ ∀ c ∈ mid.toList, c = '/' ∨ c ∈ n.toList := by
      rw [hn.join_eq]
      split
      · exact ⟨n, rfl, fun c hc => .inr hc⟩
      · exact ⟨"/" ++ n, String.append_assoc .., by simp⟩
    obtain ⟨mid, hmid, hmidChars⟩ := hfirst
    refine ⟨mid ++ more, ?_, ?_⟩
    · rw [List.foldl_cons, hmore, hmid, String.append_assoc]
    · intro c hc
      rw [String.toList_append, List.mem_append] at hc
      rcases hc with hc | hc
      · exact (hmidChars c hc).imp_right fun hmem => ⟨n, List.mem_cons_self, hmem⟩
      · exact hlater c hc

/-! ## The names on their own -/

/-- The path that names are from where they are counted from. -/
def relative (names : List String) : String := names.foldl join ""

theorem segments_relative (h : ∀ n ∈ names, IsName n) (hne : names ≠ []) :
    segments (relative names) = names.map String.toList := segments_foldl_join h hne

theorem components_relative (h : ∀ n ∈ names, IsName n) : components (relative names) = names.map .name :=
  components_foldl_join "" h

theorem ofSegments_names (h : ∀ n ∈ names, IsName n) (hne : names ≠ []) :
    ofSegments (names.map String.toList) = relative names := by
  rw [← segments_relative h hne, ofSegments_segments]

theorem IsName.not_idle (h : IsName name) : isIdle name.toList = false := by
  cases hidle : isIdle name.toList with
  | false => rfl
  | true =>
    have hnone := h.ofSegment?
    rw [Component.ofSegment?, hidle, if_pos rfl] at hnone
    cases hnone

theorem isIdle_of_ofSegment? {s : List Char} (h : Component.ofSegment? s = none) : isIdle s := by
  unfold Component.ofSegment? at h
  split at h
  · assumption
  · split at h <;> cases h

/-- What spells the components is dropped, and idle segments behind it may stay. -/
theorem dropComponents?_append (ss ns : List (List Char)) :
    ∃ idle, (∀ s ∈ idle, isIdle s) ∧
      dropComponents? (ss.filterMap Component.ofSegment?) (ss ++ ns) = some (idle ++ ns) := by
  induction ss with
  | nil => exact ⟨[], by simp, by cases ns <;> rfl⟩
  | cons s ss ih =>
    cases hs : Component.ofSegment? s with
    | some c =>
      obtain ⟨idle, hidle, hdrop⟩ := ih
      refine ⟨idle, hidle, ?_⟩
      rw [List.filterMap_cons_some hs, List.cons_append, dropComponents?, hs]
      simp only [if_true]
      exact hdrop
    | none =>
      rw [List.filterMap_cons_none hs]
      cases hrest : ss.filterMap Component.ofSegment? with
      | nil =>
        refine ⟨s :: ss, ?_, by rw [dropComponents?]⟩
        intro r hr
        rcases List.mem_cons.mp hr with rfl | hr
        · exact isIdle_of_ofSegment? hs
        · exact isIdle_of_ofSegment? (List.filterMap_eq_nil_iff.mp hrest r hr)
      | cons b bs =>
        obtain ⟨idle, hidle, hdrop⟩ := ih
        refine ⟨idle, hidle, ?_⟩
        rw [List.cons_append, dropComponents?, hs, ← hrest]
        exact hdrop

theorem trim_names (h : ∀ n ∈ names, IsName n) {idle : List (List Char)} (hidle : ∀ s ∈ idle, isIdle s) :
    trimTail ((idle ++ names.map String.toList).dropWhile isIdle) = names.map String.toList := by
  have hkept {ns : List (List Char)} (hns : ∀ s ∈ ns, isIdle s = false) : ns.dropWhile isIdle = ns := by
    cases ns with
    | nil => rfl
    | cons n ns => rw [List.dropWhile_cons, hns n List.mem_cons_self, if_neg Bool.false_ne_true]
  have hnames : ∀ s ∈ names.map String.toList, isIdle s = false := by
    intro s hs
    obtain ⟨n, hn, rfl⟩ := List.mem_map.mp hs
    exact (h n hn).not_idle
  rw [List.dropWhile_append_of_pos hidle, hkept hnames, trimTail,
    hkept fun s hs => hnames s (List.mem_reverse.mp hs), List.reverse_reverse]

/-- A first segment means something, and the same whatever comes behind it, unless it is empty and alone. -/
theorem exists_ofHead? (head : List Char) :
    ∃ c, ∀ alone, (head = [] → alone = false) → Component.ofHead? head alone = some c := by
  by_cases hempty : head = []
  · exact ⟨.root, fun alone h => by simp [Component.ofHead?, hempty, h hempty]⟩
  by_cases hdot : head = ['.']
  · exact ⟨.here, fun alone _ => by simp [Component.ofHead?, hdot]⟩
  cases hs : Component.ofSegment? head with
  | none => simpa [isIdle, hempty, hdot] using isIdle_of_ofSegment? hs
  | some c => exact ⟨c, fun alone _ => by rw [Component.ofHead?, if_neg hempty, if_neg hdot, hs]⟩

/-- A path that is not empty keeps its first segment, and its components, when it is gone on with. -/
theorem openSegments_cons (hbase : base ≠ "") {head : List Char} {tail : List (List Char)}
    (hs : segments base = head :: tail) :
    (head = [] → tail ≠ []) ∧
      ∃ kept, openSegments base = head :: kept ∧
        kept.filterMap Component.ofSegment? = tail.filterMap Component.ofSegment? := by
  have halone : head = [] → tail ≠ [] := by
    rintro rfl rfl
    exact hbase (eq_empty_of_segments hs)
  refine ⟨halone, ?_⟩
  rw [openSegments, hs]
  rcases List.eq_nil_or_concat tail with rfl | ⟨front, last, rfl⟩
  · have hhead : head ≠ [] := fun e => halone e rfl
    exact ⟨[], by simp [hhead], rfl⟩
  · rw [List.concat_eq_append, ← List.cons_append, List.getLast?_concat, List.dropLast_concat]
    by_cases hlast : last = []
    · subst hlast
      exact ⟨front, by rw [if_pos rfl], by rw [List.filterMap_append]; exact (List.append_nil _).symm⟩
    · exact ⟨front ++ [last], by rw [if_neg fun e => hlast (Option.some.inj e)]; rfl, rfl⟩

/-- Taking the directory off a path below it leaves the names that it goes on with. -/
theorem below?_foldl_join (hbase : base ≠ "") (h : ∀ n ∈ names, IsName n) (hne : names ≠ []) :
    below? base (names.foldl join base) = some (relative names) := by
  cases hs : segments base with
  | nil => exact absurd hs (segments_ne_nil base)
  | cons head tail =>
    obtain ⟨halone, kept, hopen, hmeans⟩ := openSegments_cons hbase hs
    obtain ⟨c, hhead⟩ := exists_ofHead? head
    have hnames : names.map String.toList ≠ [] := fun e => hne (List.map_eq_nil_iff.mp e)
    have hpath : segments (names.foldl join base) = head :: (kept ++ names.map String.toList) := by
      rw [segments_foldl_join h hne, hopen, List.cons_append]
    have hbaseHead : Component.ofHead? head tail.isEmpty = some c :=
      hhead _ fun e => List.isEmpty_eq_false_iff.mpr (halone e)
    have hpathHead : Component.ofHead? head (kept ++ names.map String.toList).isEmpty = some c :=
      hhead _ fun _ => List.isEmpty_eq_false_iff.mpr (List.append_ne_nil_of_right_ne_nil kept hnames)
    have hcomponents : components base = c :: kept.filterMap Component.ofSegment? := by
      rw [components_of_segments hs, hbaseHead, hmeans]
      rfl
    obtain ⟨idle, hidle, hdrop⟩ := dropComponents?_append kept (names.map String.toList)
    simp only [below?, hpath, hcomponents, hpathHead, if_true, hdrop, Option.map_some, trim_names h hidle,
      ofSegments_names h hne]

/-! ## What is asked of such paths -/

theorem orderComponents_append (cs as bs : List Component) :
    orderComponents (cs ++ as) (cs ++ bs) = orderComponents as bs := by
  induction cs with
  | nil => rfl
  | cons c cs ih =>
    have hself : c.order c = .eq := Std.ReflOrd.compare_self (a := c)
    rw [List.cons_append, List.cons_append, orderComponents, hself, Ordering.eq_then, ih]

/-- The directory that files are in together makes no difference to their order. -/
theorem order_foldl_join {names' : List String} (h : ∀ n ∈ names, IsName n) (h' : ∀ n ∈ names', IsName n) :
    order (names.foldl join base) (names'.foldl join base) = order (relative names) (relative names') := by
  unfold order
  rw [components_foldl_join _ h, components_foldl_join _ h', components_relative h, components_relative h',
    orderComponents_append]

/-- A path below a directory that has the file name of a class file: more than the suffix alone. -/
structure IsClassPath (names : List String) : Prop where
  proper : ∀ n ∈ names, IsName n
  noNul : ∀ n ∈ names, '\x00' ∉ n.toList
  suffix : ∃ stem, stem ≠ "" ∧ names.getLast? = some (stem ++ ".class")

theorem IsClassPath.ne_nil (h : IsClassPath names) : names ≠ [] := by
  rintro rfl
  obtain ⟨stem, -, hlast⟩ := h.suffix
  cases hlast

theorem IsClassPath.isClassFile (h : IsClassPath names) : isClassFile (names.foldl join base) = true := by
  obtain ⟨stem, hstem, hlast⟩ := h.suffix
  have hname : fileName? (names.foldl join base) = some (stem ++ ".class") := by
    have hlast' : (components (names.foldl join base)).getLast? = some (.name (stem ++ ".class")) := by
      rw [components_foldl_join _ h.proper, List.getLast?_append, List.getLast?_map, hlast]
      rfl
    rw [fileName?, hlast']
  have hreverse : (stem ++ ".class").toList.reverse = "ssalc".toList ++ '.' :: stem.toList.reverse := by simp
  have hdrop : (stem ++ ".class").toList.reverse.dropWhile (· ≠ '.') = '.' :: stem.toList.reverse := by
    rw [hreverse]
    rfl
  have htake : (stem ++ ".class").toList.reverse.takeWhile (· ≠ '.') = "ssalc".toList := by
    rw [hreverse]
    rfl
  have hextension : extension? (names.foldl join base) = some "class" := by
    rw [extension?, hname, Option.bind_some]
    simp only [hdrop, htake]
    cases hchars : stem.toList.reverse with
    | nil => exact absurd (String.toList_eq_nil_iff.mp (List.reverse_eq_nil_iff.mp hchars)) hstem
    | cons c cs => rfl
  rw [Path.isClassFile, hextension]
  decide

theorem exists_join_eq (h : IsName name) (base : String) : ∃ front, join base name = front ++ name := by
  rw [h.join_eq]
  split
  · exact ⟨base, rfl⟩
  · exact ⟨base ++ "/", rfl⟩

/-- An archive takes the same path for a class file. -/
theorem IsClassPath.relative_eq (h : IsClassPath names) : ∃ front, relative names = front ++ ".class" := by
  obtain ⟨stem, -, hlast⟩ := h.suffix
  obtain ⟨before, rfl⟩ := List.getLast?_eq_some_iff.mp hlast
  obtain ⟨front, hjoin⟩ :=
    exists_join_eq (h.proper _ (List.mem_append_right _ (List.mem_singleton_self _))) (relative before)
  refine ⟨front ++ stem, ?_⟩
  rw [relative, List.foldl_append, List.foldl_cons, List.foldl_nil, String.append_assoc, ← hjoin, relative]

/-- Names that lead into the directory of an archive's own files. -/
def isMetaInf : List String → Bool
  | n :: _ :: _ => n == "META-INF"
  | _ => false

theorem eq_of_isMetaInf (h : isMetaInf names = true) : ∃ m rest, names = "META-INF" :: m :: rest := by
  cases names with
  | nil => cases h
  | cons n more =>
    cases more with
    | nil => cases h
    | cons m rest =>
      obtain rfl : n = "META-INF" := beq_iff_eq.mp h
      exact ⟨m, rest, rfl⟩

theorem isPrefixOf_metaInf (h : ∀ n ∈ names, IsName n) (hne : names ≠ []) :
    "META-INF/".toList.isPrefixOf (relative names).toList = isMetaInf names := by
  rw [Bool.eq_iff_iff, List.isPrefixOf_iff_prefix]
  constructor
  · rintro ⟨r, hr⟩
    have hfront : (relative names).toList = "META-INF".toList ++ '/' :: r := hr.symm
    have hsegments : names.map String.toList = "META-INF".toList :: r.splitOn '/' := by
      rw [← segments_relative h hne, segments, hfront, List.splitOn_append_cons_self]
      rfl
    obtain ⟨n, more, rfl, hn, htail⟩ := List.map_eq_cons_iff.mp hsegments
    cases more with
    | nil => exact absurd htail.symm (List.splitOn_ne_nil '/' r)
    | cons m rest => exact beq_iff_eq.mpr (String.toList_inj.mp hn)
  · intro hmeta
    obtain ⟨m, rest, rfl⟩ := eq_of_isMetaInf hmeta
    have htext : (relative ("META-INF" :: m :: rest)).toList =
        "META-INF/".toList ++ ['/'].intercalate ((m :: rest).map String.toList) := by
      rw [← ofSegments_names h hne, ofSegments, String.toList_ofList]
      rfl
    exact ⟨_, htext.symm⟩

/-- Whichever way the slashes lean. -/
theorem isNestedClass_map (path : String) : isNestedClass (path.map leanForward) = isNestedClass path := by
  have hsep (c : Char) :
      (decide (leanForward c = '/') || decide (leanForward c = '\\')) = (decide (c = '/') || decide (c = '\\')) := by
    by_cases hc : c = '\\' <;> simp [leanForward, hc]
  have hdollar (p : List Char) : (p.map leanForward).contains '$' = p.contains '$' := by
    induction p with
    | nil => rfl
    | cons c p ih =>
      rw [List.map_cons, List.contains_cons, List.contains_cons, ih]
      by_cases hc : c = '\\' <;> simp [leanForward, hc]
  unfold isNestedClass
  rw [String.toList_map, Text.splitOnP_map hsep]
  rcases List.eq_nil_or_concat (path.toList.splitOnP fun c => decide (c = '/') || decide (c = '\\'))
    with h | ⟨front, last, h⟩
  · exact absurd h (List.splitOnP_ne_nil _ _)
  · rw [h, List.concat_eq_append, List.map_append, List.map_singleton, List.getLastD_concat,
      List.getLastD_concat, hdollar]

end Path

/-- A file below a directory is reported under its names, with slashes that lean forward. -/
theorem entryName_foldl_join {base : String} {names : List String} (hbase : base ≠ "") (h : ∀ n ∈ names, Path.IsName n)
    (hne : names ≠ []) :
    entryName base (names.foldl Path.join base) = (Path.relative names).map leanForward := by
  rw [entryName, Path.below?_foldl_join hbase h hne, Option.getD_some]

end ClassAtlas
