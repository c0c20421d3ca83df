import ClassAtlas.Proofs.Below
import ClassAtlas.Proofs.Delivery

/-
  ClassAtlas.Proofs.Kept — what a walk comes to, and what is read there.

  A directory holds files under lists of names (`FileNode.files`). Which of them a walk
  leaves out is a matter of their names and of the rules on the way to them, whatever else
  the directory holds (`FileTree.keeps`): the walk comes to the others and to nothing else
  (`walk_eq`). And a path that a walk comes to can be followed, however the path of the
  directory was spelled and through whatever links it led, so the file is read as it
  stands in the tree (`read_foldl_join`).
-/

namespace ClassAtlas

/-! ## The files that a node holds -/

mutual

/-- The files from a node on, by the names that lead to them. -/
def FileNode.files : FileNode → List (List String × Bytes)
  | .file content => [([], content)]
  | .link _ => []
  | .directory es => filesIn es

def filesIn : List (String × FileNode) → List (List String × Bytes)
  | [] => []
  | (name, node) :: rest => (node.files.map fun f => (name :: f.1, f.2)) ++ filesIn rest

end

theorem mem_filesIn {es : List (String × FileNode)} {f : List String × Bytes} :
    f ∈ filesIn es ↔ ∃ e ∈ es, ∃ g ∈ e.2.files, f = (e.1 :: g.1, g.2) := by
  induction es with
  | nil => simp [filesIn]
  | cons e es ih =>
    simp only [filesIn, List.mem_append, ih, List.mem_map, List.mem_cons, or_and_right, exists_or, exists_eq_left,
      eq_comm (b := f)]

namespace FileNode

/-- Where names are all different, each file is found under its names. -/
theorem WellNamed.at?_of_mem_files {node : FileNode} (h : node.WellNamed) {f : List String × Bytes}
    (hf : f ∈ node.files) :
    node.at? f.1 = some (.file f.2) := by
  induction h generalizing f with
  | file content =>
    rw [List.mem_singleton.mp hf]
    rfl
  | link target => cases hf
  | @directory es distinct _ _ ih =>
    obtain ⟨e, he, g, hg, rfl⟩ := mem_filesIn.mp hf
    have hlookup : es.lookup e.1 = some e.2 := by
      obtain ⟨before, after, rfl⟩ := List.append_of_mem he
      rw [List.map_append, List.map_cons, List.nodup_append] at distinct
      refine List.lookup_eq_some_iff.mpr ⟨before, after, rfl, fun p hp => ?_⟩
      have hne : p.1 ≠ e.1 := distinct.2.2 _ (List.mem_map_of_mem hp) _ List.mem_cons_self
      exact bne_iff_ne.mpr hne.symm
    rw [FileNode.at?, FileNode.entries, hlookup, Option.bind_some]
    exact ih e he hg

theorem WellNamed.single {name : String} {node : FileNode} (h : Path.IsName name) (hnode : node.WellNamed) :
    (FileNode.directory [(name, node)]).WellNamed := by
  refine .directory ?_ ?_ ?_
  · exact List.pairwise_singleton _ _
  · rwa [List.forall_mem_singleton]
  · rwa [List.forall_mem_singleton]

theorem at?_append (node : FileNode) (names more : List String) :
    node.at? (names ++ more) = (node.at? names).bind fun n => n.at? more := by
  induction names generalizing node with
  | nil => rfl
  | cons s ss ih =>
    rw [List.cons_append, FileNode.at?, FileNode.at?, Option.bind_assoc]
    congr 1
    funext c
    exact ih c

mutual

/-- Nothing below the node is called `name`. -/
def lacks (name : String) : FileNode → Bool
  | .file _ => true
  | .link _ => true
  | .directory es => lacksIn name es

def lacksIn (name : String) : List (String × FileNode) → Bool
  | [] => true
  | (k, node) :: rest => k != name && node.lacks name && lacksIn name rest

end

theorem lacksIn_iff {name : String} {es : List (String × FileNode)} :
    lacksIn name es ↔ ∀ e ∈ es, e.1 ≠ name ∧ e.2.lacks name := by
  induction es with
  | nil => simp [lacksIn]
  | cons e es ih => rw [lacksIn, Bool.and_eq_true, Bool.and_eq_true, bne_iff_ne, ih, List.forall_mem_cons]

theorem at?_of_lacks {name : String} {node : FileNode} (h : node.lacks name) (names : List String) :
    node.at? (names ++ [name]) = none := by
  induction names generalizing node with
  | nil =>
    cases node with
    | file content => rfl
    | link target => rfl
    | directory es =>
      rw [List.nil_append, FileNode.at?, FileNode.entries, Option.bind_eq_none_iff]
      intro c hc
      obtain ⟨before, after, rfl, -⟩ := List.lookup_eq_some_iff.mp hc
      exact absurd rfl (lacksIn_iff.mp h (name, c) (List.mem_append_right _ List.mem_cons_self)).1
  | cons s names ih =>
    cases node with
    | file content => rfl
    | link target => rfl
    | directory es =>
      rw [List.cons_append, FileNode.at?, FileNode.entries, Option.bind_eq_none_iff]
      intro c hc
      obtain ⟨before, after, rfl, -⟩ := List.lookup_eq_some_iff.mp hc
      exact ih (lacksIn_iff.mp h (s, c) (List.mem_append_right _ List.mem_cons_self)).2

theorem file_ne_link (content : Bytes) (target : String) : FileNode.file content ≠ .link target := by
  intro h
  cases h

theorem directory_ne_link (es : List (String × FileNode)) (target : String) : FileNode.directory es ≠ .link target := by
  intro h
  cases h

/-- Only a directory can be gone into. -/
theorem isDirectory_of_at?_cons {node m : FileNode} {s : String} {ss : List String} (h : node.at? (s :: ss) = some m) :
    node.isDirectory = true := by
  cases node with
  | directory es => rfl
  | file content => cases h
  | link target => cases h

end FileNode

namespace FileTree

variable (t : FileTree)

/-! ## The files that a walk comes to -/

/-- No rule leaves out a file, or a directory on the way to it. -/
def keeps (scopes : List Ignore.Scope) (here : List String) : List String → Bool
  | [] => true
  | [name] => !Ignore.isIgnored scopes name false
  | name :: rest =>
    !Ignore.isIgnored scopes name true &&
      keeps (⟨t.rulesIn (here ++ [name]), []⟩ :: scopes.map (·.enter name)) (here ++ [name]) rest

mutual

theorem filesFrom_eq (scopes : List Ignore.Scope) (here names : List String) (name : String) : ∀ node : FileNode,
    t.filesFrom scopes here names name node =
      (node.files.filter fun f => t.keeps scopes here (name :: f.1)).map fun f => names ++ name :: f.1
  | .file content => by
    rw [filesFrom, FileNode.files, List.filter_singleton, keeps]
    cases Ignore.isIgnored scopes name false <;> rfl
  | .link target => rfl
  | .directory es => by
    have hkeeps : ∀ f ∈ filesIn es, t.keeps scopes here (name :: f.1) =
        (!Ignore.isIgnored scopes name true &&
          t.keeps (⟨t.rulesIn (here ++ [name]), []⟩ :: scopes.map (·.enter name)) (here ++ [name]) f.1) := by
      intro f hf
      obtain ⟨e, -, g, -, rfl⟩ := mem_filesIn.mp hf
      rfl
    rw [filesFrom, FileNode.files, List.filter_congr hkeeps]
    cases Ignore.isIgnored scopes name true with
    | true => simp
    | false =>
      simp only [Bool.false_eq_true, if_false, Bool.not_false, Bool.true_and]
      rw [filesAmong_eq]
      simp only [List.append_assoc, List.singleton_append]

theorem filesAmong_eq (scopes : List Ignore.Scope) (here names : List String) : ∀ es : List (String × FileNode),
    t.filesAmong scopes here names es = ((filesIn es).filter fun f => t.keeps scopes here f.1).map fun f => names ++ f.1
  | [] => rfl
  | (name, node) :: rest => by
    rw [filesAmong, filesFrom_eq scopes here names name node, filesAmong_eq scopes here names rest, filesIn,
      List.filter_append, List.map_append, List.filter_map, List.map_map]
    rfl

end

/-- Where no rules are written, nothing is left out. -/
theorem keeps_of_no_rules (hin : ∀ directory, t.rulesIn directory = []) {scopes : List Ignore.Scope}
    (hscopes : ∀ s ∈ scopes, s.rules = []) (here names : List String) : t.keeps scopes here names = true := by
  have hkept (name : String) (isDirectory : Bool) {scopes : List Ignore.Scope} (hscopes : ∀ s ∈ scopes, s.rules = []) :
      Ignore.isIgnored scopes name isDirectory = false := by
    have hnone : scopes.findSome? (fun s => s.rules.verdict? (s.names ++ [name]) isDirectory) = none := by
      refine List.findSome?_eq_none_iff.mpr fun s hs => ?_
      rw [hscopes s hs]
      rfl
    rw [Ignore.isIgnored, hnone]
    rfl
  fun_induction keeps t scopes here names with
  | case1 => rfl
  | case2 scopes here name => rw [hkept name false hscopes, Bool.not_false]
  | case3 scopes here name rest _ ih =>
    rw [hkept name true hscopes, Bool.not_false, Bool.true_and]
    apply ih
    rw [List.forall_mem_cons]
    refine ⟨hin _, ?_⟩
    intro s hs
    obtain ⟨s', hs', rfl⟩ := List.mem_map.mp hs
    exact hscopes s' hs'

/-! ## Following a path further -/

variable {links : Nat} {base here there xs ys zs : List String} {content : Bytes}

/-- What follows a path may be changed for something else that leads on from where the path leads. -/
theorem follow_append (h : t.follow links base (xs ++ zs) = .ok here)
    (hon : ∀ links mid, t.follow links mid zs = .ok here → t.follow links mid ys = .ok there) :
    t.follow links base (xs ++ ys) = .ok there := by
  fun_induction FileTree.follow t links base xs with
  | case1 links base => exact hon links base h
  | case2 links base s rest hdir =>
    rw [List.cons_append, follow, if_pos hdir] at h
    cases h
  | case3 links base rest hdir ih =>
    rw [List.cons_append, follow, if_neg hdir, if_pos rfl] at h ⊢
    exact ih h
  | case4 links base rest hdir hdot ih =>
    rw [List.cons_append, follow, if_neg hdir, if_neg hdot, if_pos rfl] at h ⊢
    exact ih h
  | case5 links base s rest hdir hdot hup hnode =>
    rw [List.cons_append, follow, if_neg hdir, if_neg hdot, if_neg hup, hnode] at h
    cases h
  | case6 base s rest hdir hdot hup target hnode =>
    rw [List.cons_append, follow, if_neg hdir, if_neg hdot, if_neg hup, hnode] at h
    cases h
  | case7 base s rest hdir hdot hup n hnode =>
    rw [List.cons_append, follow, if_neg hdir, if_neg hdot, if_neg hup, hnode] at h
    simp at h
  | case8 base s rest hdir hdot hup target hnode n htarget ih =>
    rw [List.cons_append, follow, if_neg hdir, if_neg hdot, if_neg hup, hnode] at h ⊢
    simp only [htarget, if_false, ← List.append_assoc] at h ⊢
    exact ih h
  | case9 links base s rest hdir hdot hup node hlink hnode ih =>
    rw [List.cons_append, follow, if_neg hdir, if_neg hdot, if_neg hup, hnode] at h ⊢
    cases node with
    | link target => exact absurd rfl (hlink target)
    | file content' => exact ih h
    | directory es => exact ih h

/-- Names that lead to a node without any links are followed as they are. -/
theorem follow_names {names : List String} {node : FileNode} (h : ∀ n ∈ names, Path.IsName n)
    (hat : t.root.at? (here ++ names) = some node) (hnode : ∀ target, node ≠ .link target) (links : Nat) :
    t.follow links here names = .ok (here ++ names) := by
  induction names generalizing here with
  | nil => rw [follow, List.append_nil]
  | cons n names ih =>
    obtain ⟨hn, hnames⟩ := List.forall_mem_cons.mp h
    have hat' : t.root.at? (here ++ [n] ++ names) = some node := by rwa [List.append_assoc, List.singleton_append]
    have hdir : (t.root.at? here).any FileNode.isDirectory = true := by
      rw [FileNode.at?_append, Option.bind_eq_some_iff] at hat
      obtain ⟨d, hd, hbelow⟩ := hat
      rw [hd, Option.any_some]
      exact FileNode.isDirectory_of_at?_cons hbelow
    rw [follow, hdir, Bool.not_true, if_neg Bool.false_ne_true, if_neg hn.2.1, if_neg hn.2.2.1]
    have hnext := ih hnames hat'
    rw [FileNode.at?_append, Option.bind_eq_some_iff] at hat'
    obtain ⟨c, hc, hbelow⟩ := hat'
    rw [hc]
    cases c with
    | link target =>
      cases names with
      | nil => exact absurd (Option.some.inj hbelow).symm (hnode target)
      | cons m names => cases hbelow
    | file content' => simpa using hnext
    | directory es => simpa using hnext

/-- The rules written in a directory are those of the file there that is for them. -/
theorem rulesIn_of_file {directory : List String} (hat : t.root.at? (directory ++ [".ignore"]) = some (.file content)) :
    t.rulesIn directory = Ignore.Rules.ofBytes content := by
  rw [rulesIn, t.follow_names (by decide) hat (FileNode.file_ne_link content)]
  simp only [Except.toOption, Option.bind_some, hat]

theorem filter_openSegments (path : String) :
    (Path.openSegments path).filter (· ≠ []) = (Path.segments path).filter (· ≠ []) := by
  unfold Path.openSegments
  split
  · next hlast =>
    obtain ⟨front, hfront⟩ := List.getLast?_eq_some_iff.mp hlast
    rw [hfront, List.dropLast_concat, List.filter_append]
    exact (List.append_nil _).symm
  · rfl

theorem getLast?_foldl_join {names : List String} (h : ∀ n ∈ names, Path.IsName n) (hne : names ≠ []) (path : String) :
    (names.foldl Path.join path).toList.getLast? ≠ some '/' := by
  rcases List.eq_nil_or_concat names with rfl | ⟨before, last, rfl⟩
  · exact absurd rfl hne
  · rw [List.concat_eq_append] at h ⊢
    have hlast : Path.IsName last := h last (List.mem_append_right _ (List.mem_singleton_self _))
    obtain ⟨front, hjoin⟩ := Path.exists_join_eq hlast (before.foldl Path.join path)
    have hchars : last.toList ≠ [] := fun e => hlast.1 (String.toList_eq_nil_iff.mp e)
    rw [List.foldl_append, List.foldl_cons, List.foldl_nil, hjoin, String.toList_append,
      List.getLast?_append_of_ne_nil _ hchars]
    exact fun e => hlast.2.2.2 (List.mem_of_getLast? e)

/-- The steps of a path below a directory: those of the directory, but for a dot at their end, and then the names. -/
theorem steps_foldl_join {names : List String} (h : ∀ n ∈ names, Path.IsName n) (hne : names ≠ []) (path : String) :
    ∃ front dots, (dots = [] ∨ dots = ["."]) ∧ steps path = front ++ dots ∧
      steps (names.foldl Path.join path) = front ++ names := by
  have hnames : ((names.map String.toList).filter (· ≠ [])).map String.ofList = names := by
    have hall : ∀ s ∈ names.map String.toList, decide (s ≠ []) = true := by
      intro s hs
      obtain ⟨n, hn, rfl⟩ := List.mem_map.mp hs
      exact decide_eq_true fun e => (h n hn).1 (String.toList_eq_nil_iff.mp e)
    rw [List.filter_eq_self.mpr hall, List.map_map]
    exact (List.map_congr_left fun n _ => String.ofList_toList).trans (List.map_id names)
  refine ⟨((Path.openSegments path).filter (· ≠ [])).map String.ofList,
    if path.toList.getLast? = some '/' then ["."] else [], ?_, ?_, ?_⟩
  · split
    · exact .inr rfl
    · exact .inl rfl
  · rw [filter_openSegments, steps, Path.segments]
    split <;> simp
  · have hsegments : Path.segments (names.foldl Path.join path) = Path.openSegments path ++ names.map String.toList :=
      Path.segments_foldl_join h hne
    rw [Path.segments] at hsegments
    rw [steps, hsegments, List.filter_append, List.map_append, hnames, if_neg (getLast?_foldl_join h hne path)]

theorem nul_not_mem_foldl_join {path : String} {names : List String} (hpath : '\x00' ∉ path.toList)
    (h : ∀ n ∈ names, Path.IsName n ∧ '\x00' ∉ n.toList) : '\x00' ∉ (names.foldl Path.join path).toList := by
  obtain ⟨more, hmore, hchars⟩ := Path.foldl_join_eq_append (fun n hn => (h n hn).1) path
  rw [hmore, String.toList_append, List.mem_append, not_or]
  refine ⟨hpath, fun hmem => ?_⟩
  obtain hslash | ⟨n, hn, hmem⟩ := hchars _ hmem
  · cases hslash
  · exact (h n hn).2 hmem

/-- Names alone are a path from the working directory. -/
theorem locate_relative (names : List String) {node : FileNode}
    (h : ∀ n ∈ names, Path.IsName n ∧ '\x00' ∉ n.toList) (hne : names ≠ [])
    (hat : t.root.at? (t.workingDirectory ++ names) = some node) (hnode : ∀ target, node ≠ .link target) :
    t.locate (Path.relative names) = .ok (t.workingDirectory ++ names) := by
  have hproper : ∀ n ∈ names, Path.IsName n := fun n hn => (h n hn).1
  have hsteps : steps (Path.relative names) = names := by
    obtain ⟨front, dots, -, hempty, hsteps⟩ := steps_foldl_join hproper hne ""
    have hfront : front = [] := (List.append_eq_nil_iff.mp hempty.symm).1
    rw [Path.relative, hsteps, hfront, List.nil_append]
  have hsegments := Path.segments_relative hproper hne
  have hempty : Path.relative names ≠ "" := by
    intro e
    rw [e] at hsteps
    exact hne hsteps.symm
  have hnul : ¬(Path.relative names).toList.contains '\x00' = true := by
    rw [List.contains_iff_mem]
    exact nul_not_mem_foldl_join (by simp) h
  have hrooted : isRooted (Path.relative names) = false := by
    refine decide_eq_false fun hhead => ?_
    obtain ⟨rest, hrest⟩ := List.head?_eq_some_iff.mp hhead
    rw [Path.segments, hrest, List.splitOn_cons_eq_if_modifyHead, if_pos (beq_self_eq_true '/')] at hsegments
    obtain ⟨n, tail, rfl, hn, -⟩ := List.map_eq_cons_iff.mp hsegments.symm
    exact (hproper n List.mem_cons_self).1 (String.toList_eq_nil_iff.mp hn)
  rw [locate, if_neg hempty, if_neg hnul, hrooted, hsteps]
  exact t.follow_names hproper hat hnode linkLimit

/-- A name by itself leads to what has that name in the working directory. -/
theorem locate_name {name : String} {node : FileNode} (h : Path.IsName name ∧ '\x00' ∉ name.toList)
    (hat : t.root.at? (t.workingDirectory ++ [name]) = some node) (hnode : ∀ target, node ≠ .link target) :
    t.locate name = .ok (t.workingDirectory ++ [name]) := by
  have hname : Path.relative [name] = name := by
    rw [Path.relative, List.foldl_cons, List.foldl_nil, h.1.join_eq]
    exact String.empty_append
  have hlocate := t.locate_relative [name] (by rwa [List.forall_mem_singleton]) (List.cons_ne_nil _ _) hat hnode
  rwa [hname] at hlocate

theorem openNode_name {name : String} {node : FileNode} (h : Path.IsName name ∧ '\x00' ∉ name.toList)
    (hat : t.root.at? (t.workingDirectory ++ [name]) = some node) (hnode : ∀ target, node ≠ .link target) :
    t.openNode name = .ok node := by
  rw [openNode, t.locate_name h hat hnode]
  simp only [bind, Except.bind, hat]

theorem locate_foldl_join {path : String} {names : List String} (hpath : t.locate path = .ok here)
    (h : ∀ n ∈ names, Path.IsName n ∧ '\x00' ∉ n.toList) (hne : names ≠ [])
    (hat : t.root.at? (here ++ names) = some (.file content)) :
    t.locate (names.foldl Path.join path) = .ok (here ++ names) := by
  have hproper : ∀ n ∈ names, Path.IsName n := fun n hn => (h n hn).1
  unfold locate at hpath ⊢
  split at hpath
  · cases hpath
  · next hempty =>
    split at hpath
    · cases hpath
    · next hnul =>
      obtain ⟨more, hmore, -⟩ := Path.foldl_join_eq_append hproper path
      obtain ⟨front, dots, hdots, hsteps, hsteps'⟩ := steps_foldl_join hproper hne path
      have hpathChars : path.toList ≠ [] := fun e => hempty (String.toList_eq_nil_iff.mp e)
      have htext : (names.foldl Path.join path).toList = path.toList ++ more.toList := by
        rw [hmore, String.toList_append]
      have hempty' : names.foldl Path.join path ≠ "" := by
        intro e
        rw [e] at htext
        exact hpathChars (List.append_eq_nil_iff.mp htext.symm).1
      have hnul' : ¬(names.foldl Path.join path).toList.contains '\x00' = true := by
        rw [List.contains_iff_mem] at hnul ⊢
        exact nul_not_mem_foldl_join hnul h
      have hrooted : isRooted (names.foldl Path.join path) = isRooted path := by
        rw [isRooted, isRooted, htext, List.head?_append_of_ne_nil _ hpathChars]
      rw [if_neg hempty', if_neg hnul', hrooted, hsteps']
      rw [hsteps] at hpath
      refine t.follow_append hpath ?_
      rintro links mid hmid
      rcases hdots with rfl | rfl
      · rw [follow] at hmid
        cases hmid
        exact t.follow_names hproper hat (FileNode.file_ne_link content) links
      · have hmid' : mid = here := by
          rw [follow, follow] at hmid
          split at hmid
          · cases hmid
          · exact Except.ok.inj hmid
        rw [hmid']
        exact t.follow_names hproper hat (FileNode.file_ne_link content) links

theorem read_foldl_join {path : String} {names : List String} (hpath : t.locate path = .ok here)
    (h : ∀ n ∈ names, Path.IsName n ∧ '\x00' ∉ n.toList) (hne : names ≠ [])
    (hat : t.root.at? (here ++ names) = some (.file content)) :
    t.read (names.foldl Path.join path) = .ok content := by
  rw [read, openNode, t.locate_foldl_join hpath h hne hat]
  simp only [bind, Except.bind, hat]

end FileTree

end ClassAtlas
