import ClassAtlas.Load
import ClassAtlas.Proofs.PathOrder

/-
  ClassAtlas.Proofs.Delivery — what is found does not depend on who finds it first.

  The files below a location come from several threads, in any order (`Visit`), and sources
  and units are worked on by a pool whose tasks end in any order (`Pool`). Neither is seen in
  a survey:
  - The names in a directory are all different (`WellNamed`), so a walk comes to each file
    once, and no two files by paths of the same components (`walk_distinct`). On such paths
    the order of sources is strict, and sorting undoes the order of delivery.
  - A pool puts each result where its task stood (`Pool.run_eq_map`).
  From there on a survey is a function of the sources alone (`schedules_alike`).
-/

namespace ClassAtlas

/-! ## Directories -/

namespace FileNode

/-- The names in every directory are proper ones and all different. -/
inductive WellNamed : FileNode → Prop
  | file (content : Bytes) : WellNamed (file content)
  | link (target : String) : WellNamed (link target)
  | directory {es : List (String × FileNode)} (distinct : (es.map Prod.fst).Nodup) (names : ∀ e ∈ es, Path.IsName e.1)
      (below : ∀ e ∈ es, WellNamed e.2) : WellNamed (directory es)

variable {n m : FileNode}

theorem WellNamed.entries (h : n.WellNamed) :
    (n.entries.map Prod.fst).Nodup ∧ (∀ e ∈ n.entries, Path.IsName e.1) ∧ ∀ e ∈ n.entries, e.2.WellNamed := by
  cases h with
  | file content => simp [FileNode.entries]
  | link target => simp [FileNode.entries]
  | directory distinct names below => exact ⟨distinct, names, below⟩

theorem WellNamed.at? {names : List String} (h : n.WellNamed) (hm : n.at? names = some m) : m.WellNamed := by
  induction names generalizing n with
  | nil =>
    rw [FileNode.at?] at hm
    cases hm
    exact h
  | cons s ss ih =>
    rw [FileNode.at?, Option.bind_eq_some_iff] at hm
    obtain ⟨c, hlookup, hc⟩ := hm
    obtain ⟨before, after, hes, -⟩ := List.lookup_eq_some_iff.mp hlookup
    have hmem : (s, c) ∈ n.entries := by simp [hes]
    exact ih (h.entries.2.2 _ hmem) hc

/-- Nothing is there, or what is there is well named. -/
theorem WellNamed.directoryAt (h : n.WellNamed) (names : List String) :
    (FileNode.directory (((n.at? names).map FileNode.entries).getD [])).WellNamed := by
  cases hat : n.at? names with
  | none => exact .directory (by simp) (by simp) (by simp)
  | some m =>
    obtain ⟨distinct, hnames, below⟩ := (h.at? hat).entries
    exact .directory distinct hnames below

end FileNode

namespace FileTree

variable (t : FileTree)

/-! ## Walking -/

/-- No rules are written where there is no file for them. -/
theorem rulesIn_eq_nil {directory : List String} (h : t.root.at? (directory ++ [".ignore"]) = none) :
    t.rulesIn directory = [] := by
  have hfollow : ∃ e, t.follow linkLimit directory [".ignore"] = .error e := by
    rw [follow]
    split
    · exact ⟨_, rfl⟩
    · rw [if_neg (by decide), if_neg (by decide), h]
      exact ⟨_, rfl⟩
  obtain ⟨e, he⟩ := hfollow
  rw [rulesIn, he]
  rfl

/-- Files in the directory `names`, below entries of it that `heads` names: each is there once. -/
structure Below (names heads : List String) (files : List (List String)) : Prop where
  nodup : files.Nodup
  path : ∀ f ∈ files, ∃ head ∈ heads, ∃ rest, f = names ++ head :: rest ∧ ∀ s ∈ head :: rest, Path.IsName s

variable {names heads : List String} {files more : List (List String)} {name : String}

theorem below_nil : Below names heads [] := ⟨List.nodup_nil, by simp⟩

theorem below_append (h : Below names [name] files) (hmore : Below names heads more) (hname : name ∉ heads) :
    Below names (name :: heads) (files ++ more) where
  nodup := by
    refine List.nodup_append.mpr ⟨h.nodup, hmore.nodup, ?_⟩
    intro f hf g hg heq
    obtain ⟨head, hhead, rest, hpath, -⟩ := h.path f hf
    obtain ⟨head', hhead', rest', hpath', -⟩ := hmore.path g hg
    rw [heq, hpath'] at hpath
    have hsame : head' = head := (List.cons.inj (List.append_cancel_left hpath)).1
    rw [hsame, List.mem_singleton.mp hhead] at hhead'
    exact hname hhead'
  path := by
    intro f hf
    rcases List.mem_append.mp hf with hf | hf
    · obtain ⟨head, hhead, hrest⟩ := h.path f hf
      exact ⟨head, by rw [List.mem_singleton.mp hhead]; exact List.mem_cons_self, hrest⟩
    · obtain ⟨head, hhead, hrest⟩ := hmore.path f hf
      exact ⟨head, List.mem_cons_of_mem _ hhead, hrest⟩

/-- One directory further up. -/
theorem Below.enter (h : Below (names ++ [name]) heads files) (hname : Path.IsName name) :
    Below names [name] files where
  nodup := h.nodup
  path := by
    intro f hf
    obtain ⟨head, -, rest, hpath, hrest⟩ := h.path f hf
    refine ⟨name, List.mem_singleton_self _, head :: rest, ?_, ?_⟩
    · rw [hpath, List.append_assoc]
      rfl
    · rw [List.forall_mem_cons]
      exact ⟨hname, hrest⟩

theorem filesAmong_below (scopes : List Ignore.Scope) (here names : List String) {es : List (String × FileNode)}
    (distinct : (es.map Prod.fst).Nodup)
    (h : ∀ e ∈ es, Below names [e.1] (t.filesFrom scopes here names e.1 e.2)) :
    Below names (es.map Prod.fst) (t.filesAmong scopes here names es) := by
  induction es with
  | nil => exact below_nil
  | cons e es ih =>
    rw [List.map_cons, List.nodup_cons] at distinct
    rw [List.forall_mem_cons] at h
    rw [filesAmong, List.map_cons]
    exact below_append h.1 (ih distinct.2 h.2) distinct.1

theorem filesFrom_below {node : FileNode} (hnode : node.WellNamed) (hname : Path.IsName name)
    (scopes : List Ignore.Scope) (here names : List String) :
    Below names [name] (t.filesFrom scopes here names name node) := by
  -- on how the node is well named, which gives each entry of a directory its own hypothesis
  induction hnode generalizing scopes here names name with
  | file content =>
    rw [filesFrom]
    split
    · exact below_nil
    · refine ⟨List.pairwise_singleton _ _, ?_⟩
      intro f hf
      exact ⟨name, List.mem_singleton_self _, [], List.mem_singleton.mp hf, by simpa using hname⟩
  | link target =>
    rw [filesFrom]
    exact below_nil
  | directory distinct hnames _ ih =>
    rw [filesFrom]
    split
    · exact below_nil
    · exact (t.filesAmong_below _ _ _ distinct fun e he => ih e he (hnames e he) _ _ _).enter hname

theorem filesAmong_below_wellNamed {es : List (String × FileNode)} (hes : (FileNode.directory es).WellNamed)
    (scopes : List Ignore.Scope) (here names : List String) :
    Below names (es.map Prod.fst) (t.filesAmong scopes here names es) := by
  cases hes with
  | directory distinct hnames below =>
    exact t.filesAmong_below _ _ _ distinct fun e he => t.filesFrom_below (below e he) (hnames e he) _ _ _

/-- Files of one directory are at different paths, whichever path leads to the directory. -/
theorem Below.distinct (h : Below [] heads files) (location : String) :
    (files.map fun f => f.foldl Path.join location).Pairwise fun p q => Path.components p ≠ Path.components q := by
  have hnames : ∀ f ∈ files, ∀ s ∈ f, Path.IsName s := by
    intro f hf
    obtain ⟨head, -, rest, hpath, hrest⟩ := h.path f hf
    rw [hpath]
    exact hrest
  rw [List.pairwise_map]
  refine h.nodup.imp_of_mem fun {f g} hf hg hne heq => hne ?_
  rw [Path.components_foldl_join _ (hnames f hf), Path.components_foldl_join _ (hnames g hg)] at heq
  have hinj : Function.Injective Path.Component.name := fun a b hab => by cases hab; rfl
  exact List.map_injective_iff.mpr hinj (List.append_cancel_left heq)

/-- A walk comes to each file by one path. -/
theorem walk_distinct (ht : t.root.WellNamed) (location : String) :
    (t.walk location).Pairwise fun p q => Path.components p ≠ Path.components q := by
  unfold walk
  split
  · exact List.Pairwise.nil
  · next here _ =>
    split
    · exact List.Pairwise.nil
    · exact (t.filesAmong_below_wellNamed (ht.directoryAt here) _ _ _).distinct location

end FileTree

/-! ## Class files before archives -/

namespace Source

/-- In a strictly increasing list of what files below a root are, all class files come first. -/
theorem exists_split {root : String} {ss : List Source} (hss : ss.Pairwise fun a b => a.order b = .lt)
    (hroot : ∀ s ∈ ss, ∃ path, s = classFile root path ∨ s = archive path) :
    ∃ classFiles archives : List String, ss = classFiles.map (classFile root) ++ archives.map archive := by
  induction ss with
  | nil => exact ⟨[], [], rfl⟩
  | cons s ss ih =>
    rw [List.pairwise_cons] at hss
    rw [List.forall_mem_cons] at hroot
    obtain ⟨classFiles, archives, hsplit⟩ := ih hss.2 hroot.2
    obtain ⟨path, rfl | rfl⟩ := hroot.1
    · exact ⟨path :: classFiles, archives, by rw [hsplit]; rfl⟩
    · -- no class file comes behind an archive
      cases classFiles with
      | nil => exact ⟨[], path :: archives, by rw [hsplit]; rfl⟩
      | cons later classFiles =>
        have hlater : classFile root later ∈ ss := by simp [hsplit]
        cases hss.1 _ hlater

theorem mem_ofFiles {root : String} {paths : List String} {s : Source} :
    s ∈ ofFiles root paths ↔ ∃ path ∈ paths, ofFile? root path = some s := by
  rw [ofFiles, List.mem_mergeSort, List.mem_filterMap]

end Source

/-! ## A pool of workers -/

/-- A pool does a task for each element of a list. The results are in when all tasks have ended, each with the place
    of its task, and are collected into one list. -/
structure Pool where
  /-- The order in which tasks come to their end, for a number of threads. -/
  finish : {β : Type} → Option Nat → List (β × Nat) → List (β × Nat)
  collect : {β : Type} → List (β × Nat) → List β
  /-- Every task is done once. -/
  finish_perm : ∀ {β : Type} (threads : Option Nat) (rs : List (β × Nat)), (finish threads rs).Perm rs
  /-- Collecting keeps the order of the tasks. -/
  collect_places : ∀ {β : Type} (ys : List β) (rs : List (β × Nat)), rs.Perm ys.zipIdx → collect rs = ys

namespace Pool

def run {α β : Type} (pool : Pool) (threads : Option Nat) (f : α → β) (xs : List α) : List β :=
  pool.collect (pool.finish threads (xs.map f).zipIdx)

theorem run_eq_map {α β : Type} (pool : Pool) (threads : Option Nat) (f : α → β) (xs : List α) :
    pool.run threads f xs = xs.map f :=
  pool.collect_places _ _ (pool.finish_perm threads _)

end Pool

namespace Source

variable (pool : Pool) (threads : Option Nat)

/-- What comes of a source whose units are decoded by a pool. -/
def outcomeIn (s : Source) (retain : Bool) (units : Except LoadError (List SourceUnit)) : Outcome :=
  ⟨s.location,
    match units with
    | .ok us => .ok (pool.run threads (fun u => (u.entry, s.decode retain u)) us)
    | .error e => .error e.message⟩

theorem outcomeIn_eq (s : Source) (retain : Bool) (units : Except LoadError (List SourceUnit)) :
    s.outcomeIn pool threads retain units = s.outcome retain units := by
  cases units with
  | error e => rfl
  | ok us => rw [outcomeIn, outcome, Pool.run_eq_map]

end Source

namespace FileTree

variable (t : FileTree)

/-! ## Surveys -/

/-- A location that is searched, and the files below it as the threads of the walker deliver them. -/
structure Visit where
  location : String
  files : List String
  delivered : files.Perm (t.walk location)

theorem discoverAmong_of_delivered (ht : t.root.WellNamed) {location : String} {files : List String}
    (h : files.Perm (t.walk location)) : t.discoverAmong files location = t.discover location := by
  rw [discover, discoverAmong, discoverAmong, Source.ofFiles_perm (t.walk_distinct ht location) h]

/-- The sources of some visits, in the order of these. -/
def discoverVisits : List t.Visit → Except LocationError (List Source)
  | [] => .ok []
  | v :: vs => do
    let here ← t.discoverAmong v.files v.location
    let further ← discoverVisits vs
    return here ++ further

theorem discoverVisits_eq (ht : t.root.WellNamed) (visits : List t.Visit) :
    t.discoverVisits visits = t.discoverAll (visits.map (·.location)) := by
  induction visits with
  | nil => rfl
  | cons v vs ih => rw [discoverVisits, ih, t.discoverAmong_of_delivered ht v.delivered, List.map_cons, discoverAll]

/-- A survey in which sources are worked on by a pool. -/
def surveyIn (pool : Pool) (threads : Option Nat) (retain skipNested : Bool) (visits : List t.Visit) :
    Except LocationError Survey :=
  (t.discoverVisits visits).map fun ss =>
    Survey.ofOutcomes (pool.run threads (fun s => s.outcomeIn pool threads retain (s.load t skipNested)) ss)

/-- For every directory there is one list of sources, strictly increasing and with the class files in
    front of the archives, that is found however its files are delivered. So a survey is the same in
    whatever order they are delivered at each location, on however many threads, and whenever the tasks of
    the pool come to their ends. -/
theorem schedules_alike (ht : t.root.WellNamed) :
    (∀ location, t.isDirectory location = true →
      ∃ classFiles archives : List String,
        let sources := classFiles.map (Source.classFile location) ++ archives.map Source.archive
        (∀ s, s ∈ sources ↔ ∃ path ∈ t.walk location, Source.ofFile? location path = some s) ∧
          sources.Pairwise (fun a b => a.order b = .lt) ∧
          ∀ files, files.Perm (t.walk location) → t.discoverAmong files location = .ok sources) ∧
      ∀ pool threads retain skipNested (visits : List t.Visit),
        t.surveyIn pool threads retain skipNested visits = t.survey retain skipNested (visits.map (·.location)) := by
  refine ⟨?_, ?_⟩
  · intro location hdir
    have hincreasing : (Source.ofFiles location (t.walk location)).Pairwise fun a b => a.order b = .lt :=
      Source.ofFiles_increasing (t.walk_distinct ht location)
    obtain ⟨classFiles, archives, hsplit⟩ := Source.exists_split hincreasing fun s hs => by
      obtain ⟨path, -, hpath⟩ := Source.mem_ofFiles.mp hs
      exact ⟨path, Source.eq_of_ofFile? hpath⟩
    refine ⟨classFiles, archives, ?_⟩
    intro sources
    have hsources : sources = Source.ofFiles location (t.walk location) := hsplit.symm
    rw [hsources]
    refine ⟨fun s => Source.mem_ofFiles, hincreasing, ?_⟩
    intro files hfiles
    rw [t.discoverAmong_of_delivered ht hfiles, discover, discoverAmong, if_pos hdir]
  · intro pool threads retain skipNested visits
    have houtcomes : (fun s : Source => s.outcomeIn pool threads retain (s.load t skipNested)) =
        fun s => s.outcome retain (s.load t skipNested) := by
      funext s
      exact s.outcomeIn_eq pool threads retain _
    rw [surveyIn, survey, t.discoverVisits_eq ht, houtcomes]
    simp only [Pool.run_eq_map]

end FileTree

/-! ## A directory and a pool -/

/-- Results are in the order of their tasks once they are sorted by their places. -/
theorem sorted_places {β : Type} {ys : List β} {rs : List (β × Nat)} (hperm : rs.Perm ys.zipIdx) :
    (rs.mergeSort fun a b => a.2 ≤ b.2).map Prod.fst = ys := by
  have hsorted : (rs.mergeSort fun a b => a.2 ≤ b.2).Pairwise fun a b => decide (a.2 ≤ b.2) = true := by
    apply List.pairwise_mergeSort
    · intro a b c hab hbc
      simp only [decide_eq_true_eq] at hab hbc ⊢
      omega
    · intro a b
      simp only [Bool.or_eq_true, decide_eq_true_eq]
      omega
  have hplaces : ys.zipIdx.Pairwise fun a b => decide (a.2 ≤ b.2) = true := by
    have hrange : (ys.zipIdx.map Prod.snd).Pairwise (· < ·) := by
      rw [List.zipIdx_map_snd]
      exact List.pairwise_lt_range'
    exact (List.pairwise_map.mp hrange).imp fun hab => decide_eq_true (Nat.le_of_lt hab)
  have hsame : (rs.mergeSort fun a b => a.2 ≤ b.2).Perm ys.zipIdx := (List.mergeSort_perm rs _).trans hperm
  -- a place has one result, so the order by places is strict
  have hone : ∀ a b : β × Nat, a ∈ rs.mergeSort (fun a b => a.2 ≤ b.2) → b ∈ ys.zipIdx →
      decide (a.2 ≤ b.2) = true → decide (b.2 ≤ a.2) = true → a = b := by
    intro a b ha hb hab hba
    simp only [decide_eq_true_eq] at hab hba
    have hplace : a.2 = b.2 := by omega
    have hresult := List.mem_zipIdx_iff_getElem?.mp (hsame.mem_iff.mp ha)
    rw [hplace, List.mem_zipIdx_iff_getElem?.mp hb] at hresult
    exact Prod.ext (Option.some.inj hresult).symm hplace
  rw [hsame.eq_of_pairwise hone hsorted hplaces, List.zipIdx_map_fst]

/-- A pool whose tasks end in the opposite order. -/
def Pool.lastFirst : Pool where
  finish _ rs := rs.reverse
  collect rs := (rs.mergeSort fun a b => a.2 ≤ b.2).map Prod.fst
  finish_perm _ rs := rs.reverse_perm
  collect_places _ _ := sorted_places

namespace FileTree

/-- A directory in which an archive and class files stand in no order, one of them further below. -/
def shelf : FileTree where
  root := .directory [("b.jar", .file []), ("lib", .directory [("B.class", .file [0xCA])]), ("A.class", .file [0xCA])]
  workingDirectory := []

theorem shelf_wellNamed : shelf.root.WellNamed := by
  have hlib : (FileNode.directory [("B.class", .file [0xCA])]).WellNamed := by
    refine .directory (by decide) (by decide) ?_
    simp only [List.forall_mem_cons]
    exact ⟨.file _, by simp⟩
  refine .directory (by decide) (by decide) ?_
  simp only [List.forall_mem_cons]
  exact ⟨.file _, hlib, .file _, by simp⟩

theorem shelf_locate : shelf.locate "." = .ok [] := by
  have hsteps : steps "." = ["."] := by decide
  have hroot : isRooted "." = false := by decide
  rw [locate, if_neg (by decide), if_neg (by decide), hsteps, hroot]
  show shelf.follow linkLimit [] ["."] = .ok []
  have htop : (shelf.root.at? []).any FileNode.isDirectory = true := rfl
  simp [follow, htop]

theorem shelf_isDirectory : shelf.isDirectory "." = true := by
  rw [isDirectory, nodeAt?, shelf_locate]
  rfl

theorem shelf_walk : shelf.walk "." = ["./b.jar", "./lib/B.class", "./A.class"] := by
  have hroot : shelf.rulesIn [] = [] := shelf.rulesIn_eq_nil rfl
  have hlib : shelf.rulesIn ["lib"] = [] := shelf.rulesIn_eq_nil rfl
  have hentries : ((shelf.root.at? []).map FileNode.entries).getD [] =
      [("b.jar", .file []), ("lib", .directory [("B.class", .file [0xCA])]), ("A.class", .file [0xCA])] := rfl
  rw [walk, shelf_locate]
  simp only [hentries, hroot, hlib, filesAmong, filesFrom, List.nil_append]
  decide

/-- The files of the shelf in the opposite order. -/
def shelfReversed : shelf.Visit where
  location := "."
  files := ["./A.class", "./lib/B.class", "./b.jar"]
  delivered := by
    rw [shelf_walk]
    decide

theorem schedules_alike_shelf :
    shelf.root.WellNamed ∧
      (∃ sources : List Source, sources.Pairwise (fun a b => a.order b = .lt) ∧
        Source.classFile "." "./lib/B.class" ∈ sources ∧ Source.archive "./b.jar" ∈ sources ∧
        shelf.discoverAmong ["./lib/B.class", "./A.class", "./b.jar"] "." = .ok sources ∧
        shelf.discoverAmong ["./b.jar", "./A.class", "./lib/B.class"] "." = .ok sources) ∧
      shelf.surveyIn Pool.lastFirst (some 4) false false [shelfReversed, shelfReversed] =
        shelf.survey false false [".", "."] := by
  obtain ⟨hdiscover, hsurvey⟩ := shelf.schedules_alike shelf_wellNamed
  obtain ⟨classFiles, archives, hmem, hincreasing, hany⟩ := hdiscover "." shelf_isDirectory
  rw [shelf_walk] at hmem hany
  have hclass : Source.ofFile? "." "./lib/B.class" = some (.classFile "." "./lib/B.class") := by decide
  have harchive : Source.ofFile? "." "./b.jar" = some (.archive "./b.jar") := by
    rw [Source.ofFile?, if_neg (by decide), if_pos (Path.isArchive_of_jar (by decide))]
  refine ⟨shelf_wellNamed, ⟨_, hincreasing, ?_, ?_, hany _ (by decide), hany _ (by decide)⟩, hsurvey _ _ _ _ _⟩
  · exact (hmem _).mpr ⟨_, by decide, hclass⟩
  · exact (hmem _).mpr ⟨_, by decide, harchive⟩

end FileTree

end ClassAtlas
