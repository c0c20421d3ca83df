import ClassAtlas.Proofs.Packing
import ClassAtlas.Proofs.Parts
import Mathlib.Data.List.Pairwise

/-
  ClassAtlas.Proofs.Origins — what a class file is reported with leads back to it.

  A class file is reported with the root that it was found under and with an entry, the part
  of its path below there with slashes that lean forward. The root is the directory that was
  searched, or the one that the file is in if it is itself the location. Either way the path
  begins with the root, and the part below goes on to the file (`begins_with_root`).

  So root and entry lead back to the file unless that part holds a backslash, and no other
  file of the location is reported with the same two (`origin_identifies`). With a backslash
  in its name a file may have the entry of another one (`backslash_shares_entry`).
-/

namespace ClassAtlas

theorem map_leanForward {s : String} (h : '\\' ∉ s.toList) : s.map leanForward = s := by
  have hsame : s.toList.map leanForward = s.toList.map id := by
    refine List.map_congr_left fun c hc => if_neg ?_
    rintro rfl
    exact h hc
  rw [← String.toList_inj, String.toList_map, hsame, List.map_id]

namespace FileTree

variable {t : FileTree} {location root path : String} {ss : List Source}

/-! ## What is found at a location -/

/-- A walk goes on from the location with names. -/
theorem exists_names_of_mem_walk (ht : t.root.WellNamed) (h : path ∈ t.walk location) :
    ∃ names : List String, (∀ n ∈ names, Path.IsName n) ∧ path = names.foldl Path.join location := by
  unfold walk at h
  split at h
  · cases h
  · next here _ =>
    split at h
    · cases h
    · obtain ⟨names, hnames, rfl⟩ := List.mem_map.mp h
      obtain ⟨head, -, rest, rfl, hproper⟩ :=
        (t.filesAmong_below_wellNamed (ht.directoryAt here) _ _ _).path names hnames
      exact ⟨head :: rest, hproper, rfl⟩

/-- A location is a directory and has the sources in it, or it is a source itself. -/
theorem discover_cases (h : t.discover location = .ok ss) :
    (t.isDirectory location = true ∧ ss = Source.ofFiles location (t.walk location)) ∨
      (t.isDirectory location = false ∧
        (ss = [.archive location] ∨
          Path.isClassFile location = true ∧ ss = [.classFile ((Path.parent? location).getD ".") location])) := by
  rw [discover, discoverAmong] at h
  split at h
  · next hdirectory => exact .inl ⟨hdirectory, (Except.ok.inj h).symm⟩
  · next hdirectory =>
    refine .inr ⟨Bool.eq_false_iff.mpr hdirectory, ?_⟩
    split at h
    · cases h
    · split at h
      · exact .inl (Except.ok.inj h).symm
      · split at h
        · next hclass => exact .inr ⟨hclass, (Except.ok.inj h).symm⟩
        · cases h

theorem discover_increasing (ht : t.root.WellNamed) (h : t.discover location = .ok ss) :
    ss.Pairwise fun a b => a.order b = .lt := by
  obtain ⟨-, rfl⟩ | ⟨-, rfl | ⟨-, rfl⟩⟩ := discover_cases h
  · exact Source.ofFiles_increasing (t.walk_distinct ht location)
  · exact List.pairwise_singleton _ _
  · exact List.pairwise_singleton _ _

/-- Sources of one location that are in the same place in the order are the same. -/
theorem eq_of_key (ht : t.root.WellNamed) (h : t.discover location = .ok ss) {a b : Source} (ha : a ∈ ss) (hb : b ∈ ss)
    (hkey : a.key = b.key) : a = b := by
  have hdistinct : ss.Pairwise fun a b => a.key ≠ b.key := by
    refine (t.discover_increasing ht h).imp fun {a b} hlt hsame => ?_
    rw [Source.order_eq_eq_iff.mpr hsame] at hlt
    cases hlt
  have hsymm : Std.Symm fun a b : Source => a.key ≠ b.key := ⟨fun _ _ hne => hne.symm⟩
  by_contra hne
  exact hdistinct.forall ha hb hne hkey

/-! ## A root and what lies under it -/

/-- The path of a class file begins with its root, which is empty only for a location that is a bare name. -/
theorem begins_with_root (ht : t.root.WellNamed) (h : t.discover location = .ok ss)
    (hs : Source.classFile root path ∈ ss) :
    Path.components root <+: Path.components path ∧
      (t.isDirectory location = true ∨ 1 < (Path.components location).length → root ≠ "") := by
  obtain ⟨hdirectory, rfl⟩ | ⟨hfile, rfl | ⟨hclass, rfl⟩⟩ := discover_cases h
  · obtain ⟨file, hfile, hsource⟩ := Source.mem_ofFiles.mp hs
    obtain hsame | hsame := Source.eq_of_ofFile? hsource
    · cases hsame
      obtain ⟨names, hproper, rfl⟩ := exists_names_of_mem_walk ht hfile
      rw [Path.components_foldl_join location hproper]
      refine ⟨List.prefix_append _ _, fun _ hempty => ?_⟩
      have hnowhere : t.isDirectory "" = false := rfl
      rw [hempty, hnowhere] at hdirectory
      cases hdirectory
    · cases hsame
  · cases List.mem_singleton.mp hs
  · cases List.mem_singleton.mp hs
    have hextension : Path.extension? location = some "class" := of_decide_eq_true hclass
    obtain ⟨name, hname, -⟩ := Option.bind_eq_some_iff.mp hextension
    obtain ⟨dir, hparent, hcomponents⟩ := Path.parent?_of_fileName? hname
    rw [hparent, Option.getD_some, hcomponents]
    refine ⟨List.prefix_append _ _, fun hlong hempty => ?_⟩
    rw [hfile, hempty] at hlong
    rcases hlong with hdirectory | hmany
    · cases hdirectory
    · exact Nat.lt_irrefl 1 hmany

/-- Whatever class file is found at a location, its root is not empty, unless the location is a file by
    its bare name; its path begins with the root; what is below the root goes on to the file, and is its
    entry but for the way separators lean. So where no backslash is below the root, root and entry lead
    back to the file, and no other file has the same two. -/
theorem origin_identifies (ht : t.root.WellNamed) (h : t.discover location = .ok ss) :
    ∀ root path, Source.classFile root path ∈ ss →
      (t.isDirectory location = true ∨ 1 < (Path.components location).length → root ≠ "") ∧
        Path.components root <+: Path.components path ∧
        ∃ rel, Path.below? root path = some rel ∧ Path.same (Path.join root rel) path = true ∧
          entryName root path = rel.map leanForward ∧
          ('\\' ∉ rel.toList →
            Path.same (Path.join root (entryName root path)) path = true ∧
              ∀ path' rel', Source.classFile root path' ∈ ss → Path.below? root path' = some rel' →
                '\\' ∉ rel'.toList → entryName root path' = entryName root path → path' = path) := by
  intro root path hs
  obtain ⟨hbegins, hroot⟩ := begins_with_root ht h hs
  obtain ⟨rel, hrel⟩ := Option.isSome_iff_exists.mp ((Path.isSome_below? root path).mpr hbegins)
  obtain ⟨hcomponents, hjoin⟩ := Path.components_of_below? hrel
  have hentry {path rel : String} (hrel : Path.below? root path = some rel) :
      entryName root path = rel.map leanForward := by
    rw [entryName, hrel]
    rfl
  refine ⟨hroot, hbegins, rel, hrel, beq_iff_eq.mpr hjoin, hentry hrel, fun hbare => ⟨?_, ?_⟩⟩
  · rw [hentry hrel, map_leanForward hbare]
    exact beq_iff_eq.mpr hjoin
  · intro path' rel' hs' hrel' hbare' hsame
    rw [hentry hrel, hentry hrel', map_leanForward hbare, map_leanForward hbare'] at hsame
    subst hsame
    have hplace : Path.components path' = Path.components path := by
      rw [(Path.components_of_below? hrel').1, hcomponents]
    have hkey : (Source.classFile root path').key = (Source.classFile root path).key := by
      rw [Source.key, Source.key, hplace]
    exact (Source.classFile.inj (eq_of_key ht h hs' hs hkey)).2

/-! ## A name with a backslash -/

/-- A class file in a directory, and one beside that directory with a backslash in its name. -/
def leaningEntries : List (String × FileNode) :=
  [("a", .directory [("B.class", .file [0xCA])]), ("a\\B.class", .file [0xCA])]

def leaning : FileTree where
  root := .directory [("lib", .directory leaningEntries)]
  workingDirectory := []

theorem leaningEntries_wellNamed : (FileNode.directory leaningEntries).WellNamed := by
  refine .directory (by decide) (by decide) ?_
  rw [leaningEntries, List.forall_mem_cons, List.forall_mem_singleton]
  exact ⟨.single (by decide) (.file _), .file _⟩

theorem leaning_wellNamed : leaning.root.WellNamed := .single (by decide) leaningEntries_wellNamed

/-- The two class files. -/
def leaningFiles : List (List String × Bytes) := [(["a", "B.class"], [0xCA]), (["a\\B.class"], [0xCA])]

theorem leaning_discover :
    leaning.discover "lib" = .ok [.classFile "lib" "lib/a/B.class", .classFile "lib" "lib/a\\B.class"] := by
  let d : leaning.Searched "lib" := .ofName (by decide) rfl leaningEntries_wellNamed (by decide)
  have hpaths : ∀ f ∈ leaningFiles, Path.IsClassPath f.1 := by
    rw [leaningFiles, List.forall_mem_cons, List.forall_mem_singleton]
    exact ⟨⟨by decide, by decide, "B", by decide, rfl⟩, ⟨by decide, by decide, "a\\B", by decide, rfl⟩⟩
  have hkept : d.kept.Perm leaningFiles := by
    rw [d.kept_eq_files (by decide)]
    exact .refl _
  have hjoined : ["a", "B.class"].foldl Path.join "lib" = "lib/a/B.class" ∧
      ["a\\B.class"].foldl Path.join "lib" = "lib/a\\B.class" := by
    decide
  rw [d.discover_eq hpaths (by decide) hkept, leaningFiles, List.map_cons, List.map_singleton,
    hjoined.1, hjoined.2]

theorem origin_identifies_leaning :
    leaning.root.WellNamed ∧
      leaning.discover "lib" = .ok [.classFile "lib" "lib/a/B.class", .classFile "lib" "lib/a\\B.class"] ∧
      Path.same (Path.join "lib" (entryName "lib" "lib/a/B.class")) "lib/a/B.class" = true := by
  obtain ⟨-, -, rel, hrel, -, -, hback⟩ :=
    origin_identifies leaning_wellNamed leaning_discover "lib" "lib/a/B.class" List.mem_cons_self
  have hbelow : Path.below? "lib" "lib/a/B.class" = some "a/B.class" := by decide
  obtain rfl : rel = "a/B.class" := Option.some.inj (hrel.symm.trans hbelow)
  exact ⟨leaning_wellNamed, leaning_discover, (hback (by decide)).1⟩

/-- Two files of one location with one entry, which leads back to one of them only. -/
theorem backslash_shares_entry :
    leaning.discover "lib" = .ok [.classFile "lib" "lib/a/B.class", .classFile "lib" "lib/a\\B.class"] ∧
      Path.same "lib/a/B.class" "lib/a\\B.class" = false ∧
      entryName "lib" "lib/a/B.class" = "a/B.class" ∧ entryName "lib" "lib/a\\B.class" = "a/B.class" ∧
      Path.same (Path.join "lib" "a/B.class") "lib/a/B.class" = true ∧
      Path.same (Path.join "lib" "a/B.class") "lib/a\\B.class" = false :=
  ⟨leaning_discover, by decide, by decide +kernel, by decide +kernel, by decide, by decide⟩

end FileTree

end ClassAtlas
