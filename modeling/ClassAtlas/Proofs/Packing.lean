import ClassAtlas.Proofs.Kept
import ClassAtlas.Proofs.Naming
import ClassAtlas.Proofs.Spoiling
import ClassAtlas.Proofs.Storing

/-
  ClassAtlas.Proofs.Packing — class files in a directory, and the same files in an archive.

  The two are searched in different ways. Below a directory a file is known by the suffix of
  its path and found by a walk; in an archive it is known by the end of its entry's name, and
  the archive's own files are left out. Here both come to one list of records, file by file
  in one order (`survey_loose`, `survey_packed`), with nothing but the location to tell them
  apart; and the first of a name wins in both.
-/

namespace ClassAtlas

open Archive (Entry)

/-! ## Records by file -/

/-- The record of a class file, if there is one. -/
def recordsOf (location : String) (retain : Bool) (bytes : Bytes) : List ClassRecord :=
  match decodeUnit location retain bytes with
  | .ok (_, r) => [r]
  | .error _ => []

/-- What a file adds to a survey: its record, but for nested classes that are not wanted. -/
def fileRecords (location : String) (retain skipNested : Bool) (f : List String × Bytes) : List ClassRecord :=
  if skipNested && Path.isNestedClass (Path.relative f.1) then [] else recordsOf location retain f.2

theorem unitRecord_decode (s : Source) (retain : Bool) (u : SourceUnit) :
    unitRecord (u.entry, s.decode retain u) = recordsOf s.location retain u.bytes := by
  rw [Source.decode, recordsOf]
  cases decodeUnit s.location retain u.bytes with
  | ok r => rfl
  | error e => cases e <;> rfl

/-- The location is noted in the record, and has no other part in it. -/
theorem recordsOf_location (location location' : String) (retain : Bool) (bytes : Bytes) :
    recordsOf location' retain bytes =
      (recordsOf location retain bytes).map fun r => { r with location := location' } := by
  rw [recordsOf, recordsOf, decodeUnit_eq, decodeUnit_eq]
  cases ClassFile.parse bytes <;> rfl

theorem fileRecords_location (location location' : String) (retain skipNested : Bool) (f : List String × Bytes) :
    fileRecords location' retain skipNested f =
      (fileRecords location retain skipNested f).map fun r => { r with location := location' } := by
  rw [fileRecords, fileRecords]
  split
  · rfl
  · exact recordsOf_location location location' retain f.2

/-- Units that all load give a survey the records of their bytes. -/
theorem records_outcome (s : Source) (retain : Bool) (us : List SourceUnit) :
    (s.outcome retain (.ok us)).records = us.flatMap fun u => recordsOf s.location retain u.bytes := by
  rw [Source.outcome, Outcome.records, Outcome.loaded, List.flatMap_map]
  exact List.flatMap_congr fun u _ => unitRecord_decode s retain u

namespace FileTree

/-- The catalog of one location holds the first record of each name that its sources yield. -/
theorem survey_of_discover (t : FileTree) {location : String} {ss : List Source} (h : t.discover location = .ok ss)
    (retain skipNested : Bool) :
    ∃ s, t.survey retain skipNested [location] = .ok s ∧ ∀ name, s.catalog.find? name =
      ((ss.map fun s => s.outcome retain (s.load t skipNested)).flatMap Outcome.records).find? (·.name == name) := by
  have hall : t.discoverAll [location] = .ok ss := by
    rw [discoverAll, h]
    exact congrArg Except.ok (List.append_nil ss)
  exact ⟨_, by rw [survey, hall]; rfl, (Survey.accounts_ofOutcomes _).find⟩

/-! ## Loose files -/

/-- A directory that is searched: where it is, what is in it, and that its path is not read as standard input. -/
structure Searched (t : FileTree) (location : String) where
  here : List String
  entries : List (String × FileNode)
  located : t.locate location = .ok here
  found : t.root.at? here = some (.directory entries)
  wellNamed : (FileNode.directory entries).WellNamed
  not_dash : Path.same location "-" = false

namespace Searched

variable {t : FileTree} {location : String}

/-- A directory of the working directory, by its name. -/
def ofName {entries : List (String × FileNode)} (h : Path.IsName location ∧ '\x00' ∉ location.toList)
    (hat : t.root.at? (t.workingDirectory ++ [location]) = some (.directory entries))
    (hnamed : (FileNode.directory entries).WellNamed) (hdash : Path.same location "-" = false) :
    t.Searched location where
  here := t.workingDirectory ++ [location]
  entries := entries
  located := t.locate_name h hat (FileNode.directory_ne_link entries)
  found := hat
  wellNamed := hnamed
  not_dash := hdash

/-- The files below it that no rule leaves out. -/
def kept (d : t.Searched location) : List (List String × Bytes) :=
  (filesIn d.entries).filter fun f => t.keeps (⟨t.rulesIn d.here, []⟩ :: t.rulesAbove d.here) d.here f.1

/-- Without any rules these are all files that it holds. -/
theorem kept_eq_files (d : t.Searched location) (hnone : t.root.lacks ".ignore") :
    d.kept = filesIn d.entries := by
  have hrules (directory : List String) : t.rulesIn directory = [] :=
    t.rulesIn_eq_nil (FileNode.at?_of_lacks hnone directory)
  have hscopes : ∀ s ∈ (⟨t.rulesIn d.here, []⟩ :: t.rulesAbove d.here : List Ignore.Scope), s.rules = [] := by
    rw [List.forall_mem_cons]
    refine ⟨hrules _, fun s hs => ?_⟩
    obtain ⟨k, -, rfl⟩ := List.mem_map.mp hs
    exact hrules _
  rw [kept, List.filter_eq_self]
  exact fun f _ => t.keeps_of_no_rules hrules hscopes d.here f.1

theorem walk_among (d : t.Searched location) :
    t.walk location =
      (t.filesAmong (⟨t.rulesIn d.here, []⟩ :: t.rulesAbove d.here) d.here [] d.entries).map
        fun names => names.foldl Path.join location := by
  rw [walk, d.located]
  simp only [d.not_dash, Bool.false_eq_true, if_false, d.found, Option.map_some, FileNode.entries, Option.getD_some]

theorem walk_eq (d : t.Searched location) : t.walk location = d.kept.map fun f => f.1.foldl Path.join location := by
  rw [d.walk_among, filesAmong_eq]
  simp only [List.nil_append, List.map_map, kept, Function.comp_def]

theorem distinct (d : t.Searched location) :
    (t.walk location).Pairwise fun p q => Path.components p ≠ Path.components q := by
  rw [d.walk_among]
  exact (t.filesAmong_below_wellNamed d.wellNamed _ _ _).distinct location

theorem location_ne (d : t.Searched location) : location ≠ "" := by
  intro e
  have hlocated := d.located
  rw [locate, if_pos e] at hlocated
  cases hlocated

theorem isDirectory (d : t.Searched location) : t.isDirectory location = true := by
  rw [FileTree.isDirectory, nodeAt?, d.located]
  exact congrArg (Option.any FileNode.isDirectory) d.found

theorem read_kept (d : t.Searched location) {f : List String × Bytes} (hf : f ∈ d.kept) (hpath : Path.IsClassPath f.1) :
    t.read (f.1.foldl Path.join location) = .ok f.2 := by
  have hat : t.root.at? (d.here ++ f.1) = some (.file f.2) := by
    rw [FileNode.at?_append, d.found, Option.bind_some]
    exact d.wellNamed.at?_of_mem_files (List.mem_filter.mp hf).1
  exact t.read_foldl_join d.located (fun n hn => ⟨hpath.proper n hn, hpath.noNul n hn⟩) hpath.ne_nil hat

/-- Class files in the order of their names are sources in the order of sources. -/
theorem ofFiles_sorted {files : List (List String × Bytes)} (hpaths : ∀ f ∈ files, Path.IsClassPath f.1)
    (hsorted : files.Pairwise fun f g => Path.order (Path.relative f.1) (Path.relative g.1) ≠ .gt) :
    Source.ofFiles location (files.map fun f => f.1.foldl Path.join location) =
      files.map fun f => Source.classFile location (f.1.foldl Path.join location) := by
  have hsources : (files.map fun f => f.1.foldl Path.join location).filterMap (Source.ofFile? location) =
      files.map fun f => Source.classFile location (f.1.foldl Path.join location) := by
    rw [List.filterMap_map, ← List.filterMap_eq_map]
    refine List.filterMap_congr fun f hf => ?_
    simp only [Function.comp_apply, Source.ofFile?, (hpaths f hf).isClassFile, if_true]
  rw [Source.ofFiles, hsources]
  refine List.mergeSort_of_pairwise ?_
  rw [List.pairwise_map]
  refine hsorted.imp_of_mem fun {f g} hf hg hfg => ?_
  have hroot : Path.order location location = .eq := by
    rw [Path.order_eq]
    exact Std.ReflOrd.compare_self
  rw [Source.order, hroot, Ordering.eq_then, Path.order_foldl_join (hpaths f hf).proper (hpaths g hg).proper]
  exact bne_iff_ne.mpr hfg

theorem discover_eq (d : t.Searched location) {files : List (List String × Bytes)}
    (hpaths : ∀ f ∈ files, Path.IsClassPath f.1)
    (hsorted : files.Pairwise fun f g => Path.order (Path.relative f.1) (Path.relative g.1) ≠ .gt)
    (hheld : d.kept.Perm files) :
    t.discover location =
      .ok (files.map fun f => Source.classFile location (f.1.foldl Path.join location)) := by
  have hdelivered : (files.map fun f => f.1.foldl Path.join location).Perm (t.walk location) := by
    rw [d.walk_eq]
    exact hheld.symm.map _
  rw [discover, discoverAmong, if_pos d.isDirectory, ← Source.ofFiles_perm d.distinct hdelivered,
    ofFiles_sorted hpaths hsorted]

/-- What comes of one of the files. -/
theorem records_classFile (d : t.Searched location) {f : List String × Bytes} (hf : f ∈ d.kept)
    (hpath : Path.IsClassPath f.1) (retain skipNested : Bool) :
    let s := Source.classFile location (f.1.foldl Path.join location)
    (s.outcome retain (s.load t skipNested)).records = fileRecords location retain skipNested f := by
  intro s
  rw [Source.load, entryName_foldl_join d.location_ne hpath.proper hpath.ne_nil, Path.isNestedClass_map,
    d.read_kept hf hpath, fileRecords]
  cases skipNested && Path.isNestedClass (Path.relative f.1) with
  | true => rfl
  | false =>
    rw [if_neg Bool.false_ne_true, if_neg Bool.false_ne_true, records_outcome]
    exact List.flatMap_singleton _ _

/-- The records of a directory, file by file. -/
theorem survey_loose (d : t.Searched location) {files : List (List String × Bytes)}
    (hpaths : ∀ f ∈ files, Path.IsClassPath f.1)
    (hsorted : files.Pairwise fun f g => Path.order (Path.relative f.1) (Path.relative g.1) ≠ .gt)
    (hheld : d.kept.Perm files) (retain skipNested : Bool) :
    ∃ s, t.survey retain skipNested [location] = .ok s ∧
      ∀ name, s.catalog.find? name =
        (files.flatMap (fileRecords location retain skipNested)).find? (·.name == name) := by
  obtain ⟨s, hsurvey, hfind⟩ := t.survey_of_discover (d.discover_eq hpaths hsorted hheld) retain skipNested
  refine ⟨s, hsurvey, fun name => ?_⟩
  rw [hfind, List.flatMap_map, List.flatMap_map]
  congr 1
  exact List.flatMap_congr fun f hf => d.records_classFile (hheld.mem_iff.mpr hf) (hpaths f hf) retain skipNested

end Searched

/-! ## Packed files -/

/-- What an entry holds: a name, and the content if it can be had. -/
def held (e : Entry) : String × Option Bytes := (e.name, e.opened.toOption.bind fun s => s.content.toOption)

/-- An archive whose entries are some files by their paths, in the order of these. -/
structure Packed (t : FileTree) (location : String) (files : List (List String × Bytes)) : Prop where
  isArchive : Path.isArchive location = true
  image : ∃ bytes, t.openNode location = .ok (.file bytes) ∧
    (Archive.entries bytes).map (List.map held) = .ok (files.map fun f => (Path.relative f.1, some f.2))

/-- Files that are stored as they are, under their paths. -/
theorem packed_stored {t : FileTree} {location : String} {files : List (List String × Bytes)}
    {fs : List (String × Bytes)} (harchive : Path.isArchive location = true)
    (hopen : t.openNode location = .ok (.file (Archive.stored fs))) (hfs : Archive.Storable fs)
    (hfiles : fs = files.map fun f => (Path.relative f.1, f.2)) : t.Packed location files := by
  refine ⟨harchive, _, hopen, ?_⟩
  have hheld : held ∘ Entry.ofStored = fun f => (f.1, some f.2) := by
    funext f
    simp only [held, Function.comp_apply, Entry.ofStored, Except.toOption, Option.bind_some, Archive.content_ofStored]
  rw [Archive.entries_stored hfs, Except.map, List.map_map, hheld, hfiles, List.map_map]
  rfl

/-- One file that is stored as it is. -/
theorem packed_single {t : FileTree} {location name : String} {names : List String} {bytes : Bytes}
    (harchive : Path.isArchive location = true)
    (hopen : t.openNode location = .ok (.file (Archive.stored [(name, bytes)]))) (hname : Archive.PlainName name)
    (hsize : bytes.length < 2 ^ 16) (hfile : name = Path.relative names) : t.Packed location [(names, bytes)] := by
  have hshort := hname.atMost
  refine packed_stored harchive hopen ⟨List.forall_mem_singleton.mpr hname, Nat.one_lt_two_pow (by decide), ?_⟩ ?_
  · simp only [Archive.length_stored, List.length_flatMap, Archive.length_storedEntry, Archive.length_storedDirectory,
      List.map_singleton, List.sum_singleton, Archive.Place.locatorSignature]
    omega
  · rw [hfile]
    rfl

/-- The entry of a file, and sound. -/
def Holds (e : Entry) (f : List String × Bytes) : Prop :=
  e.name = Path.relative f.1 ∧ ∃ s, e.opened = .ok s ∧ s.content = .ok f.2

theorem holds_of_held {e : Entry} {f : List String × Bytes} (h : held e = (Path.relative f.1, some f.2)) :
    Holds e f := by
  obtain ⟨hname, hcontent⟩ := Prod.mk.inj h
  obtain ⟨s, hs, hbytes⟩ := Option.bind_eq_some_iff.mp hcontent
  refine ⟨hname, s, ?_, ?_⟩
  · cases hopened : e.opened with
    | ok s' =>
      rw [hopened] at hs
      exact congrArg Except.ok (Option.some.inj hs)
    | error x =>
      rw [hopened] at hs
      cases hs
  · cases hread : s.content with
    | ok bytes =>
      rw [hread] at hbytes
      exact congrArg Except.ok (Option.some.inj hbytes)
    | error x =>
      rw [hread] at hbytes
      cases hbytes

theorem Packed.entries {t : FileTree} {location : String} {files : List (List String × Bytes)}
    (h : t.Packed location files) :
    ∃ bytes es, t.openNode location = .ok (.file bytes) ∧ Archive.entries bytes = .ok es ∧
      List.Forall₂ Holds es files := by
  obtain ⟨bytes, hopen, himage⟩ := h.image
  cases hentries : Archive.entries bytes with
  | error x =>
    rw [hentries] at himage
    cases himage
  | ok es =>
    rw [hentries] at himage
    refine ⟨bytes, es, hopen, hentries, ?_⟩
    have hsame : List.Forall₂ (· = ·) (es.map held) (files.map fun f => (Path.relative f.1, some f.2)) := by
      rw [List.forall₂_eq_eq_eq]
      exact Except.ok.inj himage
    rw [List.forall₂_map_left_iff, List.forall₂_map_right_iff] at hsame
    exact hsame.imp fun _ _ => holds_of_held

theorem isWanted_eq {e : Entry} {f : List String × Bytes} (h : Holds e f) (hpath : Path.IsClassPath f.1)
    (skipNested : Bool) :
    e.isWanted skipNested =
      (!Path.isMetaInf f.1 && !(skipNested && Path.isNestedClass (Path.relative f.1))) := by
  obtain ⟨front, hfront⟩ := hpath.relative_eq
  have hclass : ".class".toList.isSuffixOf (Path.relative f.1).toList = true := by
    rw [hfront, String.toList_append, List.isSuffixOf_iff_suffix]
    exact List.suffix_append _ _
  have hmeta : "META-INF/".toList.isPrefixOf (Path.relative f.1).toList = Path.isMetaInf f.1 :=
    Path.isPrefixOf_metaInf hpath.proper hpath.ne_nil
  have hfile : e.isDirectory = false := by
    rw [Archive.Entry.isDirectory, h.1, hfront, String.toList_append, List.getLast?_append_of_ne_nil _ (by decide)]
    decide
  rw [Archive.Entry.isWanted, hfile, h.1, hclass, hmeta]
  rfl

theorem fault?_eq_none {e : Entry} {f : List String × Bytes} (h : Holds e f) (skipNested : Bool) :
    e.fault? skipNested = none := by
  obtain ⟨-, s, hopened, hcontent⟩ := h
  simp only [Archive.Entry.fault?, hopened, hcontent]
  split <;> rfl

theorem findSome?_fault {es : List Entry} {files : List (List String × Bytes)} (h : List.Forall₂ Holds es files)
    (skipNested : Bool) :
    es.findSome? (Entry.fault? skipNested) = none := by
  induction h with
  | nil => rfl
  | cons hholds _ ih =>
    rw [List.findSome?_cons, fault?_eq_none hholds]
    exact ih

theorem classFile?_eq {e : Entry} {f : List String × Bytes} (h : Holds e f) (skipNested : Bool) :
    e.classFile? skipNested = if e.isWanted skipNested then some (Path.relative f.1, f.2) else none := by
  obtain ⟨hname, s, hopened, hcontent⟩ := h
  simp only [Archive.Entry.classFile?, hopened, hcontent, hname]

/-- What comes of the entries, file by file. -/
theorem records_soundUnits {es : List Entry} {files : List (List String × Bytes)} (h : List.Forall₂ Holds es files)
    (hpaths : ∀ f ∈ files, Path.IsClassPath f.1) (location : String) (retain skipNested : Bool) :
    ((Source.soundUnits skipNested es).flatMap fun u => recordsOf location retain u.bytes) =
      (files.filter fun f => !Path.isMetaInf f.1).flatMap (fileRecords location retain skipNested) := by
  induction h with
  | nil => rfl
  | @cons e f es files hholds _ ih =>
    obtain ⟨hpath, hpaths⟩ := List.forall_mem_cons.mp hpaths
    have hrest := ih hpaths
    rw [Source.soundUnits] at hrest ⊢
    rw [List.filterMap_cons, classFile?_eq hholds, isWanted_eq hholds hpath, List.filter_cons]
    cases Path.isMetaInf f.1 with
    | true => exact hrest
    | false =>
      cases hnested : skipNested && Path.isNestedClass (Path.relative f.1) with
      | true =>
        have hnone : fileRecords location retain skipNested f = [] := by rw [fileRecords, hnested, if_pos rfl]
        simp only [Bool.not_false, Bool.not_true, Bool.and_false, if_true, Bool.false_eq_true, if_false,
          List.flatMap_cons, hnone, List.nil_append]
        exact hrest
      | false =>
        have hone : fileRecords location retain skipNested f = recordsOf location retain f.2 := by
          rw [fileRecords, hnested, if_neg Bool.false_ne_true]
        simp only [Bool.not_false, Bool.and_self, if_true, List.map_cons, List.flatMap_cons, hone, hrest]

theorem nodeAt?_of_openNode (t : FileTree) {path : String} {node : FileNode} (h : t.openNode path = .ok node) :
    t.nodeAt? path = some node := by
  rw [nodeAt?]
  simp only [openNode, bind, Except.bind] at h
  split at h
  · cases h
  · next here hlocate =>
    split at h
    · next n hat =>
      cases h
      rw [hlocate]
      exact hat
    · cases h

/-- The records of an archive, entry by entry. -/
theorem survey_entries {t : FileTree} {location : String} {files : List (List String × Bytes)}
    (h : t.Packed location files) (retain skipNested : Bool) :
    ∃ es s, List.Forall₂ Holds es files ∧ t.survey retain skipNested [location] = .ok s ∧
      ∀ name, s.catalog.find? name =
        ((Source.soundUnits skipNested es).flatMap fun u => recordsOf location retain u.bytes).find?
          (·.name == name) := by
  obtain ⟨bytes, es, hopen, hentries, hholds⟩ := h.entries
  have hnode := t.nodeAt?_of_openNode hopen
  have hdiscover : t.discover location = .ok [.archive location] := by
    rw [discover, discoverAmong, isDirectory, isThere, hnode, h.isArchive]
    rfl
  have hload : (Source.archive location).load t skipNested = .ok (Source.soundUnits skipNested es) := by
    simp only [Source.load, hopen, hentries]
    exact Source.unitsOfEntries_of_sound (findSome?_fault hholds skipNested) location
  obtain ⟨s, hsurvey, hfind⟩ := t.survey_of_discover hdiscover retain skipNested
  refine ⟨es, s, hholds, hsurvey, fun name => ?_⟩
  rw [hfind, List.map_singleton, List.flatMap_singleton, hload, records_outcome]
  rfl

/-- The records of an archive, file by file. -/
theorem survey_packed {t : FileTree} {location : String} {files : List (List String × Bytes)}
    (h : t.Packed location files) (hpaths : ∀ f ∈ files, Path.IsClassPath f.1) (retain skipNested : Bool) :
    ∃ s, t.survey retain skipNested [location] = .ok s ∧ ∀ name, s.catalog.find? name =
      ((files.filter fun f => !Path.isMetaInf f.1).flatMap (fileRecords location retain skipNested)).find?
        (·.name == name) := by
  obtain ⟨es, s, hholds, hsurvey, hfind⟩ := survey_entries h retain skipNested
  refine ⟨s, hsurvey, fun name => ?_⟩
  rw [hfind, records_soundUnits hholds hpaths]

/-! ## A depot -/

/-- A class file, and a nested one further below; and an archive with both and one of its own. -/
def depot : FileTree where
  root := .directory
    [("loose", .directory
        [("lib", .directory [("B$1.class", .file (bareClass [0x42, 0x24, 0x31]))]),
          ("A.class", .file (bareClass [0x41]))]),
      ("packed.jar", .file (Archive.stored [("A.class", bareClass [0x41]), ("META-INF/A.class", []),
        ("lib/B$1.class", bareClass [0x42, 0x24, 0x31])]))]
  workingDirectory := []

def depotFiles : List (List String × Bytes) :=
  [(["A.class"], bareClass [0x41]), (["META-INF", "A.class"], []), (["lib", "B$1.class"], bareClass [0x42, 0x24, 0x31])]

theorem isClassPath_depotFiles : ∀ f ∈ depotFiles, Path.IsClassPath f.1 := by
  simp only [depotFiles, List.forall_mem_cons]
  refine ⟨⟨by decide, by decide, "A", by decide, rfl⟩, ⟨by decide, by decide, "A", by decide, rfl⟩,
    ⟨by decide, by decide, "B$1", by decide, rfl⟩, by simp⟩

def depotLoose : depot.Searched "loose" :=
  have hnamed : (FileNode.directory
      [("lib", .directory [("B$1.class", .file (bareClass [0x42, 0x24, 0x31]))]),
        ("A.class", .file (bareClass [0x41]))]).WellNamed := by
    refine .directory (by decide) (by decide) ?_
    rw [List.forall_mem_cons, List.forall_mem_singleton]
    exact ⟨.single (by decide) (.file _), .file _⟩
  .ofName (by decide) rfl hnamed (by decide)

theorem depot_packed : depot.Packed "packed.jar" depotFiles := by
  refine packed_stored (Path.isArchive_of_jar (by decide))
    (depot.openNode_name (by decide) rfl (FileNode.file_ne_link _)) ⟨by decide, by decide, ?_⟩ (by decide)
  simp only [Archive.length_stored, List.length_flatMap, Archive.length_storedEntry, Archive.length_storedDirectory]
  decide

/-! ## Loose and packed alike -/

/-- Let a directory hold class files, and an archive the same ones in their order and any of its own below
    `META-INF`. The surveys of the two find classes of the same names, and for each name the same record
    but for its location. -/
theorem loose_packed_alike {t t' : FileTree} {directory jar : String} {files : List (List String × Bytes)}
    (d : t.Searched directory) (hpaths : ∀ f ∈ files, Path.IsClassPath f.1)
    (hsorted : files.Pairwise fun f g => Path.order (Path.relative f.1) (Path.relative g.1) ≠ .gt)
    (hloose : d.kept.Perm (files.filter fun f => !Path.isMetaInf f.1)) (hpacked : t'.Packed jar files)
    (retain skipNested : Bool) :
    ∃ s s', t.survey retain skipNested [directory] = .ok s ∧ t'.survey retain skipNested [jar] = .ok s' ∧
      ∀ name, s'.catalog.find? name = (s.catalog.find? name).map fun r => { r with location := jar } := by
  have houtside : (files.filter fun f => !Path.isMetaInf f.1).Sublist files := List.filter_sublist
  obtain ⟨s, hsurvey, hfind⟩ :=
    d.survey_loose (fun f hf => hpaths f (houtside.mem hf)) (hsorted.sublist houtside) hloose retain skipNested
  obtain ⟨s', hsurvey', hfind'⟩ := survey_packed hpacked hpaths retain skipNested
  refine ⟨s, s', hsurvey, hsurvey', fun name => ?_⟩
  have hrecords : (files.filter fun f => !Path.isMetaInf f.1).flatMap (fileRecords jar retain skipNested) =
      ((files.filter fun f => !Path.isMetaInf f.1).flatMap (fileRecords directory retain skipNested)).map
        fun r => { r with location := jar } := by
    rw [List.map_flatMap]
    exact List.flatMap_congr fun f _ => fileRecords_location directory jar retain skipNested f
  rw [hfind, hfind', hrecords, List.find?_map]
  rfl

theorem loose_packed_alike_depot :
    ∃ s s', depot.survey false true ["loose"] = .ok s ∧ depot.survey false true ["packed.jar"] = .ok s' ∧
      ∀ name, s'.catalog.find? name = (s.catalog.find? name).map fun r => { r with location := "packed.jar" } := by
  have hlacks : depot.root.lacks ".ignore" = true := by decide
  have hloose : depotLoose.kept.Perm (depotFiles.filter fun f => !Path.isMetaInf f.1) := by
    rw [depotLoose.kept_eq_files hlacks]
    decide
  exact loose_packed_alike depotLoose isClassPath_depotFiles (by decide) hloose depot_packed false true

/-! ## Where the two differ -/

/-- A directory and an archive that hold one file and the same, and the class in it is found in one of them only. -/
def Apart (t : FileTree) (directory jar : String) (f : List String × Bytes) : Prop :=
  (t.nodeAt? directory).map FileNode.files = some [f] ∧ t.Packed jar [f] ∧
    ∃ s s', t.survey false false [directory] = .ok s ∧ t.survey false false [jar] = .ok s' ∧
      (s.catalog.find? "A").isSome ≠ (s'.catalog.find? "A").isSome

/-- A class file that is alone in its directory or archive. -/
def plainFiles : List (List String × Bytes) := [(["A.class"], bareClass [0x41])]

def plainJar : Bytes := Archive.stored [("A.class", bareClass [0x41])]

theorem isClassPath_plainFiles : ∀ f ∈ plainFiles, Path.IsClassPath f.1 := by
  rw [plainFiles, List.forall_mem_singleton]
  exact ⟨by decide, by decide, "A", by decide, rfl⟩

theorem packed_plainJar {t : FileTree} (hopen : t.openNode "plain.jar" = .ok (.file plainJar)) :
    t.Packed "plain.jar" plainFiles :=
  packed_single (Path.isArchive_of_jar (by decide)) hopen (by decide) (by decide) (by decide)

/-- A class file below `META-INF`, one whose name is nothing but the suffix, and one in a directory called by a dash. -/
def yard : FileTree where
  root := .directory
    [("meta", .directory [("META-INF", .directory [("A.class", .file (bareClass [0x41]))])]),
      ("meta.jar", .file (Archive.stored [("META-INF/A.class", bareClass [0x41])])),
      ("suffix", .directory [(".class", .file (bareClass [0x41]))]),
      ("suffix.jar", .file (Archive.stored [(".class", bareClass [0x41])])),
      ("-", .directory [("A.class", .file (bareClass [0x41]))]),
      ("plain.jar", .file plainJar)]
  workingDirectory := []

/-- A rule that leaves class files out. -/
def classRule : Bytes := [0x2A, 0x2E, 0x63, 0x6C, 0x61, 0x73, 0x73]

/-- Next to the directory the rule is written. -/
def fenced : FileTree where
  root := .directory
    [(".ignore", .file classRule),
      ("plain", .directory [("A.class", .file (bareClass [0x41]))]),
      ("plain.jar", .file plainJar)]
  workingDirectory := []

/-- It is enough that the class is among the records of one of the two. -/
theorem apart_of_records {t : FileTree} {directory jar : String} {f : List String × Bytes} {node : FileNode}
    {rs rs' : List ClassRecord} (hopen : t.openNode directory = .ok node) (hfiles : node.files = [f])
    (hpacked : t.Packed jar [f])
    (hloose : ∃ s,
      t.survey false false [directory] = .ok s ∧ ∀ name, s.catalog.find? name = rs.find? (·.name == name))
    (hjar : ∃ s,
      t.survey false false [jar] = .ok s ∧ ∀ name, s.catalog.find? name = rs'.find? (·.name == name))
    (hne : (rs.find? (·.name == "A")).isSome ≠ (rs'.find? (·.name == "A")).isSome) :
    t.Apart directory jar f := by
  obtain ⟨s, hs, hfind⟩ := hloose
  obtain ⟨s', hs', hfind'⟩ := hjar
  refine ⟨?_, hpacked, s, s', hs, hs', ?_⟩
  · rw [t.nodeAt?_of_openNode hopen]
    exact congrArg some hfiles
  · rwa [hfind, hfind']

theorem apart_meta : yard.Apart "meta" "meta.jar" (["META-INF", "A.class"], bareClass [0x41]) := by
  have hpaths : ∀ f ∈ [(["META-INF", "A.class"], bareClass [0x41])], Path.IsClassPath f.1 := by
    rw [List.forall_mem_singleton]
    exact ⟨by decide, by decide, "A", by decide, rfl⟩
  have hpacked : yard.Packed "meta.jar" [(["META-INF", "A.class"], bareClass [0x41])] :=
    packed_single (Path.isArchive_of_jar (by decide)) (yard.openNode_name (by decide) rfl (FileNode.file_ne_link _))
      (by decide) (by decide) (by decide)
  let d : yard.Searched "meta" :=
    .ofName (by decide) rfl (.single (by decide) (.single (by decide) (.file _))) (by decide)
  have hkept : d.kept.Perm [(["META-INF", "A.class"], bareClass [0x41])] := by
    rw [d.kept_eq_files (by decide)]
    decide
  exact apart_of_records (yard.openNode_name (by decide) rfl (FileNode.directory_ne_link _)) rfl hpacked
    (d.survey_loose hpaths (List.pairwise_singleton _ _) hkept false false) (survey_packed hpacked hpaths false false)
    (by decide)

theorem apart_suffix : yard.Apart "suffix" "suffix.jar" ([".class"], bareClass [0x41]) := by
  have hpacked : yard.Packed "suffix.jar" [([".class"], bareClass [0x41])] :=
    packed_single (Path.isArchive_of_jar (by decide)) (yard.openNode_name (by decide) rfl (FileNode.file_ne_link _))
      (by decide) (by decide) (by decide)
  let d : yard.Searched "suffix" := .ofName (by decide) rfl (.single (by decide) (.file _)) (by decide)
  have hdiscover : yard.discover "suffix" = .ok [] := by
    have hwalk : yard.walk "suffix" = ["suffix/.class"] := by
      rw [d.walk_eq, d.kept_eq_files (by decide)]
      decide
    have hnone : ["suffix/.class"].filterMap (Source.ofFile? "suffix") = [] := by decide
    rw [discover, discoverAmong, if_pos d.isDirectory, hwalk, Source.ofFiles, hnone, List.mergeSort_nil]
  have hjar : ∃ s, yard.survey false false ["suffix.jar"] = .ok s ∧
      ∀ name, s.catalog.find? name = (recordsOf "suffix.jar" false (bareClass [0x41])).find? (·.name == name) := by
    obtain ⟨es, s, hholds, hsurvey, hfind⟩ := survey_entries hpacked false false
    refine ⟨s, hsurvey, fun name => ?_⟩
    cases hholds with
    | @cons e _ _ _ h hnil =>
      cases hnil
      have hwanted : e.isWanted false = true := by
        rw [Archive.Entry.isWanted, Archive.Entry.isDirectory, h.1]
        decide
      rw [hfind, Source.soundUnits, List.filterMap_cons, classFile?_eq h, hwanted]
      rfl
  exact apart_of_records (yard.openNode_name (by decide) rfl (FileNode.directory_ne_link _)) rfl hpacked
    (yard.survey_of_discover hdiscover false false) hjar (by decide)

theorem apart_dash : yard.Apart "-" "plain.jar" (["A.class"], bareClass [0x41]) := by
  have hpacked : yard.Packed "plain.jar" plainFiles :=
    packed_plainJar (yard.openNode_name (by decide) rfl (FileNode.file_ne_link _))
  have hopen : yard.openNode "-" = .ok (.directory [("A.class", .file (bareClass [0x41]))]) :=
    yard.openNode_name (by decide) rfl (FileNode.directory_ne_link _)
  have hdiscover : yard.discover "-" = .ok [] := by
    have hlocate : yard.locate "-" = .ok ["-"] := yard.locate_name (by decide) rfl (FileNode.directory_ne_link _)
    have hwalk : yard.walk "-" = [] := by
      rw [walk, hlocate]
      exact if_pos (by decide)
    rw [discover, discoverAmong, isDirectory, yard.nodeAt?_of_openNode hopen, hwalk, Source.ofFiles, List.filterMap_nil,
      List.mergeSort_nil]
    rfl
  exact apart_of_records hopen rfl hpacked (yard.survey_of_discover hdiscover false false)
    (survey_packed hpacked isClassPath_plainFiles false false) (by decide)

theorem apart_fenced : fenced.Apart "plain" "plain.jar" (["A.class"], bareClass [0x41]) := by
  have hpacked : fenced.Packed "plain.jar" plainFiles :=
    packed_plainJar (fenced.openNode_name (by decide) rfl (FileNode.file_ne_link _))
  let d : fenced.Searched "plain" := .ofName (by decide) rfl (.single (by decide) (.file _)) (by decide)
  have hkept : d.kept.Perm [] := by
    have hinside : fenced.rulesIn ["plain"] = [] := fenced.rulesIn_eq_nil rfl
    have habove : fenced.rulesAbove ["plain"] = [⟨Ignore.Rules.ofBytes classRule, ["plain"]⟩] := by
      have hroot : fenced.rulesIn [] = Ignore.Rules.ofBytes classRule := fenced.rulesIn_of_file rfl
      rw [← hroot]
      rfl
    change ([(["A.class"], bareClass [0x41])].filter fun f =>
      fenced.keeps (⟨fenced.rulesIn ["plain"], []⟩ :: fenced.rulesAbove ["plain"]) ["plain"] f.1).Perm []
    rw [hinside, habove, List.filter_singleton, keeps]
    decide
  exact apart_of_records (fenced.openNode_name (by decide) rfl (FileNode.directory_ne_link _)) rfl hpacked
    (d.survey_loose (by simp) .nil hkept false false)
    (survey_packed hpacked isClassPath_plainFiles false false) (by decide)

/-- What is below `META-INF` counts in a directory and not in an archive; a file called by the suffix
    alone counts in an archive and not in a directory. A dash is read as standard input, below which there
    are no files; and rules hold in directories only. -/
theorem loose_packed_apart :
    yard.Apart "meta" "meta.jar" (["META-INF", "A.class"], bareClass [0x41]) ∧
      yard.Apart "suffix" "suffix.jar" ([".class"], bareClass [0x41]) ∧
      yard.Apart "-" "plain.jar" (["A.class"], bareClass [0x41]) ∧
      fenced.Apart "plain" "plain.jar" (["A.class"], bareClass [0x41]) :=
  ⟨apart_meta, apart_suffix, apart_dash, apart_fenced⟩

end FileTree

end ClassAtlas
