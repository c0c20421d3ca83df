import ClassAtlas.Proofs.Parts
import ClassAtlas.Settings
import Mathlib.Data.List.Forall2

/-
  ClassAtlas.Proofs.SearchPaths — which paths are searched.

  Paths that are given are taken as they are. Otherwise there is one path for each entry of the
  class path that is not empty, in their order (`searchPaths_outcome`): the entry itself, or the
  directory that a star at its end stands in. A star that stands in no directory is searched for
  in an empty path, which is nowhere (`star_alone_searches_nowhere`).
-/

namespace ClassAtlas

namespace Settings

/-- The entries are what stands between the colons of the class path; without a class path there are none. -/
def Listed : Option String → List String → Prop
  | none, entries => entries = []
  | some classpath, entries =>
    entries ≠ [] ∧ (∀ e ∈ entries, ':' ∉ e.toList) ∧ String.intercalate ":" entries = classpath

theorem exists_listed (classpath : Option String) : ∃ entries, Listed classpath entries := by
  cases classpath with
  | none => exact ⟨[], rfl⟩
  | some text =>
    refine ⟨(text.toList.splitOn ':').map String.ofList, ?_, ?_, ?_⟩
    · exact fun e => List.splitOn_ne_nil ':' text.toList (List.map_eq_nil_iff.mp e)
    · intro e he hcolon
      obtain ⟨p, hp, rfl⟩ := List.mem_map.mp he
      rw [String.toList_ofList] at hcolon
      exact Text.not_mem_of_mem_splitOn hp hcolon
    · rw [← String.toList_inj, String.toList_intercalate, List.map_map]
      have hpieces : String.toList ∘ String.ofList = id := funext fun _ => String.toList_ofList
      rw [hpieces, List.map_id]
      exact List.intercalate_splitOn ':'

/-- A text is cut into its entries again. -/
theorem splitOn_of_listed {classpath : String} {entries : List String} (h : Listed (some classpath) entries) :
    (classpath.toList.splitOn ':').map String.ofList = entries := by
  obtain ⟨hne, hbare, rfl⟩ := h
  have hpieces : ∀ p ∈ entries.map String.toList, ':' ∉ p := List.forall_mem_map.mpr hbare
  have hcolon : ":".toList = [':'] := rfl
  have hid : String.ofList ∘ String.toList = id := funext fun _ => String.ofList_toList
  rw [String.toList_intercalate, hcolon, List.splitOn_intercalate ':' hpieces (mt List.map_eq_nil_iff.mp hne),
    List.map_map, hid, List.map_id]

/-- What an entry of the class path stands for: itself, or the directory that a star at its end is in. -/
inductive StandsFor : String → String → Prop
  | itself {entry : String} : (Path.components entry).getLast? ≠ some (.name "*") → StandsFor entry entry
  | directory {entry dir : String} :
      Path.components entry = Path.components dir ++ [.name "*"] → dir.toList <+: entry.toList →
      StandsFor entry dir

theorem standsFor_classpathEntry (entry : String) : StandsFor entry (classpathEntry entry) := by
  rw [classpathEntry]
  split
  · next hstar =>
    obtain ⟨dir, hdir, hcomponents⟩ := Path.parent?_of_fileName? hstar
    rw [hdir, Option.getD_some]
    exact .directory hcomponents (Path.parent?_begins hdir)
  · next hother =>
    refine .itself fun hlast => hother ?_
    rw [Path.fileName?, hlast]

/-- Of an entry that is not empty nothing is left only if it is a star alone. -/
theorem StandsFor.eq_empty_iff {entry path : String} (h : StandsFor entry path) (hentry : entry ≠ "") :
    path = "" ↔ Path.components entry = [.name "*"] := by
  cases h with
  | itself hlast =>
    refine iff_of_false hentry fun hstar => hlast ?_
    rw [hstar]
    rfl
  | directory hcomponents _ =>
    rw [hcomponents, ← Path.components_eq_nil_iff]
    exact ⟨fun hnil => by rw [hnil]; rfl, fun hstar => List.append_left_eq_self.mp hstar⟩

/-- Given paths are searched as they are. Else there is a path for each entry of the class path that is
    not empty, in their order, and it is what the entry stands for; it is not empty, unless the entry is a
    star that is in no directory. There is an error just if no entry is left. -/
theorem searchPaths_outcome (given : List String) (classpath : Option String) :
    (given ≠ [] → searchPaths given classpath = .ok given) ∧ (∃ entries, Listed classpath entries) ∧
      ∀ entries, Listed classpath entries →
        (entries.filter (· ≠ "") = [] → searchPaths [] classpath = .error .noSearchPaths) ∧
          (entries.filter (· ≠ "") ≠ [] → ∃ paths, searchPaths [] classpath = .ok paths ∧
            List.Forall₂ (fun entry path => StandsFor entry path ∧ (path = "" ↔ Path.components entry = [.name "*"]))
              (entries.filter (· ≠ "")) paths) := by
  refine ⟨fun hgiven => if_pos hgiven, exists_listed classpath, fun entries hlisted => ?_⟩
  have hentries : (classpath.map classpathEntries).getD [] = (entries.filter (· ≠ "")).map classpathEntry := by
    cases classpath with
    | none =>
      rw [Listed] at hlisted
      rw [hlisted]
      rfl
    | some text => rw [Option.map_some, Option.getD_some, classpathEntries, splitOn_of_listed hlisted]
  rw [searchPaths, if_neg (not_not_intro rfl), hentries]
  constructor
  · intro hnone
    rw [hnone]
    rfl
  · intro hsome
    refine ⟨(entries.filter (· ≠ "")).map classpathEntry, ?_, ?_⟩
    · obtain ⟨e, es, hcons⟩ := List.exists_cons_of_ne_nil hsome
      rw [hcons]
      rfl
    · rw [List.forall₂_map_right_iff, List.forall₂_same]
      intro entry hentry
      have hne : entry ≠ "" := of_decide_eq_true (List.mem_filter.mp hentry).2
      exact ⟨standsFor_classpathEntry entry, (standsFor_classpathEntry entry).eq_empty_iff hne⟩

/-- The star alone stands for an empty path, which is no place at all, and not for the working directory. -/
theorem star_alone_searches_nowhere :
    searchPaths [] (some "*") = .ok [""] ∧ searchPaths [] (some "lib/*:*/") = .ok ["lib", ""] := by
  decide

end Settings

end ClassAtlas
