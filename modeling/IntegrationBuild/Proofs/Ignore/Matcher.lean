import IntegrationBuild.Ignore.Matcher
import IntegrationBuild.Proofs.Outcome
import IntegrationBuild.Proofs.Workspace.Directories

/-!
What is ignored while directories are made and files are written.  The ignore
files that are there are read as before and in the same order, and in a new
directory there is none, so that the project keeps its matcher.
-/

namespace IntegrationBuild.Ignore

open Workspace (Extends Grown directoriesIn)

variable {ws ws' : Workspace} {root : Path}

theorem plainPart_fileName : Path.PlainPart fileName := by
  decide

/-- The path of a directory below another. -/
def pathBelow (root : Path) (place : Location) : Path :=
  { root with parts := root.parts ++ place.drop root.parts.length }

/-- The directories of a project are those below its root. -/
theorem directories_eq (htree : ws.IsTree) (hroot : root.Plain)
    (hentry : ws.entry? root.parts = some .directory) :
    directories ws root = root :: ((directoriesIn ws.entries).filter fun place =>
      root.parts.isPrefixOf place && place != root.parts).map (pathBelow root) := by
  rw [directories, htree.locate_of_entry? hroot hentry]
  simp only [Workspace.below, directoriesIn]
  congr 1
  induction ws.entries with
  | nil => rfl
  | cons head rest ih =>
      obtain ⟨place, entry⟩ := head
      rw [List.filter_cons, List.filterMap_cons]
      cases entry with
      | directory =>
          rw [List.filter_cons]
          split
          · rw [List.filterMap_cons, List.map_cons, ih]
            rfl
          · exact ih
      | file content =>
          rw [← ih]
          split <;> rfl
      | link target =>
          rw [← ih]
          split <;> rfl

/-- What is listed below the root has a plain path with the parts of its place. -/
theorem plain_pathBelow (hplain : ws.PlainPlaces) (hroot : root.Plain) (place : Location)
    (hplace : place ∈ (directoriesIn ws.entries).filter fun place =>
      root.parts.isPrefixOf place && place != root.parts) :
    (pathBelow root place).parts = place ∧ (pathBelow root place).Plain := by
  obtain ⟨hmem, hkept⟩ := List.mem_filter.mp hplace
  simp only [Bool.and_eq_true, List.isPrefixOf_iff_prefix] at hkept
  have hparts : (pathBelow root place).parts = place := by
    obtain ⟨rest, rfl⟩ := hkept.1
    simp [pathBelow]
  refine ⟨hparts, hroot.absolute, ?_⟩
  rw [hparts]
  exact hplain place (Workspace.entry?_ne_none_of_mem (Workspace.mem_directoriesIn_iff.mp hmem))

variable {made files : Location → Prop} (hgrown : Grown made files ws ws')

include hgrown

/-- New directories come after those that were there. -/
theorem exists_directories_eq_append (hextends : Extends ws ws') (hplain : ws'.PlainPlaces)
    (hroot : root.Plain) (hentry : ws.entry? root.parts = some .directory) :
    ∃ more, directories ws' root = directories ws root ++ more ∧
      (∀ path ∈ directories ws' root, path.Plain) ∧
      ∀ path ∈ more, ws.entry? path.parts = none := by
  obtain ⟨more, hmore, hnew⟩ := hextends.directories
  have hbelow := plain_pathBelow hplain hroot
  rw [directories_eq hgrown.before hroot hentry,
    directories_eq hgrown.after hroot (hgrown.directory_kept hentry)]
  refine ⟨(more.filter fun place => root.parts.isPrefixOf place && place != root.parts).map
    (pathBelow root), ?_, ?_, ?_⟩
  · rw [hmore, List.filter_append, List.map_append, List.cons_append]
  · intro path hpath
    rcases List.mem_cons.mp hpath with rfl | hpath
    · exact hroot
    · obtain ⟨place, hplace, rfl⟩ := List.mem_map.mp hpath
      exact (hbelow place hplace).2
  · intro path hpath
    obtain ⟨place, hplace, rfl⟩ := List.mem_map.mp hpath
    rw [hmore, List.filter_append] at hbelow
    rw [(hbelow place (List.mem_append_right _ hplace)).1]
    exact hnew place (List.mem_filter.mp hplace).1

variable (hfiles : ∀ location, location.getLast? = some fileName → ¬files location)

include hfiles

omit hgrown in
/-- No ignore file is written. -/
theorem not_files_child_fileName (path : Path) : ¬files (path.child fileName).parts := by
  apply hfiles
  simp [Path.child_of_plainPart plainPart_fileName]

theorem read?_child_fileName {path : Path} (hpath : path.Plain) :
    ws.read? (path.child fileName) = ws'.read? (path.child fileName) :=
  hgrown.read?_eq (Path.plain_child_of_plainPart hpath plainPart_fileName)
    (not_files_child_fileName hfiles path)

theorem isFile_child_fileName {path : Path} (hpath : path.Plain) :
    ws.isFile (path.child fileName) = ws'.isFile (path.child fileName) := by
  have hchild := (Path.plain_child_of_plainPart hpath plainPart_fileName).ne_dots
  rw [Bool.eq_iff_iff, hgrown.before.isFile_iff hchild, hgrown.after.isFile_iff hchild]
  exact exists_congr (hgrown.file_iff (not_files_child_fileName hfiles path))

/-- A directory that was not there has no ignore file. -/
theorem isFile_child_fileName_of_none {path : Path} (hpath : path.Plain)
    (hnone : ws.entry? path.parts = none) : ws'.isFile (path.child fileName) = false := by
  have hchild := (Path.plain_child_of_plainPart hpath plainPart_fileName).ne_dots
  rw [← isFile_child_fileName hgrown hfiles hpath, ← Bool.not_eq_true,
    hgrown.before.isFile_iff hchild, Path.child_of_plainPart plainPart_fileName]
  rintro ⟨content, hfile⟩
  rw [hgrown.before.entry?_below (by simp [hnone]) (by simp)] at hfile
  cases hfile

variable (hextends : Extends ws ws') (hplain : ws'.PlainPlaces) (hroot : root.Plain)
  (hentry : ws.entry? root.parts = some .directory)

include hextends hplain hroot hentry

/-- The same ignore files are found. -/
theorem filesBelow_congr : filesBelow ws root = filesBelow ws' root := by
  obtain ⟨more, hmore, hpaths, hnew⟩ :=
    exists_directories_eq_append hgrown hextends hplain hroot hentry
  rw [hmore] at hpaths
  rw [filesBelow, filesBelow, hmore, List.map_append, List.filter_append]
  have hnone : (more.map (·.child fileName)).filter ws'.isFile = [] := by
    rw [List.filter_eq_nil_iff]
    intro path hpath
    obtain ⟨directory, hmem, rfl⟩ := List.mem_map.mp hpath
    rw [isFile_child_fileName_of_none hgrown hfiles
      (hpaths directory (List.mem_append_right _ hmem)) (hnew directory hmem)]
    exact Bool.false_ne_true
  have hsame : ((directories ws root).map (·.child fileName)).filter ws.isFile =
      ((directories ws root).map (·.child fileName)).filter ws'.isFile := by
    apply List.filter_congr
    intro path hpath
    obtain ⟨directory, hmem, rfl⟩ := List.mem_map.mp hpath
    exact isFile_child_fileName hgrown hfiles (hpaths directory (List.mem_append_left _ hmem))
  rw [hnone, hsame, List.append_nil]

/-- The same paths are ignored. -/
theorem matcher?_congr (nested : Bool) : matcher? ws root nested = matcher? ws' root nested := by
  have hpaths : ∀ path ∈ filesBelow ws' root, ws.read? path = ws'.read? path := by
    intro path hpath
    rw [filesBelow, List.mem_mergeSort] at hpath
    obtain ⟨directory, hmem, rfl⟩ := List.mem_map.mp (List.mem_filter.mp hpath).1
    obtain ⟨more, -, hplain, -⟩ :=
      exists_directories_eq_append hgrown hextends hplain hroot hentry
    exact read?_child_fileName hgrown hfiles (hplain directory hmem)
  have hread : (filesBelow ws' root).mapM (fun path =>
        readRules path ((ws.read? path).getD ByteArray.empty)) =
      (filesBelow ws' root).mapM fun path =>
        readRules path ((ws'.read? path).getD ByteArray.empty) :=
    Outcome.mapM_congr fun path hpath => by rw [hpaths path hpath]
  rw [matcher?, matcher?, filesBelow_congr hgrown hfiles hextends hplain hroot hentry]
  dsimp only
  rw [read?_child_fileName hgrown hfiles hroot]
  split
  · split
    · rfl
    · rw [hread]
  · rfl

end IntegrationBuild.Ignore
