import Mathlib.Data.List.Induction
import IntegrationBuild.Proofs.Workspace.Path
import IntegrationBuild.Proofs.Workspace.Walk

/-!
File systems without links.  In a tree of directories and files a path of
plain parts leads to what stands at its parts, and resolving such a path takes
its parts as they are.
-/

namespace IntegrationBuild

namespace Workspace

/-- Only directories and files, and everything stands in a directory. -/
structure IsTree (ws : Workspace) : Prop where
  noLink : ∀ location target, ws.entry? location ≠ some (.link target)
  parent : ∀ location part, ws.entry? (location ++ [part]) ≠ none →
    ws.entry? location = some .directory

variable {ws : Workspace}

theorem isFile_parts_congr (ws : Workspace) {p q : Path}
    (hparts : p.parts = q.parts) : ws.isFile p = ws.isFile q := by
  rw [isFile, locate, hparts]
  rfl

theorem read?_parts_congr (ws : Workspace) {p q : Path}
    (hparts : p.parts = q.parts) : ws.read? p = ws.read? q := by
  rw [read?, locate, hparts]
  rfl

theorem mem_entries_of_some {location : Location} {entry : Entry}
    (hentry : ws.entry? location = some entry) (hlocation : location ≠ []) :
    (location, entry) ∈ ws.entries := by
  rw [ entry?, if_neg (by simpa using hlocation)] at hentry
  obtain ⟨before, rest, hentries, -⟩ := List.lookup_eq_some_iff.mp hentry
  simp [hentries]

/-- A list of entries is a tree when each of them is no link and stands in a
directory. -/
theorem isTree_of_forall_mem
    (hentries : ∀ place ∈ ws.entries, (∀ target, place.2 ≠ .link target) ∧
      ws.entry? place.1.dropLast = some .directory) : ws.IsTree := by
  constructor
  · intro location target hentry
    by_cases hlocation : location = []
    · rw [hlocation] at hentry
      cases hentry
    · exact (hentries _ (mem_entries_of_some hentry hlocation)).1 target rfl
  · intro location part hsome
    obtain ⟨entry, hentry⟩ := Option.ne_none_iff_exists'.mp hsome
    have hparent := (hentries _ (mem_entries_of_some hentry (by simp))).2
    rwa [List.dropLast_concat] at hparent

/-- Whether a list of entries is a tree can be computed. -/
theorem isTree_of_all
    (hall : ws.entries.all (fun
      | (_, .link _) => false
      | (location, _) => ws.hasDirectory location.dropLast) = true) : ws.IsTree := by
  apply isTree_of_forall_mem
  rintro ⟨location, entry⟩ hplace
  have hfits := List.all_eq_true.mp hall _ hplace
  cases entry with
  | link target => cases hfits
  | directory => exact ⟨by simp, (hasDirectory_iff _).mp hfits⟩
  | file content => exact ⟨by simp, (hasDirectory_iff _).mp hfits⟩

/-- Everything stands in a directory. -/
def HasParents (ws : Workspace) : Prop :=
  ∀ location part, ws.entry? (location ++ [part]) ≠ none → ws.entry? location = some .directory

/-- Below what is no directory there is nothing. -/
theorem HasParents.entry?_below (hparents : ws.HasParents) {location : Location}
    (hentry : ws.entry? location ≠ some .directory) {more : List String}
    (hmore : more ≠ []) : ws.entry? (location ++ more) = none := by
  induction more using List.reverseRecOn with
  | nil => exact absurd rfl hmore
  | append_singleton init part ih =>
      rw [← List.append_assoc]
      by_contra hsome
      have hparent := hparents (location ++ init) part hsome
      by_cases hinit : init = []
      · rw [hinit, List.append_nil] at hparent
        exact hentry hparent
      · rw [ih hinit] at hparent
        simp at hparent

theorem IsTree.hasParents (htree : ws.IsTree) : ws.HasParents := htree.parent

theorem IsTree.entry?_below (htree : ws.IsTree) {location : Location}
    (hentry : ws.entry? location ≠ some .directory) {more : List String}
    (hmore : more ≠ []) : ws.entry? (location ++ more) = none :=
  htree.hasParents.entry?_below hentry hmore

/-- Everything on the way to a directory is a directory. -/
theorem HasParents.entry?_dropLast (hparents : ws.HasParents) {location : Location}
    (hentry : ws.entry? location = some .directory) :
    ws.entry? location.dropLast = some .directory := by
  by_cases hnil : location = []
  · rw [hnil]
    rfl
  · apply hparents location.dropLast (location.getLast hnil)
    rw [List.dropLast_concat_getLast hnil, hentry]
    simp

/-- Without links, the parts are resolved by themselves. -/
theorem IsTree.realWalk_eq (htree : ws.IsTree)
    (follow : Location → String → Path → Location × Bool) (current : Location)
    (parts : List String) :
    ws.realWalk follow current parts =
      (parts.foldl (fun done part =>
        if part == ".." then done.dropLast else done ++ [part]) current, true) := by
  induction parts generalizing current with
  | nil => rfl
  | cons part rest ih =>
      rw [realWalk, List.foldl_cons]
      split
      · exact ih current.dropLast
      · split
        · next target hlink => exact absurd hlink (htree.noLink _ target)
        · exact ih (current ++ [part])

theorem IsTree.resolve_eq (htree : ws.IsTree) (cwd path : Path) :
    ws.resolve cwd path =
      (Path.absolute (Path.normalParts (cwd.join path).parts)).normalized := by
  rw [resolve, realFrom, htree.realWalk_eq]
  rfl

/-- A plain path resolves to its own parts. -/
theorem IsTree.resolve_plain (htree : ws.IsTree) (cwd : Path) {path : Path}
    (hpath : path.Plain) : ws.resolve cwd path = .absolute path.parts := by
  rw [htree.resolve_eq, Path.join_of_absolute hpath.absolute,
    Path.normalParts_of_ne_dots hpath.ne_dots]
  exact congrArg Path.absolute (Path.normalParts_of_ne_dots hpath.ne_dots)

section Located

/-- A place that parts lead to: without `..` they lead to themselves, and the
last of them is the last part of the place. -/
structure Follows (current : Location) (parts : List String) (location : Location) :
    Prop where
  exact : (∀ part ∈ parts, part ≠ "..") → location = current ++ parts
  last : ∀ part, parts.getLast? = some part → part ≠ ".." →
    location.getLast? = some part

theorem Follows.up {current location : Location} {parts : List String}
    (hfollows : Follows current.dropLast parts location) :
    Follows current (".." :: parts) location where
  exact := fun hparts => absurd rfl (hparts ".." List.mem_cons_self)
  last := by
    intro part hlast hpart
    cases parts with
    | nil => exact absurd (Option.some.inj hlast).symm hpart
    | cons next more => exact hfollows.last part (by simpa using hlast) hpart

theorem Follows.down {current location : Location} {part : String}
    {parts : List String} (hfollows : Follows (current ++ [part]) parts location) :
    Follows current (part :: parts) location where
  exact := fun hparts => by
    rw [hfollows.exact fun other hother =>
      hparts other (List.mem_cons_of_mem part hother)]
    simp
  last := by
    intro other hlast hother
    cases parts with
    | nil =>
        obtain rfl : part = other := Option.some.inj hlast
        rw [hfollows.exact (by simp)]
        simp
    | cons next more => exact hfollows.last other (by simpa using hlast) hother

theorem follows_nil (current : Location) : Follows current [] current :=
  ⟨fun _ => by simp, fun part hlast => by simp at hlast⟩

/-- What parts lead to stands where it was found; nothing is found only as a
new entry of a directory, and no way goes in circles. -/
def Located (ws : Workspace) (current : Location) (parts : List String) :
    Found → Prop
  | .entry location entry =>
      Follows current parts location ∧ ws.entry? location = some entry
  | .absent location =>
      Follows current parts location ∧ ws.entry? location = none ∧
        ∃ directory part, location = directory ++ [part] ∧
          ws.entry? directory = some .directory
  | .missing | .blocked => True
  | .loop => False

theorem Located.up {current : Location} {parts : List String} {found : Found}
    (hfound : ws.Located current.dropLast parts found) :
    ws.Located current (".." :: parts) found := by
  cases found with
  | entry location entry => exact ⟨hfound.1.up, hfound.2⟩
  | absent location => exact ⟨hfound.1.up, hfound.2⟩
  | missing => trivial
  | blocked => trivial
  | loop => exact hfound

theorem Located.down {current : Location} {part : String} {parts : List String}
    {found : Found} (hfound : ws.Located (current ++ [part]) parts found) :
    ws.Located current (part :: parts) found := by
  cases found with
  | entry location entry => exact ⟨hfound.1.down, hfound.2⟩
  | absent location => exact ⟨hfound.1.down, hfound.2⟩
  | missing => trivial
  | blocked => trivial
  | loop => exact hfound

theorem IsTree.located_walk (htree : ws.IsTree)
    (follow : Location → Path → List String → Found) {current : Location}
    (hcurrent : ws.entry? current = some .directory) (parts : List String) :
    ws.Located current parts (ws.walk follow current parts) := by
  obtain ⟨found, hwalks⟩ := ws.exists_walks follow current parts
  rw [hwalks.walk_eq]
  induction hwalks with
  | here hentry => exact ⟨follows_nil _, hentry⟩
  | nowhere hnone => cases hnone.symm.trans hcurrent
  | blocked _ => trivial
  | up _ _ ih => exact (ih (htree.hasParents.entry?_dropLast hcurrent)).up
  | absent _ _ hnone => exact ⟨(follows_nil _).down, hnone, _, _, rfl, hcurrent⟩
  | missing => trivial
  | link _ _ hlink => exact absurd hlink (htree.noLink _ _)
  | file _ _ hfile => exact ⟨(follows_nil _).down, hfile⟩
  | down _ _ hlower _ ih => exact (ih hlower).down
  | inFile => trivial

theorem IsTree.located (htree : ws.IsTree) (path : Path) :
    ws.Located [] path.parts (ws.locate path) :=
  htree.located_walk _ rfl path.parts

end Located

theorem IsTree.circle?_eq_none (htree : ws.IsTree) (cwd path : Path) :
    ws.circle? cwd path = none := by
  have hlocated := htree.located (ws.resolve cwd path)
  rw [circle?]
  split
  · next hloop =>
    rw [hloop] at hlocated
    exact absurd hlocated id
  · rfl

/-- Without links, no path runs into a circle of them. -/
theorem IsTree.firstCircle?_eq_none (htree : ws.IsTree) (cwd : Path) (paths : List Path) :
    ws.firstCircle? cwd paths = none :=
  List.findSome?_eq_none_iff.mpr fun path _ => htree.circle?_eq_none cwd path

/-- In a directory, a plain path leads to its entry or to the lack of it. -/
theorem IsTree.walk_of_parent (htree : ws.IsTree)
    (follow : Location → Path → List String → Found) {current : Location}
    (hcurrent : ws.entry? current = some .directory) {init : List String}
    {part : String} (hparts : ∀ other ∈ init ++ [part], other ≠ "..")
    (hparent : ws.entry? (current ++ init) = some .directory) :
    ws.walk follow current (init ++ [part]) =
      match ws.entry? (current ++ init ++ [part]) with
      | some entry => .entry (current ++ init ++ [part]) entry
      | none => .absent (current ++ init ++ [part]) := by
  apply Walks.walk_eq
  induction init generalizing current with
  | nil =>
      have hpart := hparts part (by simp)
      rw [List.nil_append, List.append_nil]
      split
      · next entry hentry =>
        refine walks_name hcurrent hpart hentry ?_
        rintro target rfl
        exact htree.noLink _ target hentry
      · next hnone => exact .absent hcurrent hpart hnone
  | cons first rest ih =>
      have hsplit : current ++ first :: rest = current ++ [first] ++ rest := by simp
      have hentry : ws.entry? (current ++ [first]) = some .directory := by
        by_contra hentry
        by_cases hrest : rest = []
        · rw [hrest] at hparent
          exact hentry hparent
        · rw [hsplit, htree.entry?_below hentry hrest] at hparent
          simp at hparent
      rw [hsplit] at hparent ⊢
      exact .down hcurrent (hparts first (by simp)) hentry
        (ih hentry (fun other hother => hparts other (List.mem_cons_of_mem first hother)) hparent)

theorem IsTree.locate_of_parent (htree : ws.IsTree) {path : Path}
    (hdots : ∀ part ∈ path.parts, part ≠ "..") {directory : Location}
    {part : String} (hparts : path.parts = directory ++ [part])
    (hparent : ws.entry? directory = some .directory) :
    ws.locate path =
      match ws.entry? path.parts with
      | some entry => .entry path.parts entry
      | none => .absent path.parts := by
  have hwalk := fun follow => htree.walk_of_parent follow
    (show ws.entry? [] = some .directory from rfl) (hparts ▸ hdots) hparent
  rw [locate, hparts]
  exact hwalk _

/-- What a plain path leads to. -/
theorem IsTree.locate_eq_entry_iff (htree : ws.IsTree) {path : Path}
    (hparts : ∀ part ∈ path.parts, part ≠ "..") (location : Location)
    (entry : Entry) :
    ws.locate path = .entry location entry ↔
      location = path.parts ∧ ws.entry? path.parts = some entry := by
  constructor
  · intro hlocate
    have hlocated := htree.located path
    rw [hlocate] at hlocated
    have hplace := hlocated.1.exact hparts
    rw [List.nil_append] at hplace
    exact ⟨hplace, hplace ▸ hlocated.2⟩
  · rintro ⟨rfl, hentry⟩
    rcases List.eq_nil_or_concat path.parts with hnil | ⟨directory, part, hconcat⟩
    · rw [hnil] at hentry ⊢
      cases hentry
      rw [locate, hnil]
      rfl
    · have hparent := htree.parent directory part
        (by rw [← List.concat_eq_append, ← hconcat, hentry]; simp)
      rw [htree.locate_of_parent hparts (by simpa using hconcat) hparent, hentry]

theorem IsTree.read?_eq_some_iff (htree : ws.IsTree) {path : Path}
    (hparts : ∀ part ∈ path.parts, part ≠ "..") (content : ByteArray) :
    ws.read? path = some content ↔
      ws.entry? path.parts = some (.file content) := by
  rw [read?]
  constructor
  · intro hread
    split at hread
    · next location found hlocate =>
      obtain ⟨rfl, hentry⟩ := (htree.locate_eq_entry_iff hparts _ _).mp hlocate
      rw [hentry, Option.some.inj hread]
    · simp at hread
  · intro hentry
    have hlocate := (htree.locate_eq_entry_iff hparts path.parts _).mpr
      ⟨rfl, hentry⟩
    rw [hlocate]

theorem IsTree.isFile_iff (htree : ws.IsTree) {path : Path}
    (hparts : ∀ part ∈ path.parts, part ≠ "..") :
    ws.isFile path = true ↔
      ∃ content, ws.entry? path.parts = some (.file content) := by
  rw [isFile]
  constructor
  · intro hfile
    split at hfile
    · next location content hlocate =>
      obtain ⟨rfl, hentry⟩ := (htree.locate_eq_entry_iff hparts _ _).mp hlocate
      exact ⟨content, hentry⟩
    · simp at hfile
  · rintro ⟨content, hentry⟩
    have hlocate := (htree.locate_eq_entry_iff hparts path.parts _).mpr
      ⟨rfl, hentry⟩
    rw [hlocate]

theorem IsTree.isDirectory_iff (htree : ws.IsTree) {path : Path}
    (hpath : path.Plain) :
    ws.isDirectory path = true ↔ ws.entry? path.parts = some .directory := by
  rw [isDirectory]
  constructor
  · intro hdirectory
    split at hdirectory
    · next location hlocate =>
      exact ((htree.locate_eq_entry_iff hpath.ne_dots _ _).mp hlocate).2
    · simp at hdirectory
  · intro hentry
    rw [(htree.locate_eq_entry_iff hpath.ne_dots _ _).mpr ⟨rfl, hentry⟩]

end Workspace

end IntegrationBuild
