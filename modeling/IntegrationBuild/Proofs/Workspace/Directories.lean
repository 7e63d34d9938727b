import IntegrationBuild.Proofs.Workspace.Links
import IntegrationBuild.Proofs.Workspace.Settled

/-!
The order of the directories.  Making directories and writing files leaves the
directories that are there in their order; new ones come after them.
-/

namespace IntegrationBuild.Workspace

variable {ws ws' : Workspace}

/-- The places of the directories among some entries, in their order. -/
def directoriesIn (entries : List (Location × Entry)) : List Location :=
  entries.filterMap fun (place, entry) =>
    match entry with
    | .directory => some place
    | _ => none

/-- Nothing is removed, and new directories come after those that are there. -/
structure Extends (ws ws' : Workspace) : Prop where
  kept : ∀ location, ws'.entry? location = none → ws.entry? location = none
  directories : ∃ more, directoriesIn ws'.entries = directoriesIn ws.entries ++ more ∧
    ∀ place ∈ more, ws.entry? place = none

instance : IsPreorder Workspace Extends where
  refl ws := ⟨fun _ => id, [], by simp⟩
  trans ws mid ws' hfirst hnext := by
    obtain ⟨more, hmore, hnew⟩ := hfirst.directories
    obtain ⟨others, hothers, hlater⟩ := hnext.directories
    refine ⟨fun location hnone => hfirst.kept location (hnext.kept location hnone),
      more ++ others, by rw [hothers, hmore, List.append_assoc], fun place hplace => ?_⟩
    rcases List.mem_append.mp hplace with hplace | hplace
    · exact hnew place hplace
    · exact hfirst.kept place (hlater place hplace)

theorem mem_directoriesIn_iff {place : Location} {entries : List (Location × Entry)} :
    place ∈ directoriesIn entries ↔ (place, Entry.directory) ∈ entries := by
  rw [directoriesIn, List.mem_filterMap]
  constructor
  · rintro ⟨⟨other, _ | _ | _⟩, hmem, hplace⟩
    · obtain rfl := Option.some.inj hplace
      exact hmem
    · cases hplace
    · cases hplace
  · intro hmem
    exact ⟨_, hmem, rfl⟩

/-- Every listed place stands. -/
theorem entry?_ne_none_of_mem {location : Location} {entry : Entry}
    (hmem : (location, entry) ∈ ws.entries) : ws.entry? location ≠ none := by
  rw [Workspace.entry?]
  split
  · simp
  · intro hnone
    simpa using List.lookup_eq_none_iff.mp hnone (location, entry) hmem

section Put

theorem putEntry_of_none {location : Location} {entry : Entry}
    {entries : List (Location × Entry)} (hnone : entries.lookup location = none) :
    putEntry location entry entries = entries ++ [(location, entry)] := by
  induction entries with
  | nil => rfl
  | cons head rest ih =>
      obtain ⟨place, old⟩ := head
      rw [List.lookup_cons] at hnone
      rw [putEntry]
      by_cases hplace : place = location
      · simp [hplace] at hnone
      · rw [if_neg (by simpa using hplace), List.cons_append, ih]
        rwa [beq_false_of_ne (Ne.symm hplace)] at hnone

/-- A file that takes no directory's place leaves the directories. -/
theorem directoriesIn_putEntry {location : Location} {content : ByteArray}
    {entries : List (Location × Entry)} (hold : entries.lookup location ≠ some .directory) :
    directoriesIn (putEntry location (.file content) entries) = directoriesIn entries := by
  induction entries with
  | nil => rfl
  | cons head rest ih =>
      obtain ⟨place, old⟩ := head
      rw [List.lookup_cons] at hold
      rw [putEntry]
      by_cases hplace : place = location
      · subst hplace
        cases old with
        | directory => simp at hold
        | file _ => simp [directoriesIn]
        | link _ => simp [directoriesIn]
      · rw [beq_false_of_ne (Ne.symm hplace)] at hold
        have hrest := ih hold
        rw [if_neg (by simpa using hplace)]
        rw [directoriesIn, directoriesIn, List.filterMap_cons, List.filterMap_cons]
        rw [directoriesIn, directoriesIn] at hrest
        rw [hrest]

theorem extends_put_directory {location : Location} (hlocation : location ≠ [])
    (hnone : ws.entry? location = none) : Extends ws (ws.put location .directory) := by
  refine ⟨fun other hother => ?_, [location], ?_, by simpa using hnone⟩
  · rw [entry?_put hlocation] at hother
    split at hother
    · cases hother
    · exact hother
  · rw [ entry?, if_neg (by simpa using hlocation)] at hnone
    rw [put, putEntry_of_none hnone, directoriesIn, directoriesIn, List.filterMap_append]
    rfl

theorem extends_put_file {location : Location} (hlocation : location ≠ [])
    (hold : ws.entry? location ≠ some .directory) (content : ByteArray) :
    Extends ws (ws.put location (.file content)) := by
  refine ⟨fun other hother => ?_, [], ?_, by simp⟩
  · rw [entry?_put hlocation] at hother
    split at hother
    · cases hother
    · exact hother
  · rw [ entry?, if_neg (by simpa using hlocation)] at hold
    rw [put, directoriesIn_putEntry hold, List.append_nil]

end Put

theorem extends_makeDirectory {path : Path} (hmake : ws.makeDirectory path = .ok ws') :
    Extends ws ws' := by
  obtain ⟨location, hlocate, rfl⟩ := makeDirectory_eq_ok hmake
  exact extends_put_directory (ne_nil_of_locate_absent hlocate) (entry?_of_locate_absent hlocate)

theorem extends_makeDirectories {path : Path} (hmake : ws.makeDirectories path = .ok ws') :
    Extends ws ws' :=
  (makesDirectories_of_eq_ok hmake).of_one fun _ _ _ => extends_makeDirectory

theorem extends_write {path : Path} {content : ByteArray}
    (hwrite : ws.write path content = .ok ws') : Extends ws ws' := by
  obtain ⟨location, rfl, hlocate | ⟨old, hlocate⟩⟩ := write_eq_ok hwrite
  · have hnone := entry?_of_locate_absent hlocate
    exact extends_put_file (ne_nil_of_locate_absent hlocate) (by simp [hnone]) content
  · have hentry := entry?_of_locate_entry hlocate
    refine extends_put_file ?_ (by simp [hentry]) content
    rintro rfl
    cases hentry

section Plain

/-- Everything stands at a place of plain parts. -/
def PlainPlaces (ws : Workspace) : Prop :=
  ∀ location, ws.entry? location ≠ none → ∀ part ∈ location, Path.PlainPart part

theorem plainPlaces_of_forall_mem
    (hentries : ∀ place ∈ ws.entries, ∀ part ∈ place.1, Path.PlainPart part) : ws.PlainPlaces := by
  intro location hsome part hpart
  obtain ⟨entry, hentry⟩ := Option.ne_none_iff_exists'.mp hsome
  have hlocation : location ≠ [] := by
    rintro rfl
    simp at hpart
  exact hentries _ (mem_entries_of_some hentry hlocation) part hpart

/-- What comes at plain places leaves everything at plain places. -/
theorem PlainPlaces.of_grown {directories files : Location → Prop} (hplain : ws.PlainPlaces)
    (hgrown : Grown directories files ws ws')
    (hdirectories : ∀ location, directories location → ∀ part ∈ location, Path.PlainPart part)
    (hfiles : ∀ location, files location → ∀ part ∈ location, Path.PlainPart part) :
    ws'.PlainPlaces := by
  intro location hsome
  rcases hgrown.change location with hsame | ⟨hplace, -⟩ | ⟨hplace, -⟩
  · exact hplain location (hsame ▸ hsome)
  · exact hdirectories location hplace
  · exact hfiles location hplace

end Plain

end IntegrationBuild.Workspace
