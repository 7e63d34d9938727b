import IntegrationBuild.Proofs.Workspace.Growth

/-!
What making directories and writing files leaves at a plain path, and what
happens when that stands there already: a directory is not made again, and a
file that is written over with its own content stays where it is.
-/

namespace IntegrationBuild.Workspace

variable {ws ws' : Workspace}

/-- The same entries stand at the same places. -/
def SameEntries (ws ws' : Workspace) : Prop :=
  ∀ location, ws.entry? location = ws'.entry? location

/-- Everything on the way to a directory is a directory. -/
theorem IsTree.entry?_of_prefix (htree : ws.IsTree) {way location : Location}
    (hway : way <+: location) (hentry : ws.entry? location = some .directory) :
    ws.entry? way = some .directory := by
  obtain ⟨more, rfl⟩ := hway
  by_cases hmore : more = []
  · rwa [hmore, List.append_nil] at hentry
  · by_contra hdirectory
    rw [htree.entry?_below hdirectory hmore] at hentry
    simp at hentry

/-- What stands somewhere stands in a directory. -/
theorem IsTree.entry?_dropLast_of_some (htree : ws.IsTree) {location : Location}
    {entry : Entry} (hentry : ws.entry? location = some entry) :
    ws.entry? location.dropLast = some .directory := by
  rcases List.eq_nil_or_concat location with rfl | ⟨directory, part, rfl⟩
  · rfl
  · rw [List.concat_eq_append] at hentry ⊢
    rw [List.dropLast_concat]
    apply htree.parent directory part
    simp [hentry]

/-- Where nothing is written, a file is read as before. -/
theorem Grown.read?_eq {directories files : Location → Prop}
    (hgrown : Grown directories files ws ws') {path : Path} (hpath : path.Plain)
    (hplace : ¬files path.parts) : ws.read? path = ws'.read? path := by
  apply Option.ext
  intro content
  rw [hgrown.before.read?_eq_some_iff hpath.ne_dots, hgrown.after.read?_eq_some_iff hpath.ne_dots]
  exact hgrown.file_iff hplace content

section Put

theorem putEntry_eq_self {location : Location} {entry : Entry}
    {entries : List (Location × Entry)} (hentry : entries.lookup location = some entry) :
    putEntry location entry entries = entries := by
  induction entries with
  | nil => simp at hentry
  | cons head rest ih =>
      obtain ⟨place, old⟩ := head
      rw [putEntry]
      by_cases hplace : place = location
      · subst hplace
        obtain rfl : old = entry := by simpa using hentry
        simp
      · rw [if_neg (by simpa using hplace), ih]
        rwa [List.lookup_cons, beq_false_of_ne (Ne.symm hplace)] at hentry

/-- To put an entry where it stands changes nothing. -/
theorem put_eq_self {location : Location} {entry : Entry} (hlocation : location ≠ [])
    (hentry : ws.entry? location = some entry) : ws.put location entry = ws := by
  rw [ entry?, if_neg (by simpa using hlocation)] at hentry
  rw [put, putEntry_eq_self hentry]

end Put

section MakeDirectories

variable {path : Path}

theorem IsTree.locate_of_entry? (htree : ws.IsTree) (hpath : path.Plain) {entry : Entry}
    (hentry : ws.entry? path.parts = some entry) :
    ws.locate path = .entry path.parts entry :=
  (htree.locate_eq_entry_iff hpath.ne_dots _ _).mpr ⟨rfl, hentry⟩

theorem IsTree.eq_of_locate_absent (htree : ws.IsTree) (hpath : path.Plain)
    {location : Location} (hlocate : ws.locate path = .absent location) :
    location = path.parts := by
  have hlocated := htree.located path
  rw [hlocate] at hlocated
  simpa using hlocated.1.exact hpath.ne_dots

/-- A directory that is there is not made again. -/
theorem IsTree.makeDirectories_of_directory (htree : ws.IsTree) (hpath : path.Plain)
    (hentry : ws.entry? path.parts = some .directory) :
    ws.makeDirectories path = .ok ws := by
  rw [makeDirectories, makeDirectoriesFrom, makeDirectory, htree.isLink_eq_false,
    htree.locate_of_entry? hpath hentry, (htree.isDirectory_iff hpath).mpr hentry]
  rfl

theorem IsTree.entry?_of_makeDirectory (htree : ws.IsTree) (hpath : path.Plain)
    (hmake : ws.makeDirectory path = .ok ws') :
    ws'.entry? path.parts = some .directory := by
  obtain ⟨location, hlocate, rfl⟩ := makeDirectory_eq_ok hmake
  have hlocated := htree.located path
  rw [hlocate] at hlocated
  obtain ⟨-, -, directory, part, hlocation, -⟩ := hlocated
  have hplace := htree.eq_of_locate_absent hpath hlocate
  rw [entry?_put (by simp [hlocation]), if_pos hplace.symm]

/-- A directory that is made is there. -/
theorem MakesDirectories.entry?_eq (hmakes : MakesDirectories ws path ws') (htree : ws.IsTree)
    (hpath : path.Plain) : ws'.entry? path.parts = some .directory := by
  induction hmakes with
  | made hmade => exact htree.entry?_of_makeDirectory hpath hmade
  | there hthere => exact (htree.isDirectory_iff hpath).mp hthere
  | above hup _ _ ih =>
      have hgrown : Grown (fun _ => True) (fun _ => False) _ _ :=
        hup.grown htree (fun _ _ _ _ _ _ => trivial)
      exact ih hgrown.after hpath

theorem IsTree.entry?_of_makeDirectories (htree : ws.IsTree) (hpath : path.Plain)
    (hmake : ws.makeDirectories path = .ok ws') :
    ws'.entry? path.parts = some .directory :=
  (makesDirectories_of_eq_ok hmake).entry?_eq htree hpath

theorem IsTree.grown_makeDirectories {files : Location → Prop} (htree : ws.IsTree)
    (hpath : path.Plain) (hmake : ws.makeDirectories path = .ok ws') :
    Grown (· <+: path.parts) files ws ws' :=
  htree.grown_makeDirectoriesFrom (madeAt_of_plain hpath) hmake

end MakeDirectories

section Write

variable {path : Path} {content : ByteArray}

/-- A file that is written is there. -/
theorem IsTree.grown_write_plain (htree : ws.IsTree) (directories : Location → Prop)
    (hpath : path.Plain) (hwrite : ws.write path content = .ok ws') :
    Grown directories (· = path.parts) ws ws' ∧
      ws'.entry? path.parts = some (.file content) := by
  obtain ⟨location, rfl, hlocate | ⟨old, hlocate⟩⟩ := write_eq_ok hwrite
  · have hlocated := htree.located path
    rw [hlocate] at hlocated
    obtain ⟨-, hnone, directory, part, hlocation, hparent⟩ := hlocated
    have hplace := htree.eq_of_locate_absent hpath hlocate
    rw [entry?_put (by simp [hlocation]), if_pos hplace.symm]
    subst hlocation
    exact ⟨htree.grown_put_file hparent (by simp [hnone]) hplace content, rfl⟩
  · obtain ⟨hplace, hentry⟩ := (htree.locate_eq_entry_iff hpath.ne_dots _ _).mp hlocate
    rcases List.eq_nil_or_concat location with hnil | ⟨directory, part, hlocation⟩
    · rw [← hplace, hnil] at hentry
      cases hentry
    · rw [List.concat_eq_append] at hlocation
      have hparent := htree.entry?_dropLast_of_some hentry
      rw [← hplace, hlocation, List.dropLast_concat] at hparent
      rw [entry?_put (by simp [hlocation]), if_pos hplace.symm]
      subst hlocation
      exact ⟨htree.grown_put_file hparent (by simp [hplace, hentry]) hplace content, rfl⟩

/-- A file that is written over with its own content stays as it is. -/
theorem IsTree.write_of_file (htree : ws.IsTree) (hpath : path.Plain)
    (hentry : ws.entry? path.parts = some (.file content)) :
    ws.write path content = .ok ws := by
  have hparts : path.parts ≠ [] := by
    intro hnil
    rw [hnil] at hentry
    cases hentry
  rw [write, htree.locate_of_entry? hpath hentry]
  dsimp only
  rw [put_eq_self hparts hentry]

end Write

end IntegrationBuild.Workspace
