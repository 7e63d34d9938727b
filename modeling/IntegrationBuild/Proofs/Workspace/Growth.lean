import IntegrationBuild.Proofs.Workspace.Tree

/-!
What making directories and writing files does to a tree.  `Grown` says it
once, place by place: directories come where there was nothing, files where
there was no directory, and everything else stays.
-/

namespace IntegrationBuild.Workspace

variable {ws ws' : Workspace}

section Put

theorem lookup_putEntry (location other : Location) (entry : Entry)
    (entries : List (Location × Entry)) :
    (putEntry location entry entries).lookup other =
      if other = location then some entry else entries.lookup other := by
  induction entries with
  | nil =>
      by_cases hother : other = location
      · simp [putEntry, hother]
      · simp [putEntry, List.lookup_cons, beq_false_of_ne hother, hother]
  | cons head rest ih =>
      obtain ⟨place, old⟩ := head
      rw [putEntry]
      by_cases hplace : place = location
      · subst hplace
        by_cases hother : other = place
        · simp [hother]
        · simp [List.lookup_cons, beq_false_of_ne hother, hother]
      · rw [if_neg (by simpa using hplace), List.lookup_cons, ih, List.lookup_cons]
        by_cases hother : other = place
        · subst hother
          simp [hplace]
        · simp [beq_false_of_ne hother]

theorem entry?_put {location : Location} (hlocation : location ≠ [])
    (other : Location) (entry : Entry) :
    entry? (ws.put location entry) other =
      if other = location then some entry else ws.entry? other := by
  by_cases hother : other = []
  · subst hother
    rw [if_neg hlocation.symm]
    rfl
  · have hnonempty : ¬other.isEmpty = true := by simpa using hother
    rw [ entry?, if_neg hnonempty, put, lookup_putEntry, entry?, if_neg hnonempty]

/-- An entry is put into a directory, and not in the place of a directory. -/
theorem HasParents.put (hparents : ws.HasParents) {directory : Location} {part : String}
    (hparent : ws.entry? directory = some .directory)
    (hold : ws.entry? (directory ++ [part]) ≠ some .directory) (entry : Entry) :
    (ws.put (directory ++ [part]) entry).HasParents := by
  intro location name hsome
  rw [entry?_put (by simp)] at hsome ⊢
  split at hsome
  · next heq =>
    obtain ⟨rfl, -⟩ := List.append_singleton_inj.mp heq
    rw [if_neg (by simp)]
    exact hparent
  · have hdirectory := hparents location name hsome
    rw [if_neg]
    · exact hdirectory
    · rintro rfl
      exact hold hdirectory

theorem IsTree.put (htree : ws.IsTree) {directory : Location} {part : String}
    (hparent : ws.entry? directory = some .directory)
    (hold : ws.entry? (directory ++ [part]) ≠ some .directory) {entry : Entry}
    (hentry : ∀ target, entry ≠ .link target) :
    (ws.put (directory ++ [part]) entry).IsTree where
  noLink := by
    intro location target hlink
    rw [entry?_put (by simp)] at hlink
    split at hlink
    · exact hentry target (Option.some.inj hlink)
    · exact htree.noLink location target hlink
  parent := htree.hasParents.put hparent hold entry

end Put

section Grown

/-- Place by place, what was made: directories at some places and files at some
others. -/
structure Grown (directories files : Location → Prop) (ws ws' : Workspace) :
    Prop where
  before : ws.IsTree
  after : ws'.IsTree
  change : ∀ location, ws'.entry? location = ws.entry? location ∨
    (directories location ∧ ws.entry? location = none ∧
      ws'.entry? location = some .directory) ∨
    (files location ∧ ws.entry? location ≠ some .directory ∧
      ∃ content, ws'.entry? location = some (.file content))

variable {directories files : Location → Prop}

theorem Grown.refl (htree : ws.IsTree) : Grown directories files ws ws :=
  ⟨htree, htree, fun _ => Or.inl rfl⟩

theorem Grown.trans {ws'' : Workspace} (hfirst : Grown directories files ws ws')
    (hnext : Grown directories files ws' ws'') :
    Grown directories files ws ws'' := by
  refine ⟨hfirst.before, hnext.after, fun location => ?_⟩
  rcases hnext.change location with hsame | ⟨hplace, hnone, hmade⟩ |
    ⟨hplace, hold, hwritten⟩
  · rw [hsame]
    exact hfirst.change location
  · rcases hfirst.change location with hsame | ⟨-, -, hmade'⟩ | ⟨-, -, _, hwritten'⟩
    · exact Or.inr (Or.inl ⟨hplace, hsame ▸ hnone, hmade⟩)
    · simp [hnone] at hmade'
    · simp [hnone] at hwritten'
  · rcases hfirst.change location with hsame | ⟨-, -, hmade'⟩ | ⟨-, hold', -⟩
    · exact Or.inr (Or.inr ⟨hplace, hsame ▸ hold, hwritten⟩)
    · exact absurd hmade' hold
    · exact Or.inr (Or.inr ⟨hplace, hold', hwritten⟩)

theorem Grown.mono {directories' files' : Location → Prop}
    (hgrown : Grown directories files ws ws')
    (hdirectories : ∀ location, directories location → directories' location)
    (hfiles : ∀ location, files location → files' location) :
    Grown directories' files' ws ws' := by
  refine ⟨hgrown.before, hgrown.after, fun location => ?_⟩
  rcases hgrown.change location with hsame | ⟨hplace, hmade⟩ | ⟨hplace, hwritten⟩
  · exact Or.inl hsame
  · exact Or.inr (Or.inl ⟨hdirectories location hplace, hmade⟩)
  · exact Or.inr (Or.inr ⟨hfiles location hplace, hwritten⟩)

/-- Directories stay. -/
theorem Grown.directory_kept (hgrown : Grown directories files ws ws')
    {location : Location} (hentry : ws.entry? location = some .directory) :
    ws'.entry? location = some .directory := by
  rcases hgrown.change location with hsame | ⟨-, hnone, -⟩ | ⟨-, hold, -⟩
  · rw [hsame, hentry]
  · simp [hnone] at hentry
  · exact absurd hentry hold

/-- Where nothing is made or written, the entry stays. -/
theorem Grown.entry?_eq (hgrown : Grown directories files ws ws') {location : Location}
    (hmade : ¬directories location) (hwritten : ¬files location) :
    ws'.entry? location = ws.entry? location := by
  rcases hgrown.change location with hsame | ⟨hdirectory, -⟩ | ⟨hfile, -⟩
  · exact hsame
  · exact absurd hdirectory hmade
  · exact absurd hfile hwritten

/-- Where no directory is made, none has come. -/
theorem Grown.directory_iff (hgrown : Grown directories files ws ws') {location : Location}
    (hmade : ¬directories location) :
    ws'.entry? location = some .directory ↔ ws.entry? location = some .directory := by
  refine ⟨fun hentry => ?_, hgrown.directory_kept⟩
  rcases hgrown.change location with hsame | ⟨hdirectory, -⟩ | ⟨-, -, _, hfile⟩
  · rw [← hsame, hentry]
  · exact absurd hdirectory hmade
  · simp [hfile] at hentry

/-- Where nothing is written, the files stay as they are. -/
theorem Grown.file_iff (hgrown : Grown directories files ws ws') {location : Location}
    (hlocation : ¬files location) (content : ByteArray) :
    ws.entry? location = some (.file content) ↔ ws'.entry? location = some (.file content) := by
  rcases hgrown.change location with hsame | ⟨-, hnone, hmade⟩ | ⟨hwritten, -⟩
  · rw [hsame]
  · simp [hnone, hmade]
  · exact absurd hwritten hlocation

theorem IsTree.grown_put_directory (htree : ws.IsTree) {location : Location}
    {current : Location} {parts : List String}
    (habsent : ws.Located current parts (.absent location))
    (hplace : directories location) :
    Grown directories files ws (ws.put location .directory) := by
  obtain ⟨-, hnone, directory, part, rfl, hparent⟩ := habsent
  refine ⟨htree, htree.put hparent (by simp [hnone]) (by simp), fun other => ?_⟩
  rw [entry?_put (by simp)]
  split
  · next hother => exact Or.inr (Or.inl ⟨hother ▸ hplace, hother ▸ hnone, rfl⟩)
  · exact Or.inl rfl

theorem IsTree.grown_put_file (htree : ws.IsTree) {directory : Location}
    {part : String} (hparent : ws.entry? directory = some .directory)
    (hold : ws.entry? (directory ++ [part]) ≠ some .directory)
    (hplace : files (directory ++ [part])) (content : ByteArray) :
    Grown directories files ws (ws.put (directory ++ [part]) (.file content)) := by
  refine ⟨htree, htree.put hparent hold (by simp), fun other => ?_⟩
  rw [entry?_put (by simp)]
  split
  · next hother =>
    exact Or.inr (Or.inr ⟨hother ▸ hplace, hother ▸ hold, content, rfl⟩)
  · exact Or.inl rfl

theorem makeDirectory_eq_ok {path : Path} (hmake : ws.makeDirectory path = .ok ws') :
    ∃ location, ws.locate path = .absent location ∧
      ws' = ws.put location .directory := by
  rw [makeDirectory] at hmake
  split at hmake
  · simp at hmake
  · split at hmake
    · next location hlocate => exact ⟨location, hlocate, (Except.ok.inj hmake).symm⟩
    all_goals simp at hmake

theorem write_eq_ok {path : Path} {content : ByteArray}
    (hwrite : ws.write path content = .ok ws') :
    ∃ location, ws' = ws.put location (.file content) ∧
      (ws.locate path = .absent location ∨
        ∃ old, ws.locate path = .entry location (.file old)) := by
  rw [write] at hwrite
  split at hwrite
  · next location old hlocate =>
    exact ⟨location, (Except.ok.inj hwrite).symm, Or.inr ⟨old, hlocate⟩⟩
  · next location hlocate =>
    exact ⟨location, (Except.ok.inj hwrite).symm, Or.inl hlocate⟩
  all_goals simp at hwrite

/-- Everything that may have to be made on the way to a path has its place
among the given ones. -/
def MadeAt (directories : Location → Prop) (path : Path) : Prop :=
  ∀ (tree : Workspace) (way : Path) location, tree.IsTree →
    way.parts <+: path.parts → tree.locate way = .absent location →
    directories location

theorem MadeAt.parent {path : Path} (hplaces : MadeAt directories path) :
    MadeAt directories path.parent := fun tree way location htree hway =>
  hplaces tree way location htree (hway.trans (List.dropLast_prefix path.parts))

theorem IsTree.grown_makeDirectory (htree : ws.IsTree) {path : Path}
    (hplaces : MadeAt directories path) (hmake : ws.makeDirectory path = .ok ws') :
    Grown directories files ws ws' := by
  obtain ⟨location, hlocate, rfl⟩ := makeDirectory_eq_ok hmake
  have hlocated := htree.located path
  rw [hlocate] at hlocated
  exact htree.grown_put_directory hlocated
    (hplaces ws path location htree List.prefix_rfl hlocate)

theorem MakesDirectories.grown {path : Path} (hmakes : MakesDirectories ws path ws')
    (htree : ws.IsTree) (hplaces : MadeAt directories path) :
    Grown directories files ws ws' := by
  induction hmakes with
  | made hmade => exact htree.grown_makeDirectory hplaces hmade
  | there _ => exact .refl htree
  | above _ _ ihup ih =>
      have hgrown := ihup htree hplaces.parent
      exact hgrown.trans (ih hgrown.after hplaces)

theorem IsTree.grown_makeDirectoriesFrom (htree : ws.IsTree) {depth : Nat}
    {path : Path} (hplaces : MadeAt directories path)
    (hmake : makeDirectoriesFrom depth ws path = .ok ws') :
    Grown directories files ws ws' :=
  (makesDirectories_of_eq_ok hmake).grown htree hplaces

/-- A file is written into a directory, under the last part of its path. -/
theorem IsTree.grown_write (htree : ws.IsTree) {path : Path} {part : String}
    (hlast : path.parts.getLast? = some part) (hpart : part ≠ "..")
    (hplaces : ∀ location, location.getLast? = some part → files location)
    {content : ByteArray} (hwrite : ws.write path content = .ok ws') :
    Grown directories files ws ws' := by
  have hlocated := htree.located path
  obtain ⟨location, rfl, hlocate | ⟨old, hlocate⟩⟩ := write_eq_ok hwrite
  · rw [hlocate] at hlocated
    obtain ⟨hfollows, hnone, directory, name, rfl, hparent⟩ := hlocated
    exact htree.grown_put_file hparent (by simp [hnone])
      (hplaces _ (hfollows.last part hlast hpart)) content
  · rw [hlocate] at hlocated
    obtain ⟨hfollows, hentry⟩ := hlocated
    have hname := hfollows.last part hlast hpart
    obtain ⟨directory, rfl⟩ := List.getLast?_eq_some_iff.mp hname
    have hparent := htree.parent directory part (by simp [hentry])
    exact htree.grown_put_file hparent (by simp [hentry]) (hplaces _ hname) content

end Grown

section Free

/-- The way to a place is free: no file stands on it. -/
def Free (ws : Workspace) (location : Location) : Prop :=
  ∀ way content, way <+: location → ws.entry? way ≠ some (.file content)

theorem Free.of_prefix {location way : Location} (hfree : ws.Free location)
    (hway : way <+: location) : ws.Free way := fun other content hother =>
  hfree other content (hother.trans hway)

theorem IsTree.isLink_eq_false (htree : ws.IsTree) (path : Path) :
    ws.isLink path = false := by
  rw [isLink]
  split
  · next location hlocate =>
    split
    · next target hlink => exact absurd hlink (htree.noLink _ target)
    · rfl
  · rfl

/-- Where directories lack and no file stands in the way, something is
missing. -/
theorem IsTree.walk_eq_missing (htree : ws.IsTree)
    (follow : Location → Path → List String → Found) {current : Location}
    (hcurrent : ws.entry? current = some .directory) {init : List String}
    {part : String} (hparts : ∀ other ∈ init ++ [part], other ≠ "..")
    (hfree : ws.Free (current ++ init))
    (hparent : ws.entry? (current ++ init) ≠ some .directory) :
    ws.walk follow current (init ++ [part]) = .missing := by
  apply Walks.walk_eq
  induction init generalizing current with
  | nil => simp [hcurrent] at hparent
  | cons first rest ih =>
      have hfirst := hparts first (by simp)
      have hsplit : current ++ first :: rest = current ++ [first] ++ rest := by simp
      rw [hsplit] at hfree hparent
      cases hentry : ws.entry? (current ++ [first]) with
      | none => exact .missing hcurrent hfirst hentry (by simp)
      | some entry =>
          cases entry with
          | link target => exact absurd hentry (htree.noLink _ target)
          | directory =>
              exact .down hcurrent hfirst hentry (ih hentry (fun other hother =>
                hparts other (List.mem_cons_of_mem first hother)) hfree hparent)
          | file content => exact absurd hentry (hfree _ content (List.prefix_append _ _))

theorem madeAt_of_plain {path : Path} (hpath : path.Plain) :
    MadeAt (· <+: path.parts) path := by
  intro tree way location htree hway hlocate
  have hlocated := htree.located way
  rw [hlocate] at hlocated
  rw [hlocated.1.exact fun part hpart => hpath.ne_dots part (hway.subset hpart)]
  exact hway

/-- Where its parent is there, a directory can be made. -/
theorem IsTree.makeDirectory_plain (htree : ws.IsTree) {path : Path}
    (hpath : path.Plain) {directory : Location} {part : String}
    (hparts : path.parts = directory ++ [part])
    (hparent : ws.entry? directory = some .directory)
    (hfree : ws.Free path.parts) :
    (∃ ws', ws.makeDirectory path = .ok ws' ∧
        ws'.entry? path.parts = some .directory) ∨
      (ws.makeDirectory path = .error ⟨.alreadyExists, path⟩ ∧
        ws.entry? path.parts = some .directory) := by
  rw [makeDirectory, htree.isLink_eq_false,
    htree.locate_of_parent hpath.ne_dots hparts hparent]
  cases hentry : ws.entry? path.parts with
  | none =>
      refine Or.inl ⟨_, rfl, ?_⟩
      rw [entry?_put (by simp [hparts]), if_pos rfl]
  | some entry =>
      cases entry with
      | directory => exact Or.inr ⟨rfl, rfl⟩
      | link target => exact absurd hentry (htree.noLink _ target)
      | file content => exact absurd hentry (hfree _ content List.prefix_rfl)

/-- Where nothing is written on the way, no file has come in the way. -/
theorem Grown.free (hgrown : Grown directories files ws ws') {location : Location}
    (hfree : ws.Free location) (hfiles : ∀ way, way <+: location → ¬files way) :
    ws'.Free location := fun way content hway hfile =>
  hfree way content hway ((hgrown.file_iff (hfiles way hway) content).mpr hfile)

theorem IsTree.makeDirectory_of_missing (htree : ws.IsTree) {path : Path}
    (hpath : path.Plain) {directory : Location} {part : String}
    (hparts : path.parts = directory ++ [part]) (hfree : ws.Free directory)
    (hparent : ws.entry? directory ≠ some .directory) :
    ws.makeDirectory path = .error ⟨.notFound, path⟩ := by
  have hwalk := fun follow => htree.walk_eq_missing follow
    (show ws.entry? [] = some .directory from rfl) (hparts ▸ hpath.ne_dots) hfree
    hparent
  have hlocate : ws.locate path = .missing := by
    rw [locate, hparts]
    exact hwalk _
  rw [makeDirectory, htree.isLink_eq_false, hlocate]
  rfl

/-- Where no file stands in the way, directories can be made. -/
theorem IsTree.makeDirectoriesFrom_of_free (htree : ws.IsTree) {depth : Nat}
    {path : Path} (hpath : path.Plain) (hdepth : path.parts.length < depth)
    (hfree : ws.Free path.parts) :
    ∃ ws', makeDirectoriesFrom depth ws path = .ok ws' ∧
      ws'.entry? path.parts = some .directory := by
  induction depth generalizing path with
  | zero => exact absurd hdepth (Nat.not_lt_zero _)
  | succ depth ih =>
      rw [makeDirectoriesFrom]
      rcases List.eq_nil_or_concat path.parts with hnil | ⟨directory, part, hconcat⟩
      · have hroot : ws.entry? path.parts = some .directory := by
          rw [hnil]
          rfl
        have hlocate := (htree.locate_eq_entry_iff hpath.ne_dots _ _).mpr ⟨rfl, hroot⟩
        rw [makeDirectory, htree.isLink_eq_false, hlocate,
          (htree.isDirectory_iff hpath).mpr hroot]
        exact ⟨ws, rfl, hroot⟩
      · have hparts : path.parts = directory ++ [part] := by simpa using hconcat
        by_cases hparent : ws.entry? directory = some .directory
        · rcases htree.makeDirectory_plain hpath hparts hparent hfree with
            ⟨ws', hmake, hmade⟩ | ⟨hmake, hthere⟩
          · rw [hmake]
            exact ⟨ws', rfl, hmade⟩
          · rw [hmake, (htree.isDirectory_iff hpath).mpr hthere]
            exact ⟨ws, rfl, hthere⟩
        · have hup : path.parent.parts = directory := by simp [Path.parent, hparts]
          have hway : path.parent.parts <+: path.parts :=
            List.dropLast_prefix path.parts
          have hlength : path.parent.parts.length < depth := by
            rw [hparts, List.length_append, List.length_singleton] at hdepth
            rw [hup]
            omega
          have hmissing := htree.makeDirectory_of_missing hpath hparts
            (hfree.of_prefix (hup ▸ hway)) hparent
          obtain ⟨mid, hmid, hmade⟩ :=
            ih (Path.plain_parent hpath) hlength (hfree.of_prefix hway)
          have hgrown : Grown (fun _ => True) (fun _ => False) ws mid :=
            htree.grown_makeDirectoriesFrom (fun _ _ _ _ _ _ => trivial) hmid
          rcases hgrown.after.makeDirectory_plain hpath hparts (hup ▸ hmade)
            (hgrown.free hfree fun _ _ => id) with ⟨ws', hmake, hmade⟩ | ⟨hmake, hthere⟩
          · refine ⟨ws', ?_, hmade⟩
            simp [hmissing, hmid, hmake]
          · refine ⟨mid, ?_, hthere⟩
            simp [hmissing, hmid, hmake,
              (hgrown.after.isDirectory_iff hpath).mpr hthere]

/-- In a directory, a file can be written where no directory stands. -/
theorem IsTree.write_of_parent (htree : ws.IsTree) (directories : Location → Prop)
    {path : Path} (hpath : path.Plain) {directory : Location} {part : String}
    (hparts : path.parts = directory ++ [part])
    (hparent : ws.entry? directory = some .directory)
    (hold : ws.entry? path.parts ≠ some .directory) (content : ByteArray) :
    ∃ ws', ws.write path content = .ok ws' ∧
      ws.Grown directories (· = path.parts) ws' := by
  have hgrown : ws.Grown directories (· = path.parts)
      (ws.put path.parts (.file content)) := by
    have hput : ws.Grown directories (· = path.parts)
        (ws.put (directory ++ [part]) (.file content)) :=
      htree.grown_put_file hparent (hparts ▸ hold) hparts.symm content
    rwa [← hparts] at hput
  refine ⟨_, ?_, hgrown⟩
  rw [write, htree.locate_of_parent hpath.ne_dots hparts hparent]
  cases hentry : ws.entry? path.parts with
  | none => rfl
  | some entry =>
      cases entry with
      | directory => exact absurd hentry hold
      | link target => exact absurd hentry (htree.noLink _ target)
      | file old => rfl

end Free

end IntegrationBuild.Workspace
