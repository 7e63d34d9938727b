import IntegrationBuild.Proofs.Workspace.Leads

/-!
What making directories and writing files leaves as it is, with links.  A file
that is written is read back; it is written over another only where the path
leads to that one; and where a path led to no file, a file that is written there
once its directories are made is a new one.
-/

namespace IntegrationBuild.Workspace

variable {ws mid ws' : Workspace}

section Directories

/-- A directory that is made is found from then on. -/
theorem exists_of_makeDirectory {path : Path} (hmake : ws.makeDirectory path = .ok ws') :
    ∃ way place, way <+: path.parts ∧ ws.entry? place = none ∧
      ws'.find linkBudget [] way = .entry place .directory := by
  have hgains := gains_makeDirectory hmake
  obtain ⟨place, hlocate, rfl⟩ := makeDirectory_eq_ok hmake
  have hmade : entry? (ws.put place .directory) place = some .directory := by
    rw [entry?_put (ne_nil_of_locate_absent hlocate), if_pos rfl]
  refine ⟨path.parts, place, List.prefix_rfl, entry?_of_locate_absent hlocate, ?_⟩
  refine hgains.retains.keepsWays.find_eq_entry hmade ?_ (congrArg Found.place? hlocate)
  rintro ⟨target, hlink⟩
  cases hmade.symm.trans hlink

/-- Making directories changes nothing, or it makes one that some part of the
path leads to from then on. -/
theorem MakesDirectories.exists_made {path : Path}
    (hmakes : MakesDirectories ws path ws') :
    ws' = ws ∨ ∃ way place, way <+: path.parts ∧ ws.entry? place = none ∧
      ws'.find linkBudget [] way = .entry place .directory := by
  induction hmakes with
  | made hmade => exact Or.inr (exists_of_makeDirectory hmade)
  | there _ => exact Or.inl rfl
  | above _ hrest ihup ih =>
      rcases ihup with rfl | ⟨way, place, hway, hnone, hfind⟩
      · exact ih
      · have hway := hway.trans (List.dropLast_prefix _)
        exact Or.inr ⟨way, place, hway, hnone, hrest.gains.retains.find_eq_entry hfind⟩

end Directories

section Parents

/-- What is found to be lacking lacks in a directory. -/
theorem HasParents.exists_of_walk_absent (hparents : ws.HasParents) {place : Location}
    {follow : Location → Path → List String → Found}
    (hfollow : ∀ current target rest, ws.entry? current = some .directory →
      follow current target rest = .absent place →
        ∃ directory part, place = directory ++ [part] ∧ ws.entry? directory = some .directory)
    {current : Location} {parts : List String} (hcurrent : ws.entry? current = some .directory)
    (hwalk : ws.walk follow current parts = .absent place) :
    ∃ directory part, place = directory ++ [part] ∧ ws.entry? directory = some .directory := by
  obtain ⟨found, hwalks⟩ := ws.exists_walks follow current parts
  rw [hwalks.walk_eq] at hwalk
  induction hwalks with
  | nowhere hnone => cases hnone.symm.trans hcurrent
  | @absent current part _ _ _ =>
      obtain rfl := Found.absent.inj hwalk
      exact ⟨current, part, rfl, hcurrent⟩
  | up _ _ ih => exact ih (hparents.entry?_dropLast hcurrent) hwalk
  | link _ _ _ => exact hfollow _ _ _ hcurrent hwalk
  | down _ _ hlower _ ih => exact ih hlower hwalk
  | here => cases hwalk
  | file => cases hwalk
  | blocked => cases hwalk
  | missing => cases hwalk
  | inFile => cases hwalk

theorem HasParents.exists_of_find_absent (hparents : ws.HasParents) {budget : Nat}
    {current place : Location} {parts : List String}
    (hcurrent : ws.entry? current = some .directory)
    (hfind : ws.find budget current parts = .absent place) :
    ∃ directory part, place = directory ++ [part] ∧ ws.entry? directory = some .directory := by
  induction budget generalizing current parts with
  | zero =>
      rw [find] at hfind
      exact hparents.exists_of_walk_absent (fun _ _ _ _ hloop => by cases hloop) hcurrent hfind
  | succ budget ih =>
      rw [find] at hfind
      refine hparents.exists_of_walk_absent (fun current target rest hdirectory hnext => ?_)
        hcurrent hfind
      apply ih ?_ hnext
      rw [linkStart]
      split
      · rfl
      · exact hdirectory

theorem HasParents.put_absent (hparents : ws.HasParents) {path : Path} {place : Location}
    (hlocate : ws.locate path = .absent place) (entry : Entry) :
    (ws.put place entry).HasParents := by
  have hnone := entry?_of_locate_absent hlocate
  obtain ⟨directory, part, rfl, hparent⟩ := hparents.exists_of_find_absent rfl hlocate
  exact hparents.put hparent (by rw [hnone]; simp) entry

/-- If everything stood in a directory, it still does. -/
def KeepsParents (ws ws' : Workspace) : Prop :=
  ws.HasParents → ws'.HasParents

instance : IsPreorder Workspace KeepsParents where
  refl _ := id
  trans _ _ _ hfirst hnext := hnext ∘ hfirst

theorem keepsParents_makeDirectories {path : Path} (hmake : ws.makeDirectories path = .ok ws') :
    KeepsParents ws ws' := by
  apply (makesDirectories_of_eq_ok hmake).of_one
  intro ws ws' path hmade hparents
  obtain ⟨place, hlocate, rfl⟩ := makeDirectory_eq_ok hmade
  exact hparents.put_absent hlocate .directory

theorem keepsParents_write {path : Path} {content : ByteArray}
    (hwrite : ws.write path content = .ok ws') : KeepsParents ws ws' := by
  intro hparents
  obtain ⟨place, rfl, hlocate | ⟨old, hlocate⟩⟩ := write_eq_ok hwrite
  · exact hparents.put_absent hlocate _
  · have hentry := entry?_of_locate_entry hlocate
    rcases List.eq_nil_or_concat place with rfl | ⟨directory, part, rfl⟩
    · cases hentry
    · rw [List.concat_eq_append] at hentry ⊢
      refine hparents.put ?_ (by rw [hentry]; simp) _
      exact hparents directory part (by rw [hentry]; simp)

end Parents

section Spares

/-- Directories and links are kept, and so is the file at a place. -/
structure Spares (place : Location) (ws ws' : Workspace) : Prop where
  links : SameLinks ws ws'
  directory : ∀ location, ws.entry? location = some .directory →
    ws'.entry? location = some .directory
  file : ∀ content, ws.entry? place = some (.file content) →
    ws'.entry? place = some (.file content)

variable {place : Location} {path : Path} {content : ByteArray}

instance : IsPreorder Workspace (Spares place) where
  refl _ := ⟨refl_of SameLinks _, fun _ => id, fun _ => id⟩
  trans _ _ _ hfirst hnext := ⟨trans_of SameLinks hfirst.links hnext.links,
    fun location hentry => hnext.directory location (hfirst.directory location hentry),
    fun content hentry => hnext.file content (hfirst.file content hentry)⟩

theorem Spares.keepsWays (hspares : Spares place ws ws') : KeepsWays ws ws' where
  directory := hspares.directory _
  link := (hspares.links _ _).mp

theorem GainsDirectories.spares (hgains : GainsDirectories ws ws') : Spares place ws ws' where
  links := hgains.sameLinks
  directory location := hgains.retains location _
  file _ := hgains.retains place _

/-- A file that is kept is found as before. -/
theorem Spares.locate_eq (hspares : Spares place ws ws')
    (hlocate : ws.locate path = .entry place (.file content)) :
    ws'.locate path = .entry place (.file content) := by
  have hentry := hspares.file content (entry?_of_locate_entry hlocate)
  refine hspares.keepsWays.find_eq_entry hentry ?_ (congrArg Found.place? hlocate)
  rintro ⟨target, hlink⟩
  cases hentry.symm.trans hlink

theorem read?_of_locate (hlocate : ws.locate path = .entry place (.file content)) :
    ws.read? path = some content := by
  rw [read?, hlocate]

/-- Writing a file leaves every directory and every link in its place. -/
theorem keepsWays_write (hwrite : ws.write path content = .ok ws') : KeepsWays ws ws' := by
  refine ⟨fun {location} hentry => ?_, (sameLinks_write hwrite _ _).mp⟩
  obtain ⟨written, rfl, hlocate⟩ := write_eq_ok hwrite
  -- neither the root nor another directory is written over
  have hold : ws.entry? written ≠ some .directory := by
    rcases hlocate with hlocate | ⟨old, hlocate⟩
    · rw [entry?_of_locate_absent hlocate]
      simp
    · rw [entry?_of_locate_entry hlocate]
      simp
  rw [entry?_put, if_neg]
  · exact hentry
  · rintro rfl
    exact hold hentry
  · rintro rfl
    exact hold rfl

/-- A directory is still found where the ways to it are kept. -/
theorem KeepsWays.isDirectory_eq (hways : KeepsWays ws ws')
    (hdirectory : ws.isDirectory path = true) : ws'.isDirectory path = true := by
  rw [isDirectory] at hdirectory ⊢
  split at hdirectory
  · next location hlocate =>
    have hentry := hways.directory (entry?_of_locate_entry hlocate)
    have hfind : ws'.locate path = .entry location .directory := by
      refine hways.find_eq_entry hentry ?_ (congrArg Found.place? hlocate)
      rintro ⟨target, hlink⟩
      cases hentry.symm.trans hlink
    rw [hfind]
  · cases hdirectory

theorem put_of_write (hwrite : ws.write path content = .ok ws') :
    ∃ written, ws.put written (.file content) = ws' ∧
      (ws.locate path).place? = some written ∧ written ≠ [] := by
  obtain ⟨written, rfl, hlocate | ⟨old, hlocate⟩⟩ := write_eq_ok hwrite
  · refine ⟨written, rfl, ?_, ne_nil_of_locate_absent hlocate⟩
    rw [hlocate]
    rfl
  · refine ⟨written, rfl, ?_, ?_⟩
    · rw [hlocate]
      rfl
    · rintro rfl
      cases entry?_of_locate_entry hlocate

/-- A file is written where its path leads to, and nowhere else. -/
theorem exists_of_write (hwrite : ws.write path content = .ok ws') :
    ∃ written, (ws.locate path).place? = some written ∧
      ws'.locate path = .entry written (.file content) ∧
      ∀ place, place ≠ written → Spares place ws ws' := by
  have hlinks := sameLinks_write hwrite
  have hways := keepsWays_write hwrite
  obtain ⟨written, rfl, hplace, hne⟩ := put_of_write hwrite
  have hwritten : entry? (ws.put written (.file content)) written = some (.file content) := by
    rw [entry?_put hne, if_pos rfl]
  refine ⟨written, hplace, hways.find_eq_entry hwritten ?_ hplace, fun place hother => ?_⟩
  · rintro ⟨target, hlink⟩
    cases hwritten.symm.trans hlink
  · refine ⟨hlinks, fun _ => hways.directory, fun old hentry => ?_⟩
    rw [entry?_put hne, if_neg hother]
    exact hentry

/-- A file that is written is read back. -/
theorem read?_write (hwrite : ws.write path content = .ok ws') :
    ws'.read? path = some content := by
  obtain ⟨written, -, hlocate, -⟩ := exists_of_write hwrite
  exact read?_of_locate hlocate

/-- What a path does not resolve to is spared when it is written. -/
theorem spares_write (hplace : ws.resolve (.absolute []) path ≠ .absolute place)
    (hwrite : ws.write path content = .ok ws') : Spares place ws ws' := by
  obtain ⟨written, hwritten, -, hspares⟩ := exists_of_write hwrite
  apply hspares
  rintro rfl
  exact hplace (resolve_of_locate hwritten)

/-- A path that is no link is written under its last name. -/
theorem spares_write_of_getLast? {part : String} (hlast : path.parts.getLast? = some part)
    (hpart : part ≠ "..") (hlink : ws.isLink path = false) (hplace : place.getLast? ≠ some part)
    (hwrite : ws.write path content = .ok ws') : Spares place ws ws' := by
  obtain ⟨written, hwritten, -, hspares⟩ := exists_of_write hwrite
  apply hspares
  rintro rfl
  exact hplace (getLast?_of_locate hlast hpart hlink hwritten)

end Spares

section Trees

variable {path : Path} {part : String} {place : Location}

/-- Without links a path resolves to its own last name. -/
theorem IsTree.getLast?_resolve (htree : ws.IsTree) (cwd : Path)
    (hlast : path.parts.getLast? = some part) (hpart : part ≠ "..") :
    (ws.resolve cwd path).parts.getLast? = some part := by
  obtain ⟨init, hinit⟩ := List.getLast?_eq_some_iff.mp hlast
  obtain ⟨more, hmore⟩ : ∃ more, (cwd.join path).parts = more ++ [part] := by
    rw [Path.join]
    split
    · exact ⟨init, hinit⟩
    · exact ⟨cwd.parts ++ init, by simp [hinit]⟩
  rw [htree.resolve_eq, hmore, Path.normalParts_concat more hpart, Path.normalized]
  simp [Path.absolute, Path.normalParts_concat _ hpart]

theorem IsTree.resolve_ne (htree : ws.IsTree) (cwd : Path)
    (hlast : path.parts.getLast? = some part) (hpart : part ≠ "..")
    (hplace : place.getLast? ≠ some part) : ws.resolve cwd path ≠ .absolute place := by
  intro hresolve
  have hresolved := htree.getLast?_resolve cwd hlast hpart
  rw [hresolve] at hresolved
  exact hplace hresolved

theorem IsTree.getLast?_of_locate (htree : ws.IsTree)
    (hlast : path.parts.getLast? = some part) (hpart : part ≠ "..")
    (hlocate : (ws.locate path).place? = some place) : place.getLast? = some part := by
  have hresolved := htree.getLast?_resolve (.absolute []) hlast hpart
  rw [resolve_of_locate hlocate] at hresolved
  exact hresolved

/-- With the same links, a tree stays one if everything stands in a directory. -/
theorem IsTree.of_sameLinks (htree : ws.IsTree) (hlinks : SameLinks ws ws')
    (hparents : ws'.HasParents) : ws'.IsTree where
  noLink location target hentry :=
    htree.noLink location target ((hlinks location target).mpr hentry)
  parent := hparents

end Trees

section NewFile

/-- A path starts at a directory that is there and leads only down from it. -/
def LeadsDown (ws : Workspace) (path : Path) : Prop :=
  ∃ base rest location, path.parts = base ++ rest ∧ (∀ part ∈ rest, part ≠ "..") ∧
    ws.find linkBudget [] base = .entry location .directory

theorem leadsDown_of_isDirectory {path : Path} (hdirectory : ws.isDirectory path = true) :
    ws.LeadsDown path := by
  rw [isDirectory] at hdirectory
  split at hdirectory
  · next location hlocate =>
    exact ⟨path.parts, [], location, (List.append_nil _).symm, by simp, hlocate⟩
  · cases hdirectory

theorem LeadsDown.child {path : Path} {text : String} (hpath : ws.LeadsDown path)
    (htext : ".." ∉ (Path.ofString text).parts) : ws.LeadsDown (path.child text) := by
  have hdown : ∀ part ∈ (Path.ofString text).parts, part ≠ ".." := by
    rintro part hpart rfl
    exact htext hpart
  rw [Path.child, Path.join]
  split
  · exact ⟨[], _, [], rfl, hdown, rfl⟩
  · obtain ⟨base, rest, location, hparts, hrest, hfind⟩ := hpath
    refine ⟨base, rest ++ (Path.ofString text).parts, location, ?_, ?_, hfind⟩
    · rw [hparts, List.append_assoc]
    · intro part hpart
      rcases List.mem_append.mp hpart with hold | hnew
      · exact hrest part hold
      · exact hdown part hnew

/-- What a path starts with leads to a directory when the path does. -/
theorem exists_find_of_prefix {budget : Nat} {current location : Location}
    {way parts : List String} (hway : way <+: parts)
    (hfind : ws.find budget current parts = .entry location .directory) :
    ∃ there, ws.find budget current way = .entry there .directory := by
  obtain ⟨more, rfl⟩ := hway
  by_cases hmore : more = []
  · rw [hmore, List.append_nil] at hfind
    exact ⟨location, hfind⟩
  · exact exists_find_eq_directory hmore (congrArg Found.place? hfind)

/-- From a directory that has been made, names lead straight down, to where
nothing stood before. -/
theorem HasParents.entry?_below_made (hparents : ws.HasParents) (hgains : GainsDirectories ws mid)
    {budget : Nat} {made place : Location} {way more : List String}
    (hnone : ws.entry? made = none)
    (hmade : mid.find budget [] way = .entry made .directory)
    (hmore : ∀ part ∈ more, part ≠ "..")
    (hfind : (mid.find budget [] (way ++ more)).place? = some place) :
    ws.entry? place = none := by
  have hempty : ∀ rest, rest ≠ [] → ws.entry? (made ++ rest) = none := fun rest hrest =>
    hparents.entry?_below (by rw [hnone]; simp) hrest
  obtain ⟨n, hleads⟩ := leads_of_find hfind
  obtain ⟨m, k, start, hfirst, hnext⟩ := hleads.split
  obtain ⟨m', hway⟩ := leads_of_find (congrArg Found.place? hmade)
  obtain ⟨-, rfl⟩ := hfirst.unique hway
  have hplace : place = start ++ more := by
    refine hnext.eq_append (leadsBelow_of_names [] ?_ fun rest hrest _ => ?_)
    · exact fun hdots => hmore ".." hdots rfl
    · rintro ⟨target, hlink⟩
      cases (hempty rest hrest).symm.trans ((hgains.sameLinks _ target).mpr hlink)
  by_cases hnil : more = []
  · rw [hplace, hnil, List.append_nil, hnone]
  · rw [hplace, hempty more hnil]

/-- Where a path below a directory led to no file, a file that is written once
its directories are made is a new one.  The directories that are made are empty,
and without `..` the path does not lead out of them. -/
theorem HasParents.retains_of_newFile (hparents : ws.HasParents) {path : Path}
    {content : ByteArray} (hdown : ws.LeadsDown path) (hfile : ws.isFile path = false)
    (hmake : ws.makeDirectories path.parent = .ok mid)
    (hwrite : mid.write path content = .ok ws') : Retains mid ws' := by
  have hgains := gains_makeDirectories hmake
  obtain ⟨base, rest, location, hparts, hrest, hbase⟩ := hdown
  obtain ⟨place, rfl, hlocate | ⟨old, hlocate⟩⟩ := write_eq_ok hwrite
  · have hnone := entry?_of_locate_absent hlocate
    intro other entry hentry
    rw [entry?_put (ne_nil_of_locate_absent hlocate), if_neg]
    · exact hentry
    · rintro rfl
      cases hnone.symm.trans hentry
  · exfalso
    have hold : ws.entry? place = some (.file old) :=
      hgains.entry?_eq (entry?_of_locate_entry hlocate) (by simp)
    rcases (makesDirectories_of_eq_ok hmake).exists_made with
      rfl | ⟨way, made, hway, hnone, hfind⟩
    · rw [isFile, hlocate] at hfile
      cases hfile
    · have hway : way <+: path.parts := hway.trans (List.dropLast_prefix path.parts)
      rcases List.prefix_or_prefix_of_prefix hway ⟨rest, hparts.symm⟩ with hup | hbelow
      · -- the directory that the path starts from was there before
        obtain ⟨there, hthere⟩ := exists_find_of_prefix hup hbase
        have hstands := ws.stands_find linkBudget [] way
        rw [hthere] at hstands
        cases hfind.symm.trans (hgains.retains.find_eq_entry hthere)
        cases hnone.symm.trans hstands
      · obtain ⟨more, hmore⟩ := hway
        obtain ⟨init, rfl⟩ := hbelow
        have hdots : ∀ part ∈ more, part ≠ ".." := by
          rw [← hmore, List.append_assoc, List.append_cancel_left_eq] at hparts
          intro part hpart
          exact hrest part (hparts ▸ List.mem_append_right init hpart)
        rw [locate, ← hmore] at hlocate
        have hempty := hparents.entry?_below_made hgains hnone hfind hdots
          (congrArg Found.place? hlocate)
        cases hempty.symm.trans hold

end NewFile

end IntegrationBuild.Workspace
