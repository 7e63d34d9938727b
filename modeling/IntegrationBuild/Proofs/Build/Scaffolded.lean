import IntegrationBuild.Proofs.Build.Single
import IntegrationBuild.Proofs.Build.UpToDate
import IntegrationBuild.Proofs.Workspace.Below

/-!
What generating leaves behind.  The loop over the operations writes while it looks
for scripts, but a starter script bears the name of its operation, so that it is
never the script of another one.  Hence what the loop creates can be told before it
starts, and a second run finds nothing to do.
-/

namespace IntegrationBuild.Build

open Workspace (Grown RootedAt gains_makeDirectories read?_write write_eq_self)

variable {ws mid ws' : Workspace} {root : Path} {base : Location} {dialect : Dialect}
  {modelsModule : String} {operation other : Operation} {operations : List Operation}

section Names

/-- The names that lead from the root to the starter script of an operation. -/
def starterNames (dialect : Dialect) (operation : Operation) : List String :=
  match dialect with
  | .v2 => [operation.integration, operation.folder, operation.name ++ scriptSuffix]
  | .v1 => [operation.name ++ scriptSuffix]

theorem getLast?_starterNames (dialect : Dialect) (operation : Operation) :
    (starterNames dialect operation).getLast? = some (operation.name ++ scriptSuffix) := by
  cases dialect <;> rfl

theorem getLast?_append_starterNames (base : Location) (dialect : Dialect)
    (operation : Operation) :
    (base ++ starterNames dialect operation).getLast? =
      some (operation.name ++ scriptSuffix) := by
  rw [List.getLast?_append, getLast?_starterNames]
  rfl

/-- An operation with a plain name, of an integration with a plain name. -/
structure HasPlainNames (operation : Operation) : Prop where
  name : Path.PlainPart operation.name
  integration : Path.PlainPart operation.integration

theorem HasPlainNames.parts_starterPath (hplain : HasPlainNames operation) (dialect : Dialect)
    (root : Path) :
    (starterPath dialect root operation).parts =
      root.parts ++ starterNames dialect operation := by
  cases dialect with
  | v1 => rw [starterPath, parts_flatPath hplain.name, starterNames]
  | v2 => rw [starterPath, parts_nestedPath hplain.name hplain.integration, starterNames]

theorem HasPlainNames.starterNames_ne_dots (hplain : HasPlainNames operation)
    (dialect : Dialect) : ∀ part ∈ starterNames dialect operation, part ≠ ".." := by
  have hfile := (plainPart_script hplain.name.no_slash).ne_dots
  cases dialect with
  | v1 => simpa [starterNames] using hfile
  | v2 =>
      simp only [starterNames, List.forall_mem_cons]
      exact ⟨hplain.integration.ne_dots, (plainPart_folder operation).ne_dots, hfile, by simp⟩

/-- Scripts of different names have different places. -/
theorem getLast?_starterNames_ne (hname : other.name ≠ operation.name) (base : Location)
    (dialect : Dialect) :
    (base ++ starterNames dialect other).getLast? ≠ some (operation.name ++ scriptSuffix) := by
  rw [getLast?_append_starterNames]
  intro heq
  exact hname (by simpa using heq)

end Names

section Scripts

/-- Whether an operation has a script. -/
def hasScript (ws : Workspace) (root : Path) (operation : Operation) : Bool :=
  (operation.locate ws root).isThere ws

/-- An operation has a script when one of the two places for it holds a file. -/
theorem hasScript_eq (ws : Workspace) (root : Path) (operation : Operation) :
    hasScript ws root operation =
      (ws.isFile (starterPath .v2 root operation) ||
        ws.isFile (starterPath .v1 root operation)) := by
  rw [hasScript, Operation.locate, starterPath, starterPath]
  split
  · next hnested => simp [ScriptLocation.isThere, hnested]
  · next hnested => simp [ScriptLocation.isThere, hnested]

theorem hasScript_of_isFile (hfile : ws.isFile (starterPath dialect root operation) = true) :
    hasScript ws root operation = true := by
  rw [hasScript_eq]
  cases dialect with
  | v1 => rw [hfile, Bool.or_true]
  | v2 => rw [hfile, Bool.true_or]

theorem isFile_of_read? {path : Path} {content : ByteArray}
    (hread : ws.read? path = some content) : ws.isFile path = true := by
  rw [Workspace.read?] at hread
  rw [Workspace.isFile]
  split at hread
  · rfl
  · cases hread

variable {directories files : Location → Prop}
  (hrooted : ws.RootedAt root base) (hplain : HasPlainNames operation)
  (hgrown : Grown directories files ws ws')
  (hfiles : ∀ place, files place → place.getLast? ≠ some (operation.name ++ scriptSuffix))

include hrooted hplain hgrown hfiles

/-- Where no file of its name comes, the scripts of an operation are read as before. -/
theorem read?_starterPath_eq (dialect : Dialect) :
    ws'.read? (starterPath dialect root operation) =
      ws.read? (starterPath dialect root operation) :=
  hrooted.read?_eq_of_grown hgrown (hplain.parts_starterPath dialect root)
    (hplain.starterNames_ne_dots dialect) fun hplace =>
      hfiles _ hplace (getLast?_append_starterNames base dialect operation)

theorem hasScript_eq_of_grown : hasScript ws' root operation = hasScript ws root operation := by
  have hread := read?_starterPath_eq hrooted hplain hgrown hfiles
  rw [hasScript_eq, hasScript_eq]
  simp only [Workspace.isFile_eq_isSome_read?, hread]

end Scripts

section Scaffold

/-- What the loop over some operations leaves behind: a starter script for each of
them that had no script when it began. -/
structure Scaffolded (root : Path) (base : Location) (dialect : Dialect) (modelsModule : String)
    (operations : List Operation) (ws ws' : Workspace) (created : List Path) : Prop where
  grown : Grown (fun _ => True) (fun place => ∃ operation ∈ operations,
    hasScript ws root operation = false ∧ place = base ++ starterNames dialect operation) ws ws'
  created : created = (operations.filter fun operation => !hasScript ws root operation).map
    (starterPath dialect root)
  stub : ∀ operation ∈ operations, hasScript ws root operation = false →
    ws'.read? (starterPath dialect root operation) =
      some (Scaffold.stub operation modelsModule).toUTF8

theorem scaffolded_nil (htree : ws.IsTree) :
    Scaffolded root base dialect modelsModule [] ws ws [] :=
  ⟨.refl htree, rfl, by simp⟩

/-- One step of the loop. -/
theorem scaffolded_singleton (hrooted : ws.RootedAt root base) (hplain : HasPlainNames operation)
    {result : Option Path}
    (hgives : Gives (scaffold root dialect modelsModule operation) ws result ws') :
    Scaffolded root base dialect modelsModule [operation] ws ws' result.toList := by
  simp only [scaffold, gives_bind_iff, gives_get_iff] at hgives
  obtain ⟨_, _, ⟨rfl, rfl⟩, hgives⟩ := hgives
  split at hgives
  · next hthere =>
    obtain ⟨rfl, rfl⟩ := gives_pure_iff.mp hgives
    have hscript : hasScript ws root operation = true := hthere
    exact ⟨.refl hrooted.tree, by simp [hscript], by simp [hscript]⟩
  · next hthere =>
    have hscript : hasScript ws root operation = false := Bool.eq_false_iff.mpr hthere
    simp only [makeDirectories, writeText, write, gives_bind_iff, gives_change_iff,
      gives_pure_iff] at hgives
    obtain ⟨_, mid, hmake, _, _, hwrite, rfl, rfl⟩ := hgives
    have hmade : Grown (fun _ => True) (· = base ++ starterNames dialect operation) ws mid :=
      hrooted.tree.grown_makeDirectoriesFrom (fun _ _ _ _ _ _ => trivial) hmake
    have hgrown := hmade.trans ((hrooted.of_grown hmade).grown_write
      (hplain.parts_starterPath dialect root) (hplain.starterNames_ne_dots dialect) hwrite _)
    refine ⟨hgrown.mono (fun _ => id) fun place hplace => ?_, by simp [hscript], ?_⟩
    · exact ⟨operation, List.mem_singleton_self operation, hscript, hplace⟩
    · rintro other hother -
      obtain rfl := List.mem_singleton.mp hother
      exact read?_write hwrite

/-- Two parts of the loop, for operations of different names, make one. -/
theorem Scaffolded.append {others : List Operation} {created next : List Path}
    (hfirst : Scaffolded root base dialect modelsModule operations ws mid created)
    (hnext : Scaffolded root base dialect modelsModule others mid ws' next)
    (hrooted : ws.RootedAt root base)
    (hplain : ∀ operation ∈ operations ++ others, HasPlainNames operation)
    (hnames : ∀ operation ∈ operations, ∀ other ∈ others, operation.name ≠ other.name) :
    Scaffolded root base dialect modelsModule (operations ++ others) ws ws' (created ++ next) := by
  -- what one part writes is no script of the other
  have hsame : ∀ other ∈ others, hasScript mid root other = hasScript ws root other := by
    intro other hother
    refine hasScript_eq_of_grown hrooted (hplain other (List.mem_append_right _ hother))
      hfirst.grown ?_
    rintro _ ⟨operation, hoperation, -, rfl⟩
    exact getLast?_starterNames_ne (hnames operation hoperation other hother) base dialect
  refine ⟨(hfirst.grown.mono (fun _ => id) ?_).trans (hnext.grown.mono (fun _ => id) ?_), ?_, ?_⟩
  · rintro place ⟨operation, hoperation, hlacks⟩
    exact ⟨operation, List.mem_append_left _ hoperation, hlacks⟩
  · rintro place ⟨other, hother, hlacks, hplace⟩
    exact ⟨other, List.mem_append_right _ hother, hsame other hother ▸ hlacks, hplace⟩
  · rw [List.filter_append, List.map_append, hfirst.created, hnext.created]
    congr 2
    exact List.filter_congr fun other hother => by rw [hsame other hother]
  · intro operation hmem hlacks
    rcases List.mem_append.mp hmem with hoperation | hother
    · rw [read?_starterPath_eq (hrooted.of_grown hfirst.grown) (hplain operation hmem) hnext.grown]
      · exact hfirst.stub operation hoperation hlacks
      · rintro _ ⟨other, hother, -, rfl⟩
        exact getLast?_starterNames_ne (hnames operation hoperation other hother).symm base dialect
    · exact hnext.stub operation hother ((hsame operation hother).trans hlacks)

/-- The whole loop. -/
theorem scaffolded_of_gives_mapM (hrooted : ws.RootedAt root base)
    (hplain : ∀ operation ∈ operations, HasPlainNames operation)
    (hnodup : (operations.map (·.name)).Nodup) {results : List (Option Path)}
    (hgives : Gives (operations.mapM (scaffold root dialect modelsModule)) ws results ws') :
    Scaffolded root base dialect modelsModule operations ws ws' (results.filterMap id) := by
  induction operations generalizing ws results with
  | nil =>
      obtain ⟨rfl, rfl⟩ := gives_pure_iff.mp hgives
      exact scaffolded_nil hrooted.tree
  | cons operation rest ih =>
      simp only [List.mapM_cons, gives_bind_iff, gives_pure_iff] at hgives
      obtain ⟨result, mid, hfirst, others, _, hrest, rfl, rfl⟩ := hgives
      obtain ⟨hfresh, hnodup⟩ := List.nodup_cons.mp hnodup
      have hstep := scaffolded_singleton hrooted (hplain operation List.mem_cons_self) hfirst
      have hothers := ih (hrooted.of_grown hstep.grown)
        (fun other hother => hplain other (List.mem_cons_of_mem operation hother)) hnodup hrest
      have hall := hstep.append hothers hrooted hplain (by
        intro first hmem other hother heq
        obtain rfl := List.mem_singleton.mp hmem
        exact hfresh (List.mem_map.mpr ⟨other, hother, heq.symm⟩))
      cases result with
      | none => exact hall
      | some path => exact hall

/-- After the loop every operation has a script. -/
theorem Scaffolded.hasScript_after {created : List Path}
    (hscaffolded : Scaffolded root base dialect modelsModule operations ws ws' created)
    (hrooted : ws.RootedAt root base)
    (hplain : ∀ operation ∈ operations, HasPlainNames operation)
    (hnodup : (operations.map (·.name)).Nodup) :
    ∀ operation ∈ operations, hasScript ws' root operation = true := by
  intro operation hoperation
  cases hscript : hasScript ws root operation with
  | false =>
      exact hasScript_of_isFile (isFile_of_read? (hscaffolded.stub operation hoperation hscript))
  | true =>
      rw [hasScript_eq_of_grown hrooted (hplain operation hoperation) hscaffolded.grown, hscript]
      rintro _ ⟨other, hother, hlacks, rfl⟩
      refine getLast?_starterNames_ne (fun heq => ?_) base dialect
      cases List.inj_on_of_nodup_map hnodup hother hoperation heq
      cases hscript.symm.trans hlacks

/-- Where every operation has a script, the loop does nothing. -/
theorem gives_mapM_of_hasScript
    (hscripts : ∀ operation ∈ operations, hasScript ws root operation = true) :
    Gives (operations.mapM (scaffold root dialect modelsModule)) ws
      (operations.map fun _ => none) ws := by
  induction operations with
  | nil => exact gives_pure_iff.mpr ⟨rfl, rfl⟩
  | cons operation rest ih =>
      have hthere : (operation.locate ws root).isThere ws = true :=
        hscripts operation List.mem_cons_self
      have hfirst : Gives (scaffold root dialect modelsModule operation) ws none ws := by
        refine gives_bind_iff.mpr ⟨ws, ws, gives_get_iff.mpr ⟨rfl, rfl⟩, ?_⟩
        rw [if_pos hthere]
        exact gives_pure_iff.mpr ⟨rfl, rfl⟩
      have hrest := ih fun other hother => hscripts other (List.mem_cons_of_mem operation hother)
      rw [List.mapM_cons]
      exact gives_bind_iff.mpr ⟨none, ws, hfirst, gives_bind_iff.mpr
        ⟨_, ws, hrest, gives_pure_iff.mpr ⟨rfl, rfl⟩⟩⟩

end Scaffold

section Generate

variable {project : Project} {given : Option Settings} {settings : Settings}
  {generated : Generated}

/-- The settings are read off their file, unless they are given. -/
theorem settingsFor_congr (given : Option Settings)
    (hread : ws'.read? (root.child Settings.fileName) = ws.read? (root.child Settings.fileName)) :
    settingsFor ws' root given = settingsFor ws root given := by
  cases given with
  | some settings => rfl
  | none => rw [settingsFor, settingsFor, Settings.load, Settings.load, hread]

theorem exists_rootedAt_of_load (htree : ws.IsTree) (hload : Project.load ws root = .ok project) :
    ∃ base, ws.RootedAt root base := by
  have hdirectory := isDirectory_of_load hload
  rw [Workspace.isDirectory] at hdirectory
  split at hdirectory
  · next base hlocate => exact ⟨base, htree, hlocate⟩
  · cases hdirectory

/-- Where a file comes or changes, there is a script, and a path that is reported
resolves to it. -/
def IsReported (ws : Workspace) (generated : Generated) (place : Location) : Prop :=
  ScriptPlace place ∧ ∃ path ∈ generated.models :: generated.created,
    ws.resolve (.absolute []) path = .absolute place

/-- Generating writes the models module, and then the loop goes on from there. -/
theorem exists_scaffolded_of_gives_generate (hrooted : ws.RootedAt root base)
    (hload : Project.load ws root = .ok project)
    (hplain : ∀ operation ∈ project.operations, HasPlainNames operation)
    (hsettings : settingsFor ws root given = .ok settings)
    (hmodels : Settings.isModuleFile settings.modelsFile = true)
    (hgives : Gives (generate root given) ws generated ws') :
    ∃ written, ws.write (settings.modelsPath root) project.modelsSource.toUTF8 = .ok written ∧
      written.RootedAt root base ∧ generated.models = settings.modelsPath root ∧
      Scaffolded root base project.dialect settings.modelsModule project.operations written ws'
        generated.created ∧
      Grown (fun _ => True) (IsReported ws generated) ws ws' := by
  obtain ⟨written, created, hwrite, hscaffold, rfl⟩ :=
    (gives_generate_iff hsettings hload).mp hgives
  obtain ⟨stem, -, hfile, hpath, -⟩ := exists_modelsPath hmodels root root
  have hparts : (settings.modelsPath root).parts = root.parts ++ [stem ++ scriptSuffix] := by
    rw [hpath]
  have hdots : ∀ part ∈ [stem ++ scriptSuffix], part ≠ ".." := by
    simpa using hfile.ne_dots
  have hmodule := hrooted.grown_write hparts hdots hwrite (fun _ => True)
  have hwritten := hrooted.of_grown hmodule
  have hnodup := (Project.closed_of_load hload).operationNames_nodup
  have hloop := scaffolded_of_gives_mapM hwritten hplain hnodup hscaffold
  refine ⟨written, hwrite, hwritten, rfl, hloop, ?_⟩
  refine (hmodule.mono (fun _ => id) ?_).trans (hloop.grown.mono (fun _ => id) ?_)
  · rintro _ rfl
    exact ⟨⟨stem, by simp⟩, _, List.mem_cons_self, hrooted.resolve_eq hparts hdots⟩
  · rintro _ ⟨operation, hoperation, hlacks, rfl⟩
    have hnames := hplain operation hoperation
    refine ⟨⟨operation.name, getLast?_append_starterNames base project.dialect operation⟩, _,
      List.mem_cons_of_mem _ ?_, hrooted.resolve_eq (hnames.parts_starterPath project.dialect root)
        (hnames.starterNames_ne_dots project.dialect)⟩
    rw [hloop.created]
    exact List.mem_map_of_mem (List.mem_filter.mpr ⟨hoperation, by simp [hlacks]⟩)

/-- A file at the root that is no script is read as before. -/
theorem read?_child_after_generate (hrooted : ws.RootedAt root base) {name : String}
    (hname : Path.PlainPart name) (hlast : name.toList.getLast? ≠ some 'y')
    (hgrown : Grown (fun _ => True) (IsReported ws generated) ws ws') :
    ws'.read? (root.child name) = ws.read? (root.child name) := by
  refine hrooted.read?_eq_of_grown hgrown (by rw [Path.child_of_plainPart hname])
    (by simpa using hname.ne_dots) ?_
  rintro ⟨hscript, -⟩
  exact not_scriptPlace (List.getLast?_concat) hlast hscript

/-- In a project without links and with plain names, generating leaves every
operation with a script.  It creates the starter scripts of just those operations
that have none beside the models module, changes no other file, and has nothing to
do a second time. -/
theorem exists_written_of_gives_generate (htree : ws.IsTree)
    (hload : Project.load ws root = .ok project)
    (hintegrations : ∀ integration ∈ project.integrations, Path.PlainPart integration.name)
    (hoperations : ∀ operation ∈ project.operations, Path.PlainPart operation.name)
    (hsettings : settingsFor ws root given = .ok settings)
    (hmodels : Settings.isModuleFile settings.modelsFile = true)
    (hgives : Gives (generate root given) ws generated ws') :
    (∀ operation ∈ project.operations, (operation.locate ws' root).isThere ws' = true) ∧
    (∃ written, ws.write (settings.modelsPath root) project.modelsSource.toUTF8 = .ok written ∧
      generated = {
        models := settings.modelsPath root
        created := (project.operations.filter fun operation =>
          !(operation.locate written root).isThere written).map
            (starterPath project.dialect root) } ∧
      ∀ operation ∈ project.operations, (operation.locate written root).isThere written = false →
        ws'.read? (starterPath project.dialect root operation) =
          some (Scaffold.stub operation settings.modelsModule).toUTF8) ∧
    (∀ place content, (∀ path ∈ generated.models :: generated.created,
        ws.resolve (.absolute []) path ≠ .absolute place) →
      (ws.entry? place = some (.file content) ↔ ws'.entry? place = some (.file content))) ∧
    Gives (generate root given) ws' { models := settings.modelsPath root, created := [] } ws' := by
  have hplain : ∀ operation ∈ project.operations, HasPlainNames operation := fun operation hmem =>
    ⟨hoperations operation hmem, Project.plainPart_integration hload hintegrations operation hmem⟩
  obtain ⟨base, hrooted⟩ := exists_rootedAt_of_load htree hload
  obtain ⟨written, hwrite, hwritten, hpath, hloop, hgrown⟩ :=
    exists_scaffolded_of_gives_generate hrooted hload hplain hsettings hmodels hgives
  have hscripts := hloop.hasScript_after hwritten hplain
    (Project.closed_of_load hload).operationNames_nodup
  have hcreated := hloop.created
  simp only [hasScript] at hcreated
  refine ⟨hscripts, ⟨written, hwrite, ?_, hloop.stub⟩, fun place content hplace => ?_, ?_⟩
  · rw [← hpath, ← hcreated]
  · refine hgrown.file_iff ?_ content
    rintro ⟨-, path, hmem, hresolve⟩
    exact hplace path hmem hresolve
  · -- the second run reads the same project and settings and writes the same module
    have hdown : ∀ operation ∈ project.operations, IsDownward operation := fun operation hmem =>
      isDownward_of_plainPart (hplain operation hmem).integration (hplain operation hmem).name
    obtain ⟨same, hsame, hread⟩ :=
      holdsModels_of_gives_generate htree hload hdown hsettings hmodels hgives
    have hload' : Project.load ws' root = .ok project := by
      rw [load_congr (read?_child_after_generate hrooted (by decide) (by decide) hgrown), hload]
    cases hsame.symm.trans hload'
    have hsettings' : settingsFor ws' root given = .ok settings := by
      rw [settingsFor_congr given
        (read?_child_after_generate hrooted (by decide) (by decide) hgrown), hsettings]
    exact (gives_generate_iff hsettings' hsame).mpr
      ⟨ws', _, write_eq_self hread, gives_mapM_of_hasScript hscripts, by simp⟩

/-- A project of two syncs, one of which has a script. -/
def lackingWorkspace : Workspace :=
  { entries :=
      [(["p"], .directory),
        (["p", "nango.yaml"], .file ("integrations:\n  g:\n    syncs:\n      a:\n" ++
          "        endpoint: GET /a\n      b:\n        endpoint: GET /b\n").toUTF8),
        (["p", "a.py"], .file "async def fetch_data(nango):\n    pass\n".toUTF8)] }

theorem isTree_lacking : lackingWorkspace.IsTree :=
  Workspace.isTree_of_all (by decide)

/-- The sync without a script gets one, in the folder of its integration, and a
second run has nothing to do. -/
theorem exists_written_of_gives_generate_lacking : ∃ project generated ws',
    Project.load lackingWorkspace (.absolute ["p"]) = .ok project ∧
    Gives (generate (.absolute ["p"]) none) lackingWorkspace generated ws' ∧
    generated.created = [.absolute ["p", "g", "syncs", "b.py"]] ∧
    (∀ operation ∈ project.operations,
      (operation.locate ws' (.absolute ["p"])).isThere ws' = true) ∧
    Gives (generate (.absolute ["p"]) none) ws'
      { models := .absolute ["p", "models.py"], created := [] } ws' := by
  have hloads : ∃ project, Project.load lackingWorkspace (.absolute ["p"]) = .ok project ∧
      (∀ integration ∈ project.integrations, Path.PlainPart integration.name) ∧
        ∀ operation ∈ project.operations, Path.PlainPart operation.name :=
    Outcome.exists_ok_of_decide (by decide +kernel)
  have hends : ∃ generated ws',
      Gives (generate (.absolute ["p"]) none) lackingWorkspace generated ws' ∧
        generated.created = [.absolute ["p", "g", "syncs", "b.py"]] :=
    exists_gives_of_decide (by decide +kernel)
  obtain ⟨project, hload, hintegrations, hoperations⟩ := hloads
  obtain ⟨generated, ws', hgives, hcreated⟩ := hends
  have hsettings : settingsFor lackingWorkspace (.absolute ["p"]) none = .ok {} := rfl
  obtain ⟨hscripts, -, -, hagain⟩ := exists_written_of_gives_generate isTree_lacking hload
    hintegrations hoperations hsettings (by decide +kernel) hgives
  exact ⟨project, generated, ws', hload, hgives, hcreated, hscripts, hagain⟩

end Generate

end IntegrationBuild.Build
