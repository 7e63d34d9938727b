import IntegrationBuild.Proofs.Build.Prepared
import IntegrationBuild.Proofs.Build.Rejected
import IntegrationBuild.Proofs.Workspace.Spared

/-!
What generating and compiling leave as it is.  A build writes its models module,
its documents and compiled scripts; generating writes the models module and
starter scripts, which are always new files.  Every other file is kept, whether
or not the run comes to its end.
-/

namespace IntegrationBuild

open Workspace (KeepsParents KeepsWays Retains SameLinks Spares gains_makeDirectories
  keepsParents_makeDirectories keepsParents_write keepsWays_write spares_write)

namespace Build

variable {α : Type} {start ws ws' : Workspace} {place : Location} {host : Host} {path : Path}

section Compiling

/-- As long as no link has changed, the file at a place is spared. -/
def SparesFrom (start : Workspace) (place : Location) (ws ws' : Workspace) : Prop :=
  SameLinks start ws → Spares place ws ws'

instance : IsPreorder Workspace (SparesFrom start place) where
  refl ws _ := refl_of (Spares place) ws
  trans _ _ _ hfirst hnext hlinks :=
    trans_of (Spares place) (hfirst hlinks)
      (hnext (trans_of SameLinks hlinks (hfirst hlinks).links))

theorem keeps_makeDirectories (path : Path) :
    Keeps (SparesFrom start place) (makeDirectories path) :=
  keeps_change fun _ _ hmake _ => (gains_makeDirectories hmake).spares

/-- A file is written where its path resolves to. -/
theorem keeps_write (hplace : start.resolve (.absolute []) path ≠ .absolute place)
    (content : ByteArray) : Keeps (SparesFrom start place) (write path content) := by
  apply keeps_change
  intro ws ws' hwrite hlinks
  rw [hlinks.resolve_eq] at hplace
  exact spares_write hplace hwrite

theorem keeps_writeJson_of_resolve
    (hplace : start.resolve (.absolute []) path ≠ .absolute place) (json : Json) :
    Keeps (SparesFrom start place) (writeJson path json) := by
  refine keeps_bind (keeps_makeDirectories _) fun _ => ?_
  split
  · exact keeps_write hplace _
  · exact keeps_throw _

/-- A compiled script takes the place of nothing but a compiled script: a link is
not followed. -/
theorem keeps_byteCompile_of_compiled {output : Path} (hplace : ¬CompiledPlace place)
    (houtput : CompiledPlace output.parts) (host : Host) (root source : Path) :
    Keeps (SparesFrom start place) (byteCompile host root source output) := by
  refine keeps_byteCompile (keeps_makeDirectories _) fun ws code ws' hfree hwrite _ => ?_
  obtain ⟨stem, hlast⟩ := houtput
  have hother : place.getLast? ≠ some (stem ++ compiledSuffix) := fun heq => hplace ⟨stem, heq⟩
  exact Workspace.spares_write_of_getLast? hlast (compiled_ne_dots stem) hfree.noLink hother hwrite

theorem keeps_compileFile_of_compiled (hplace : ¬CompiledPlace place) (job : ScriptJob)
    (host : Host) (found : List String) (path : Path) :
    Keeps (SparesFrom start place) (job.compileFile host found path) :=
  fun _ => ScriptJob.after_compileFile fun _ houtput =>
    keeps_byteCompile_of_compiled hplace (ScriptJob.compiledPlace_of_output houtput) _ _ _

theorem keeps_run_of_compiled (hplace : ¬CompiledPlace place) (job : ScriptJob) (host : Host) :
    Keeps (SparesFrom start place) (job.run host) :=
  ScriptJob.keeps_run (P := fun _ => True)
    (fun found path _ => keeps_compileFile_of_compiled hplace job host found path)
    (fun _ _ _ _ _ => trivial) trivial

/-- A place where nothing is written once the models module is: it is no compiled
script's, and no document resolves to it. -/
structure AvoidsOutput (out : Path) (ws : Workspace) (place : Location) : Prop where
  compiled : ¬CompiledPlace place
  document : ws.resolve (.absolute []) (out.child projectDocument) ≠ .absolute place
  report : ws.resolve (.absolute []) (out.child reportDocument) ≠ .absolute place

/-- Without links, the output goes nowhere but to names of its own. -/
theorem avoidsOutput_of_getLast? {name : String} (htree : ws.IsTree)
    (hlast : place.getLast? = some name) (hcompiled : name.toList.getLast? ≠ some 'c')
    (hdocument : name ≠ projectDocument) (hreport : name ≠ reportDocument) (out : Path) :
    AvoidsOutput out ws place := by
  refine ⟨not_compiledPlace hlast hcompiled, ?_, ?_⟩
  · apply htree.resolve_ne _ (document_place out plainPart_projectDocument).1 (by decide)
    rw [hlast]
    exact fun heq => hdocument (Option.some.inj heq)
  · apply htree.resolve_ne _ (document_place out plainPart_reportDocument).1 (by decide)
    rw [hlast]
    exact fun heq => hreport (Option.some.inj heq)

/-- Without links, a script is found at the place of a script. -/
theorem scriptPlace_of_locate (htree : ws.IsTree) (hpath : ScriptPlace path.parts)
    (hlocate : (ws.locate path).place? = some place) : ScriptPlace place := by
  obtain ⟨stem, hlast⟩ := hpath
  exact ⟨stem, htree.getLast?_of_locate hlast (append_ne rfl (by decide)) hlocate⟩

theorem avoidsOutput_of_scriptPlace (htree : ws.IsTree) (hplace : ScriptPlace place)
    (out : Path) : AvoidsOutput out ws place := by
  obtain ⟨stem, hlast⟩ := hplace
  apply avoidsOutput_of_getLast? htree hlast
  · rw [String.toList_append, List.getLast?_append]
    simp [scriptSuffix]
  · exact append_ne rfl (by decide)
  · exact append_ne rfl (by decide)

/-- A place that a build does not write to at all. -/
structure Avoids (options : BuildOptions) (out : Path) (ws : Workspace) (place : Location) :
    Prop extends AvoidsOutput out ws place where
  models : ws.resolve (.absolute []) (options.settings.modelsPath options.root) ≠ .absolute place

variable {options : BuildOptions} {project : Project} {out : Path}

theorem compiledPlace_compiledModels {settings : Settings}
    (hmodels : Settings.isModuleFile settings.modelsFile = true) (out : Path) :
    CompiledPlace (compiledModels out settings).parts := by
  obtain ⟨stem, -, -, -, hcompiled⟩ := exists_modelsPath hmodels out out
  exact ⟨stem, by simp [hcompiled]⟩

theorem scriptPlace_modelsPath {settings : Settings}
    (hmodels : Settings.isModuleFile settings.modelsFile = true) (root : Path) :
    ScriptPlace (settings.modelsPath root).parts := by
  obtain ⟨stem, -, -, hpath, -⟩ := exists_modelsPath hmodels root root
  exact ⟨stem, by simp [hpath]⟩

theorem keeps_writeModelsArtifacts_of_avoids
    (hmodels : Settings.isModuleFile options.settings.modelsFile = true)
    (havoids : Avoids options out start place) (project : Project) :
    Keeps (SparesFrom start place) (writeModelsArtifacts host project options out) := by
  refine keeps_bind (keeps_write havoids.models _) fun _ => ?_
  refine keeps_bind (keeps_byteCompile_of_compiled havoids.compiled
    (compiledPlace_compiledModels hmodels out) _ _ _) fun error => ?_
  cases error with
  | none => exact keeps_writeJson_of_resolve havoids.document _
  | some text => exact keeps_throw _

theorem keeps_runAll (hplace : ¬CompiledPlace place) (locations : List ScriptLocation) :
    Keeps (SparesFrom start place) (runAll host options project locations) :=
  keeps_mapM fun _ _ => keeps_run_of_compiled hplace _ host

/-- A build that comes to its end writes the models module, and from then on it
spares whatever the output does not go to. -/
theorem Course.exists_written {report : BuildReport} {final : Workspace}
    (course : Course host options project start report final)
    (hmodels : Settings.isModuleFile options.settings.modelsFile = true) :
    ∃ made written, start.makeDirectories course.out = .ok made ∧
      made.write (options.settings.modelsPath options.root) project.modelsSource.toUTF8 =
        .ok written ∧
      ∀ place, AvoidsOutput course.out written place → Spares place written final := by
  obtain ⟨-, made, hmake, hartifacts⟩ := gives_prepare_iff.mp course.prepares
  obtain ⟨written, stored, hwrite, hcompile, hdocument⟩ :=
    gives_writeModelsArtifacts_iff.mp hartifacts
  refine ⟨made, written, hmake, hwrite, fun place havoids => ?_⟩
  have hstored : SparesFrom written place written stored :=
    (keeps_byteCompile_of_compiled havoids.compiled
      (compiledPlace_compiledModels hmodels course.out) host _ _).of_gives hcompile
  have hprepared := (keeps_writeJson_of_resolve havoids.document _).of_gives hdocument
  have hruns : SparesFrom written place course.prepared course.compiled :=
    (keeps_runAll havoids.compiled course.locations).of_gives course.runs
  have hreports := (keeps_writeJson_of_resolve havoids.report _).of_gives course.reports
  exact trans_of (SparesFrom written place) hstored
    (trans_of (SparesFrom written place) hprepared
      (trans_of (SparesFrom written place) hruns hreports)) (refl_of SameLinks written)

section Stopping

variable (hmodels : Settings.isModuleFile options.settings.modelsFile = true)
  (havoids : ∀ out, options.outputPath start host.cwd = .ok out → Avoids options out start place)

include hmodels havoids

theorem spares_after_prepare (project : Project) :
    Spares place start ((prepare host options project).after start) := by
  refine after_bind (R := Spares place) (keeps_get start) fun ws mid hget => ?_
  obtain ⟨rfl, rfl⟩ := gives_get_iff.mp hget
  refine after_bind (R := Spares place) (keeps_orStop _ _ start) fun out mid hgives => ?_
  obtain ⟨hout, rfl⟩ := gives_orStop_iff.mp hgives
  have hrest : Keeps (SparesFrom start place) (do
      makeDirectories out
      writeModelsArtifacts host project options out
      pure out) := by
    refine keeps_bind (keeps_makeDirectories out) fun _ => ?_
    exact keeps_bind (keeps_writeModelsArtifacts_of_avoids hmodels (havoids out hout) project)
      fun _ => keeps_pure _
  exact hrest start (refl_of SameLinks start)

theorem spares_after_compileLoaded (project : Project) :
    Spares place start ((compileLoaded host options project).after start) := by
  have hprepared := spares_after_prepare hmodels havoids project
  rw [compileLoaded_eq]
  refine after_bind hprepared fun out mid hgives => ?_
  rw [hgives.after_eq] at hprepared
  have havoids := havoids out (gives_prepare_iff.mp hgives).1
  have hrest : Keeps (SparesFrom start place) (do
      let ws ← get
      let locations ← orStop .ignored (project.scripts ws host.cwd options.root
        (outputFolder ws host.cwd out options.root) options.settings.nestedIgnore)
      if options.workerCount ≤ 0 then throw .noWorkers
      let files ← runAll host options project locations
      let report : BuildReport := { success := files.all (·.ok), files := files }
      writeJson (out.child reportDocument) report.toJson
      pure report) := by
    refine keeps_bind keeps_get fun ws => ?_
    refine keeps_bind (keeps_orStop _ _) fun locations => ?_
    have hjobs : Keeps (SparesFrom start place) (do
        let files ← runAll host options project locations
        let report : BuildReport := { success := files.all (·.ok), files := files }
        writeJson (out.child reportDocument) report.toJson
        pure report) := by
      refine keeps_bind (keeps_runAll havoids.compiled locations) fun files => ?_
      exact keeps_bind (keeps_writeJson_of_resolve havoids.report _) fun _ => keeps_pure _
    dsimp only
    split
    · exact keeps_bind (keeps_throw _) fun _ => hjobs
    · exact hjobs
  exact hrest mid hprepared.links

/-- Compiling spares whatever it does not write to, also when it stops. -/
theorem spares_after_compileProject :
    Spares place start ((compileProject host options).after start) := by
  refine after_bind (R := Spares place) (keeps_get start) fun ws mid hget => ?_
  obtain ⟨rfl, rfl⟩ := gives_get_iff.mp hget
  split
  · next project _ => exact spares_after_compileLoaded hmodels havoids project
  · exact keeps_pure (R := Spares place) _ start
  · exact keeps_throw (R := Spares place) _ start

end Stopping

end Compiling

section Generating

variable {root : Path} {project : Project} {operation : Operation}

/-- No name of an operation leads upwards. -/
structure IsDownward (operation : Operation) : Prop where
  integration : ".." ∉ (Path.ofString operation.integration).parts
  name : ".." ∉ (Path.ofString (operation.name ++ scriptSuffix)).parts

theorem isDownward_of_plainPart {operation : Operation}
    (hintegration : Path.PlainPart operation.integration)
    (hname : Path.PlainPart operation.name) : IsDownward operation where
  integration := by
    rw [Path.ofString_of_plainPart hintegration]
    simpa using hintegration.ne_dots.symm
  name := by
    have hfile := plainPart_script hname.no_slash
    rw [Path.ofString_of_plainPart hfile]
    simpa using hfile.ne_dots.symm

/-- Everything stands in a directory, and the root is one. -/
structure HasRoot (root : Path) (ws : Workspace) : Prop where
  parents : ws.HasParents
  directory : ws.isDirectory root = true

theorem HasRoot.of_keepsWays (hroot : HasRoot root ws) (hways : KeepsWays ws ws')
    (hparents : ws'.HasParents) : HasRoot root ws' :=
  ⟨hparents, hways.isDirectory_eq hroot.directory⟩

theorem parts_filePath (root : Path) :
    (Project.filePath root).parts = root.parts ++ [Project.fileName] := by
  rw [Project.filePath, Path.child_of_plainPart (by decide)]

/-- A project that loads has a project file. -/
theorem exists_locate_of_load (hload : Project.load ws root = .ok project) :
    ∃ place content, ws.locate (Project.filePath root) = .entry place (.file content) := by
  rw [Project.load, Workspace.read?] at hload
  split at hload
  · cases hload
  · next hread =>
    split at hread
    · next place content hlocate => exact ⟨place, content, hlocate⟩
    · cases hread

/-- The root of a project that loads is a directory. -/
theorem isDirectory_of_load (hload : Project.load ws root = .ok project) :
    ws.isDirectory root = true := by
  obtain ⟨place, content, hlocate⟩ := exists_locate_of_load hload
  rw [Workspace.locate, parts_filePath] at hlocate
  obtain ⟨location, hfind⟩ :=
    Workspace.exists_find_eq_directory (by simp) (congrArg Found.place? hlocate)
  rw [Workspace.isDirectory, Workspace.locate, hfind]

theorem gives_loadProject_iff :
    Gives (loadProject root) ws project ws' ↔ Project.load ws root = .ok project ∧ ws = ws' := by
  simp only [loadProject, gives_bind_iff, gives_get_iff, gives_orStop_iff]
  constructor
  · rintro ⟨_, _, ⟨rfl, rfl⟩, hload⟩
    exact hload
  · intro hload
    exact ⟨ws, ws, ⟨rfl, rfl⟩, hload⟩

/-- The place of a starter script lies below the root, or where an absolute name
puts it. -/
theorem leadsDown_starterPath (hroot : ws.isDirectory root = true)
    (hdown : IsDownward operation) (dialect : Dialect) :
    ws.LeadsDown (starterPath dialect root operation) := by
  have hstart := Workspace.leadsDown_of_isDirectory hroot
  have hfolder : ".." ∉ (Path.ofString operation.folder).parts := by
    rw [Operation.folder]
    cases operation.kind <;> decide
  cases dialect with
  | v1 => exact hstart.child hdown.name
  | v2 => exact ((hstart.child hdown.integration).child hfolder).child hdown.name

/-- An operation without a script has none where its starter goes. -/
theorem isFile_starterPath (hthere : ¬(operation.locate ws root).isThere ws = true)
    (dialect : Dialect) : ws.isFile (starterPath dialect root operation) = false := by
  rw [Operation.locate] at hthere
  split at hthere
  · next hnested => exact absurd hnested hthere
  · next hnested =>
    cases dialect with
    | v1 => exact Bool.eq_false_iff.mpr hthere
    | v2 => exact Bool.eq_false_iff.mpr hnested

theorem keepsParents_scaffold (root : Path) (dialect : Dialect) (modelsModule : String)
    (operation : Operation) :
    Keeps KeepsParents (scaffold root dialect modelsModule operation) := by
  refine keeps_bind keeps_get fun ws => ?_
  split
  · exact keeps_pure _
  · refine keeps_bind (keeps_change fun _ _ => keepsParents_makeDirectories) fun _ => ?_
    exact keeps_bind (keeps_change fun _ _ => keepsParents_write) fun _ => keeps_pure _

/-- A starter script is a new file. -/
theorem retains_after_scaffold (hroot : HasRoot root ws) (hdown : IsDownward operation)
    (dialect : Dialect) (modelsModule : String) :
    Retains ws ((scaffold root dialect modelsModule operation).after ws) := by
  refine after_bind (keeps_get ws) fun _ mid hget => ?_
  obtain ⟨rfl, rfl⟩ := gives_get_iff.mp hget
  split
  · exact keeps_pure (R := Retains) _ ws
  · next hthere =>
    refine after_bind (after_change fun mid hmake => (gains_makeDirectories hmake).retains)
      fun _ mid hgives => ?_
    refine after_bind (after_change fun ws' hwrite => ?_) fun _ mid _ => keeps_pure _ mid
    exact hroot.parents.retains_of_newFile (leadsDown_starterPath hroot.directory hdown dialect)
      (isFile_starterPath hthere dialect) (gives_change_iff.mp hgives) hwrite

/-- From a file system with the root on, everything that stands somewhere is
kept, and so is the root. -/
def RetainsFrom (root : Path) (ws ws' : Workspace) : Prop :=
  HasRoot root ws → Retains ws ws' ∧ HasRoot root ws'

instance : IsPreorder Workspace (RetainsFrom root) where
  refl ws hroot := ⟨refl_of Retains ws, hroot⟩
  trans _ _ _ hfirst hnext hroot :=
    ⟨trans_of Retains (hfirst hroot).1 (hnext (hfirst hroot).2).1, (hnext (hfirst hroot).2).2⟩

theorem keeps_scaffoldAll {operations : List Operation}
    (hdown : ∀ operation ∈ operations, IsDownward operation) (root : Path) (dialect : Dialect)
    (modelsModule : String) :
    Keeps (RetainsFrom root) (operations.mapM (scaffold root dialect modelsModule)) := by
  apply keeps_mapM
  intro operation hmem ws hroot
  have hretains := retains_after_scaffold hroot (hdown operation hmem) dialect modelsModule
  have hparents := keepsParents_scaffold root dialect modelsModule operation ws hroot.parents
  exact ⟨hretains, hroot.of_keepsWays hretains.keepsWays hparents⟩

/-- The settings that generating goes by: those given, or those of the project. -/
def settingsFor (ws : Workspace) (root : Path) : Option Settings → Except SettingsError Settings
  | some settings => .ok settings
  | none => Settings.load ws root

/-- Generating under some settings. -/
def generateWith (root : Path) (settings : Settings) : Build Generated := do
  let project ← loadProject root
  writeModels root project settings
  let created ← project.operations.mapM (scaffold root project.dialect settings.modelsModule)
  pure { models := settings.modelsPath root, created := created.filterMap id }

theorem run_generate {given : Option Settings} {settings : Settings}
    (hsettings : settingsFor ws root given = .ok settings) :
    (generate root given).run.run ws = (generateWith root settings).run.run ws := by
  cases given with
  | some other =>
      obtain rfl := Except.ok.inj hsettings
      have hpure : Gives (pure other) ws other ws := gives_pure_iff.mpr ⟨rfl, rfl⟩
      exact hpure.run_bind_eq
  | none =>
      have hload : Gives (loadSettings root) ws settings ws :=
        gives_bind_iff.mpr
          ⟨ws, ws, gives_get_iff.mpr ⟨rfl, rfl⟩, gives_orStop_iff.mpr ⟨hsettings, rfl⟩⟩
      exact hload.run_bind_eq

theorem after_generate_of_error {given : Option Settings} {fault : SettingsError}
    (hsettings : settingsFor ws root given = .error fault) :
    (generate root given).after ws = ws := by
  cases given with
  | some other => cases hsettings
  | none =>
      have hget : Gives get ws ws ws := gives_get_iff.mpr ⟨rfl, rfl⟩
      have hload : Settings.load ws root = .error fault := hsettings
      apply Eq.symm
      refine after_bind (R := Eq) (keeps_loadSettings root ws) fun settings mid hgives => ?_
      rw [loadSettings, Gives, hget.run_bind_eq, hload] at hgives
      cases hgives

/-- The file that a path leads to stays as it is. -/
def KeepsFile (path : Path) (place : Location) (content : ByteArray) (ws ws' : Workspace) : Prop :=
  ws.locate path = .entry place (.file content) → ws'.locate path = .entry place (.file content)

instance {content : ByteArray} : IsPreorder Workspace (KeepsFile path place content) where
  refl _ := id
  trans _ _ _ hfirst hnext := hnext ∘ hfirst

/-- Generating keeps every file that its models module does not resolve to, also
when it stops. -/
theorem keepsFile_after_generate (hparents : ws.HasParents) {given : Option Settings}
    {content : ByteArray}
    (hplace : ∀ settings, settingsFor ws root given = .ok settings →
      ws.resolve (.absolute []) (settings.modelsPath root) ≠ .absolute place)
    (hdown : ∀ project, Project.load ws root = .ok project →
      ∀ operation ∈ project.operations, IsDownward operation) :
    KeepsFile path place content ws ((generate root given).after ws) := by
  cases hsettings : settingsFor ws root given with
  | error fault =>
      rw [after_generate_of_error hsettings]
      exact id
  | ok settings =>
      rw [after, run_generate hsettings, ← after, generateWith]
      have hread := keeps_loadProject root ws
      refine after_bind (hread ▸ refl_of (KeepsFile path place content) ws)
        fun project mid hgives => ?_
      obtain ⟨hload, rfl⟩ := gives_loadProject_iff.mp hgives
      refine after_bind (after_change fun mid hwrite hlocate => ?_) fun _ written hgives => ?_
      · exact (spares_write (hplace settings hsettings) hwrite).locate_eq hlocate
      · have hwrite := gives_change_iff.mp hgives
        have hstart : HasRoot root written :=
          HasRoot.of_keepsWays ⟨hparents, isDirectory_of_load hload⟩ (keepsWays_write hwrite)
            (keepsParents_write hwrite hparents)
        have hscaffold := keeps_scaffoldAll (hdown project hload) root project.dialect
          settings.modelsModule written hstart
        exact after_bind hscaffold.1.locate_eq_entry fun _ mid _ => keeps_pure _ mid

end Generating

end Build

end IntegrationBuild
