import IntegrationBuild.Proofs.Build.Planned
import IntegrationBuild.Proofs.Build.Run

/-!
Compiling a single file.  From the path of a script that was found, the
operation and the layout are told again, so that to compile the file is to run
the job of its operation, unless the directory of the project is taken for a folder
that the script lies in.
-/

namespace IntegrationBuild

/-- The operation of a name, where no two operations have one name. -/
theorem Project.operation?_eq_some {project : Project} {operation : Operation}
    (hnodup : (project.operations.map (·.name)).Nodup)
    (hmem : operation ∈ project.operations) :
    project.operation? operation.name = some operation := by
  rw [operation?]
  cases hfind : project.operations.find? (fun op => op.name == operation.name) with
  | none =>
      have hnone := List.find?_eq_none.mp hfind operation hmem
      simp at hnone
  | some other =>
      have hname : other.name = operation.name := by simpa using List.find?_some hfind
      rw [List.inj_on_of_nodup_map hnodup (List.mem_of_find?_eq_some hfind) hmem hname]

namespace Build

/-- A file lies in no folder for scripts that it could be taken to belong to. -/
def IsPlacedApart (root : Path) (location : ScriptLocation) : Prop :=
  location.nested = true ∨
    root.name ≠ OperationKind.sync.folder ∧ root.name ≠ OperationKind.action.folder

section Paths

variable {operation : Operation} {root : Path} {name : String}

theorem folder_eq (operation : Operation) :
    operation.folder = OperationKind.sync.folder ∨
      operation.folder = OperationKind.action.folder := by
  rw [Operation.folder]
  cases operation.kind with
  | sync => exact Or.inl rfl
  | action => exact Or.inr rfl

/-- A script is named for its operation, dots and all. -/
theorem stem_of_last {path : Path} (hname : Path.PlainPart name)
    (hlast : path.parts.getLast? = some (name ++ scriptSuffix)) : path.stem = name := by
  rw [Path.stem, Path.name, hlast, Option.getD_some, Path.splitName_script hname.ne_empty]

variable {project : Project} (hname : Path.PlainPart operation.name)

include hname

theorem parts_flatPath (root : Path) :
    operation.flatPath root =
      { root with parts := root.parts ++ [operation.name ++ scriptSuffix] } := by
  rw [Operation.flatPath, Path.child_of_plainPart (plainPart_script hname.no_slash)]

variable (hintegration : Path.PlainPart operation.integration)

include hintegration

theorem parts_nestedPath (root : Path) :
    operation.nestedPath root =
      { root with parts := root.parts ++
          [operation.integration, operation.folder, operation.name ++ scriptSuffix] } := by
  rw [Operation.nestedPath, Path.child_of_plainPart (plainPart_script hname.no_slash),
    Path.child_of_plainPart (plainPart_folder operation),
    Path.child_of_plainPart hintegration]
  simp

/-- The operation is told from the path of a script in the folder of its
integration. -/
theorem operationOf?_nestedPath (hlookup : project.operation? operation.name = some operation) :
    operationOf? project (operation.nestedPath root) = some operation := by
  have hparts := parts_nestedPath hname hintegration root
  have hstem : (operation.nestedPath root).stem = operation.name :=
    stem_of_last hname (by simp [hparts])
  have hway : (operation.nestedPath root).allParts.reverse =
      (operation.name ++ scriptSuffix) :: operation.folder :: operation.integration ::
        root.allParts.reverse := by
    rw [hparts, Path.allParts, Path.allParts, Path.isAbsolute, Path.isAbsolute]
    split <;> simp
  rw [operationOf?, hstem, hlookup, hway]
  simp

omit hintegration in
/-- The operation is told from the path of a script at the root, unless the root
looks like a folder for scripts. -/
theorem operationOf?_flatPath (hlookup : project.operation? operation.name = some operation)
    (hroot : root.isAbsolute = true) (hapart : root.name ≠ OperationKind.sync.folder ∧
      root.name ≠ OperationKind.action.folder) :
    operationOf? project (operation.flatPath root) = some operation := by
  have hparts := parts_flatPath hname root
  have hstem : (operation.flatPath root).stem = operation.name :=
    stem_of_last hname (by simp [hparts])
  have hway : (operation.flatPath root).allParts.reverse =
      (operation.name ++ scriptSuffix) :: root.allParts.reverse := by
    rw [hparts, Path.allParts, Path.allParts, Path.isAbsolute, Path.isAbsolute]
    split <;> simp
  rw [operationOf?, hstem, hlookup, hway, Path.allParts, if_pos hroot]
  rw [Path.name] at hapart
  rcases List.eq_nil_or_concat root.parts with hnil | ⟨init, last, hlast⟩
  · simp [hnil]
  · rw [hlast, List.concat_eq_append, List.getLast?_concat, Option.getD_some] at hapart
    obtain ⟨above, rest, habove⟩ : ∃ above rest, (root.root :: init).reverse = above :: rest :=
      List.exists_cons_of_ne_nil (by simp)
    have hfolders : (root.root :: root.parts).reverse = last :: above :: rest := by
      rw [hlast, List.concat_eq_append, ← List.cons_append, List.reverse_append, habove]
      rfl
    rw [hfolders]
    simp [hapart.1, hapart.2]

/-- A script lies below the root by plain parts. -/
theorem exists_parts_locate (ws : Workspace) (root : Path) :
    ∃ parts, parts ≠ [] ∧ (∀ part ∈ parts, Path.PlainPart part) ∧
      (operation.locate ws root).path = { root with parts := root.parts ++ parts } := by
  have hfile := plainPart_script hname.no_slash
  rw [Operation.locate]
  split
  · refine ⟨_, List.cons_ne_nil _ _, ?_, parts_nestedPath hname hintegration root⟩
    simp only [List.forall_mem_cons]
    exact ⟨hintegration, plainPart_folder operation, hfile, by simp⟩
  · refine ⟨_, List.cons_ne_nil _ _, ?_, parts_flatPath hname root⟩
    simpa using hfile

end Paths

section Files

variable {ws : Workspace} {cwd out : Path} {options : BuildOptions}

/-- Whatever is named below the root can be paired with its compiled form. -/
theorem exists_fileToCompile (hroot : options.root.isAbsolute = true)
    (hout : options.outputPath ws cwd = .ok out) {parts : List String}
    (hparts : ∀ part ∈ parts, Path.PlainPart part) (hne : parts ≠ []) :
    ∃ file, fileToCompile ws cwd options
        { options.root with parts := options.root.parts ++ parts } = .ok file ∧
      file.input = { options.root with parts := options.root.parts ++ parts } := by
  have habsolute : Path.isAbsolute { options.root with parts := options.root.parts ++ parts } :=
    hroot
  have hinput := Path.join_of_absolute habsolute options.root
  have hshown : Path.shown ws cwd { options.root with parts := options.root.parts ++ parts }
      options.root = { parts := parts } := Path.shown_of_spelled rfl rfl
  have hresolved : Path.resolvedToShow { options.root with parts := options.root.parts ++ parts }
      options.root = [] := Path.resolvedToShow_of_spelled rfl rfl
  generalize ({ options.root with parts := options.root.parts ++ parts } : Path) = path at *
  obtain ⟨dirs, last, rfl⟩ := (List.eq_nil_or_concat' parts).resolve_left hne
  have hcompiled := compiledPath_of_shown hshown hparts out
  rw [← hinput] at hresolved hcompiled
  refine ⟨⟨_, _⟩, fileToCompile_eq_ok_iff.mpr ⟨out, hout, ?_, hcompiled, rfl⟩, hinput⟩
  rw [hresolved, resolveAll_nil]

end Files

section Jobs

variable {host : Host} {options : BuildOptions} {project : Project} {location : ScriptLocation}
  {ws ws' : Workspace}

/-- From the path of a script, its location is told again: to compile the file is
to run the job of its operation, whatever the file system. -/
theorem compileSingle_eq (hnodup : (project.operations.map (·.name)).Nodup)
    (hlisted : (job project options location).IsListed ws)
    (hname : Path.PlainPart location.operation.name)
    (hintegration : Path.PlainPart location.operation.integration)
    (hroot : options.root.isAbsolute = true) (hapart : IsPlacedApart options.root location) :
    compileSingle host project project.modelsSource project.modelNames options location.path =
      some <$> (job project options location).run host := by
  have hlookup := Project.operation?_eq_some hnodup hlisted.operation
  have hlocated : location = location.operation.locate ws options.root := hlisted.located
  generalize location.operation = operation at hlocated hlookup hname hintegration
  rw [Operation.locate] at hlocated
  split at hlocated
  · subst hlocated
    have hfolder : (operation.nestedPath options.root).parent.name = operation.folder := by
      simp [parts_nestedPath hname hintegration, Path.parent, Path.name]
    rw [compileSingle, operationOf?_nestedPath hname hintegration hlookup]
    simp only [hfolder, beq_self_eq_true, if_true, map_eq_pure_bind]
    rfl
  · subst hlocated
    have hroots := hapart.resolve_left Bool.false_ne_true
    have hfolder : ((operation.flatPath options.root).parent.name == operation.folder) = false := by
      have hname : (operation.flatPath options.root).parent.name = options.root.name := by
        simp [parts_flatPath hname, Path.parent, Path.name]
      rw [hname]
      rcases folder_eq operation with hfolder | hfolder
      · simpa [hfolder] using hroots.1
      · simpa [hfolder] using hroots.2
    rw [compileSingle, operationOf?_flatPath hname hlookup hroot hroots]
    simp only [hfolder, Bool.false_eq_true, if_false, map_eq_pure_bind]
    rfl

/-- Jobs in a row have the turn of any one of them in their midst. -/
theorem gives_runAll_append_cons {before after : List ScriptLocation} {files : List FileResult}
    (hgives : Gives (runAll host options project (before ++ location :: after)) ws files ws') :
    ∃ results mid result next others,
      Gives (runAll host options project before) ws results mid ∧
      Gives ((job project options location).run host) mid result next ∧
      Gives (runAll host options project after) next others ws' ∧
      files = results ++ result :: others := by
  simp only [runAll, List.mapM_append, List.mapM_cons, gives_bind_iff, gives_pure_iff] at hgives
  obtain ⟨results, mid, hbefore, _, _, ⟨result, next, hrun, others, _, hafter, rfl, rfl⟩, rfl,
    rfl⟩ := hgives
  exact ⟨results, mid, result, next, others, hbefore, hrun, hafter, rfl⟩

end Jobs

variable {host : Host} {options : BuildOptions} {project : Project} {start final : Workspace}
  {report : BuildReport}

/-- Every script that a build finds can be compiled as a single file, on the
file system on which its turn comes: this gives the result that the report has
for its operation, and leaves what the turn leaves.  Only a script beside the project
file is not told again where the directory of the project is named like a folder for
scripts. -/
theorem exists_gives_compileSingle (hroot : options.root.isAbsolute = true)
    (hload : Project.load start options.root = .ok project)
    (hintegrations : ∀ integration ∈ project.integrations, Path.PlainPart integration.name)
    (hoperations : ∀ operation ∈ project.operations, Path.PlainPart operation.name)
    (hgives : Gives (compileProject host options) start report final) :
    ∃ course : Course host options project start report final,
      ∀ before location after, course.locations = before ++ location :: after →
        IsPlacedApart options.root location →
        ∃ file results mid result next others,
          fileToCompile start host.cwd options location.path = .ok file ∧
          Gives (runAll host options project before) course.prepared results mid ∧
          Gives (compileSingle host project project.modelsSource project.modelNames options
            file.input) mid (some result) next ∧
          Gives (runAll host options project after) next others course.compiled ∧
          report.files = results ++ result :: others ∧
          result.operation = location.operation.name := by
  obtain ⟨course⟩ := nonempty_course_of_load hload hgives
  refine ⟨course, fun before location after hsplit hapart => ?_⟩
  have hlisted := isListed_of_scripts course.finds location (by simp [hsplit])
  have hname := hoperations _ hlisted.operation
  have hintegration :=
    Project.plainPart_integration hload hintegrations _ hlisted.operation
  obtain ⟨parts, hne, hparts, hpath⟩ :=
    exists_parts_locate hname hintegration course.prepared options.root
  have hlocated : location.path = { options.root with parts := options.root.parts ++ parts } := by
    rw [← hpath]
    exact congrArg ScriptLocation.path hlisted.located
  obtain ⟨file, hfile, hinput⟩ :=
    exists_fileToCompile hroot (gives_prepare_iff.mp course.prepares).1 hparts hne
  obtain ⟨results, mid, result, next, others, hbefore, hrun, hafter, hfiles⟩ :=
    gives_runAll_append_cons (hsplit ▸ course.runs)
  refine ⟨file, results, mid, result, next, others, hlocated ▸ hfile, hbefore, ?_, hafter, hfiles,
    ScriptJob.operation_of_gives_run hrun⟩
  rw [hinput, ← hlocated, compileSingle_eq (Project.closed_of_load hload).operationNames_nodup
    hlisted hname hintegration hroot hapart, map_eq_pure_bind]
  exact gives_bind_iff.mpr ⟨result, next, hrun, gives_pure_iff.mpr ⟨rfl, rfl⟩⟩

/-- Each script of the pair can be compiled as a single file when its turn comes. -/
theorem exists_gives_compileSingle_pair :
    ∃ project report final,
      Project.load pairWorkspace pairOptions.root = .ok project ∧
      report.success = true ∧
      ∃ course : Course pairHost pairOptions project pairWorkspace report final,
        ∀ before location after, course.locations = before ++ location :: after →
          ∃ file results mid result next,
            fileToCompile pairWorkspace pairHost.cwd pairOptions location.path = .ok file ∧
            Gives (runAll pairHost pairOptions project before) course.prepared results mid ∧
            Gives (compileSingle pairHost project project.modelsSource project.modelNames
              pairOptions file.input) mid (some result) next ∧
            result ∈ report.files := by
  obtain ⟨project, report, final, hload, hrun, hsuccess⟩ := exists_pairRun_eq
  obtain ⟨hintegrations, hoperations⟩ := isPlain_pair.names project hload
  obtain ⟨course, hcourse⟩ :=
    exists_gives_compileSingle (by decide) hload hintegrations hoperations hrun
  refine ⟨project, report, final, hload, hsuccess, course, fun before location after hsplit => ?_⟩
  obtain ⟨file, results, mid, result, next, others, hfile, hbefore, hsingle, -, hfiles, -⟩ :=
    hcourse before location after hsplit (Or.inr (by decide))
  exact ⟨file, results, mid, result, next, hfile, hbefore, hsingle, by simp [hfiles]⟩

section Folder

/-- What is no operation's script is not compiled, in any file system. -/
theorem gives_compileSingle_none {path : Path} (hnone : operationOf? project path = none)
    (hshown : path.resolvedToShow options.root = []) (modelsSource : String)
    (modelNames : List String) (ws : Workspace) :
    Gives (compileSingle host project modelsSource modelNames options path) ws none ws := by
  rw [compileSingle, hnone]
  simp only [gives_bind_iff, gives_get_iff, gives_orStop_iff, gives_pure_iff, hshown,
    resolveAll_nil]
  exact ⟨ws, ws, ⟨rfl, rfl⟩, (), ws, ⟨trivial, rfl⟩, trivial, rfl⟩

/-- A project in a directory that is named like a folder for scripts, with its script
beside the project file. -/
def folderWorkspace : Workspace :=
  { entries :=
      [(["x"], .directory), (["x", "syncs"], .directory),
        (["x", "syncs", "nango.yaml"], .file ("\x7bintegrations: \x7bgithub: \x7bsyncs: " ++
          "\x7bissues: \x7bendpoint: GET /issues\x7d\x7d\x7d\x7d\x7d").toUTF8),
        (["x", "syncs", "issues.py"], .file "async def fetch_data(nango): pass\n".toUTF8)] }

def folderOptions : BuildOptions :=
  { root := .absolute ["x", "syncs"], outDir := some (.absolute ["x", "syncs", "dist"]) }

def folderScript : Path := .absolute ["x", "syncs", "issues.py"]

/-- The script is found, and it is reported to pass; but its path is not taken for that
of an operation's script. -/
def folderAnswers (project : Project) (locations : List ScriptLocation)
    (report : BuildReport) : Prop :=
  ((∀ integration ∈ project.integrations, Path.PlainPart integration.name) ∧
    ∀ operation ∈ project.operations, Path.PlainPart operation.name) ∧
  (∃ location ∈ locations, location.path = folderScript ∧
    ∃ result ∈ report.files, result.operation = location.operation.name ∧
      result.ok = true) ∧
  operationOf? project folderScript = none

instance (project : Project) (locations : List ScriptLocation) (report : BuildReport) :
    Decidable (folderAnswers project locations report) := by
  unfold folderAnswers
  infer_instance

theorem exists_folderAnswers : ∃ project report final,
    Project.load folderWorkspace folderOptions.root = .ok project ∧
      Gives (compileProject pairHost folderOptions) folderWorkspace report final ∧
      ∃ locations, project.scripts folderWorkspace pairHost.cwd folderOptions.root "dist" false =
          .ok locations ∧ folderAnswers project locations report := by
  obtain ⟨project, report, final, hload, hrun, hanswers⟩ : ∃ project report final,
      Project.load folderWorkspace folderOptions.root = .ok project ∧
        Gives (compileProject pairHost folderOptions) folderWorkspace report final ∧
        (project.scripts folderWorkspace pairHost.cwd folderOptions.root "dist"
          false).toOption.any (fun locations => decide (folderAnswers project locations report)) =
          true :=
    exists_report_of_decide (by decide +kernel)
  exact ⟨project, report, final, hload, hrun, Outcome.exists_ok_of_decide hanswers⟩

/-- A script that a build finds and reports to pass is no operation's script when it is
compiled as a single file, whatever the file system: the directory of the project is
taken for the folder that the script lies in. -/
theorem exists_compileSingle_none :
    ∃ project locations report final,
      Project.load folderWorkspace folderOptions.root = .ok project ∧
      (∀ integration ∈ project.integrations, Path.PlainPart integration.name) ∧
      (∀ operation ∈ project.operations, Path.PlainPart operation.name) ∧
      project.scripts folderWorkspace pairHost.cwd folderOptions.root "dist" false =
        .ok locations ∧
      Gives (compileProject pairHost folderOptions) folderWorkspace report final ∧
      ∃ location ∈ locations, ∃ result ∈ report.files,
        result.operation = location.operation.name ∧ result.ok = true ∧
        ∃ file, fileToCompile folderWorkspace pairHost.cwd folderOptions location.path =
            .ok file ∧
          ∀ ws, Gives (compileSingle pairHost project project.modelsSource project.modelNames
            folderOptions file.input) ws none ws := by
  obtain ⟨project, report, final, hload, hrun, locations, hscripts, hanswers⟩ :=
    exists_folderAnswers
  obtain ⟨⟨hintegrations, hoperations⟩, ⟨location, hlocation, hpath, result, hresult, hname,
    hok⟩, hnone⟩ := hanswers
  have hout : folderOptions.outputPath folderWorkspace pairHost.cwd =
      .ok (.absolute ["x", "syncs", "dist"]) := rfl
  have hplain : ∀ part ∈ ["issues.py"], Path.PlainPart part := by decide
  obtain ⟨file, hfile, hinput⟩ := exists_fileToCompile rfl hout hplain (List.cons_ne_nil _ _)
  refine ⟨project, locations, report, final, hload, hintegrations, hoperations, hscripts,
    hrun, location, hlocation, result, hresult, hname, hok, file, hpath ▸ hfile, fun ws => ?_⟩
  rw [hinput]
  exact gives_compileSingle_none hnone (Path.resolvedToShow_of_spelled rfl rfl) _ _ ws

end Folder

end Build

end IntegrationBuild
