import IntegrationBuild.Proofs.Build.Plan
import IntegrationBuild.Proofs.Schema.Closed
import IntegrationBuild.Proofs.Settings.Output

/-!
The course of a build: it is prepared, the scripts are found, their jobs are
run, and the report is written.  What is prepared is there when the jobs begin.
-/

namespace IntegrationBuild

theorem Project.exists_projectOf_of_load {ws : Workspace} {root : Path} {project : Project}
    (hload : Project.load ws root = .ok project) :
    ∃ path entries, Schema.projectOf path entries = .ok project := by
  rw [Project.load] at hload
  split at hload
  · cases hload
  · rw [Project.ofBytes] at hload
    split at hload
    · cases hload
    · split at hload
      · rw [Project.ofValue.eq_def] at hload
        split at hload
        · split at hload
          · next hproject =>
            obtain rfl := Except.ok.inj hload
            exact ⟨_, _, hproject⟩
          · cases hload
        · cases hload
      · cases hload
      · cases hload
      · cases hload

theorem Project.closed_of_load {ws : Workspace} {root : Path} {project : Project}
    (hload : Project.load ws root = .ok project) : project.Closed := by
  obtain ⟨path, entries, hproject⟩ := Project.exists_projectOf_of_load hload
  exact Schema.closed_projectOf hproject

/-- What the operations of a loaded project put out is in the normal form over its
models. -/
theorem Project.normal_of_load {ws : Workspace} {root : Path} {project : Project}
    (hload : Project.load ws root = .ok project) {op : Operation}
    (hop : op ∈ project.operations) :
    ∀ type ∈ op.output, TypeExpr.Normal project.modelNames .whole type := by
  obtain ⟨path, entries, hproject⟩ := Project.exists_projectOf_of_load hload
  obtain ⟨integration, hnormal⟩ := Schema.exists_operationNormal_projectOf hproject op hop
  exact hnormal.output

/-- The operations of a loaded project belong to its integrations. -/
theorem Project.plainPart_integration {ws : Workspace} {root : Path} {project : Project}
    (hload : Project.load ws root = .ok project)
    (hnames : ∀ integration ∈ project.integrations, Path.PlainPart integration.name) :
    ∀ operation ∈ project.operations, Path.PlainPart operation.integration := by
  intro operation hoperation
  obtain ⟨integration, hmem, hhome⟩ := List.mem_flatMap.mp hoperation
  rw [(Project.closed_of_load hload).operations_home integration hmem operation hhome]
  exact hnames integration hmem

namespace Build

/-- A build of a project without links, in which everything has a plain name,
into the output directory of its settings. -/
structure IsPlain (host : Host) (options : BuildOptions) (start : Workspace) : Prop where
  tree : start.IsTree
  places : ∀ place ∈ start.entries, ∀ part ∈ place.1, Path.PlainPart part
  cwd : host.cwd.Plain
  root : options.root.Plain
  models : Settings.isModuleFile options.settings.modelsFile = true
  outDir : ∀ path, options.outDir = some path →
    Settings.outputPath start host.cwd options.root options.settings.outputDir = .ok path
  names : ∀ project, Project.load start options.root = .ok project →
    (∀ integration ∈ project.integrations, Path.PlainPart integration.name) ∧
      ∀ operation ∈ project.operations, Path.PlainPart operation.name

theorem IsPlain.site {host : Host} {options : BuildOptions} {start : Workspace}
    {project : Project} {out : Path} (hplain : IsPlain host options start)
    (hload : Project.load start options.root = .ok project)
    (hout : options.outputPath start host.cwd = .ok out) : Site host options project out := by
  obtain ⟨hintegrations, hoperations⟩ := hplain.names project hload
  have hsettings :
      Settings.outputPath start host.cwd options.root options.settings.outputDir = .ok out := by
    rw [BuildOptions.outputPath] at hout
    split at hout
    · next path hpath =>
      obtain rfl := Except.ok.inj hout
      exact hplain.outDir path hpath
    · exact hout
  have hbelow := Settings.isBelow_of_outputPath hplain.tree hplain.root hsettings
  refine ⟨hplain.cwd, hplain.root, hbelow.plain, hbelow.below, hbelow.strict, ?_, hintegrations,
    ?_⟩
  · intro ws htree
    rw [← hout, BuildOptions.outputPath, BuildOptions.outputPath,
      Settings.outputPath_congr htree hplain.tree]
  · intro operation hoperation
    exact ⟨hoperations operation hoperation,
      Project.plainPart_integration hload hintegrations operation hoperation⟩

/-- Everything that a build does before it looks for scripts. -/
def prepare (host : Host) (options : BuildOptions) (project : Project) : Build Path := do
  let out ← orStop .settings (options.outputPath (← get) host.cwd)
  makeDirectories out
  writeModelsArtifacts host project options out
  pure out

/-- The jobs of some scripts, one after the other. -/
def runAll (host : Host) (options : BuildOptions) (project : Project)
    (locations : List ScriptLocation) : Build (List FileResult) :=
  locations.mapM fun location => (job project options location).run host

/-- The course of a build that comes to its end: the output directory, the file
system once all is prepared, the scripts that take part, and the file system
once their jobs are done. -/
structure Course (host : Host) (options : BuildOptions) (project : Project)
    (start : Workspace) (report : BuildReport) (final : Workspace) where
  out : Path
  prepared : Workspace
  locations : List ScriptLocation
  compiled : Workspace
  prepares : Gives (prepare host options project) start out prepared
  finds : project.scripts prepared host.cwd options.root
    (outputFolder prepared host.cwd out options.root) options.settings.nestedIgnore =
      .ok locations
  workers : 0 < options.workerCount
  runs : Gives (runAll host options project locations) prepared report.files compiled
  report_eq : report = { success := report.files.all (·.ok), files := report.files }
  reports : Gives (writeJson (out.child reportDocument) report.toJson) compiled () final

variable {host : Host} {options : BuildOptions} {project : Project} {start final : Workspace}
  {report : BuildReport}

theorem compileLoaded_eq (host : Host) (options : BuildOptions) (project : Project) :
    compileLoaded host options project = (do
      let out ← prepare host options project
      let ws ← get
      let locations ← orStop .ignored (project.scripts ws host.cwd options.root
        (outputFolder ws host.cwd out options.root) options.settings.nestedIgnore)
      if options.workerCount ≤ 0 then throw .noWorkers
      let files ← runAll host options project locations
      let report : BuildReport := { success := files.all (·.ok), files := files }
      writeJson (out.child reportDocument) report.toJson
      pure report) := by
  simp only [prepare, bind_assoc, pure_bind]
  rfl

/-- A build that comes to its end has taken its course. -/
theorem gives_compileLoaded_iff :
    Gives (compileLoaded host options project) start report final ↔
      Nonempty (Course host options project start report final) := by
  rw [compileLoaded_eq]
  simp only [gives_bind_iff, gives_get_iff, gives_orStop_iff]
  constructor
  · rintro ⟨out, prepared, hprepare, _, _, ⟨rfl, rfl⟩, locations, _, ⟨hscripts, rfl⟩, hrest⟩
    split at hrest
    · obtain ⟨_, _, hthrow, -⟩ := gives_bind_iff.mp hrest
      exact absurd hthrow not_gives_throw
    · next hworkers =>
      simp only [gives_bind_iff, gives_pure_iff] at hrest
      obtain ⟨files, compiled, hruns, _, _, hreport, rfl, rfl⟩ := hrest
      exact ⟨⟨out, prepared, locations, compiled, hprepare, hscripts, not_le.mp hworkers, hruns,
        rfl, hreport⟩⟩
  · rintro ⟨course⟩
    refine ⟨course.out, course.prepared, course.prepares, _, _, ⟨rfl, rfl⟩, course.locations, _,
      ⟨course.finds, rfl⟩, ?_⟩
    rw [if_neg (not_le.mpr course.workers)]
    simp only [gives_bind_iff, gives_pure_iff]
    refine ⟨report.files, course.compiled, course.runs, (), final, ?_, course.report_eq.symm, rfl⟩
    rw [← course.report_eq]
    exact course.reports

theorem gives_compileProject_iff :
    Gives (compileProject host options) start report final ↔
      (∃ project, Project.load start options.root = .ok project ∧
        Gives (compileLoaded host options project) start report final) ∨
      (∃ error, Project.load start options.root = .error (.schema error) ∧
        report = { success := false, error := some error.message } ∧ start = final) := by
  simp only [compileProject, gives_bind_iff, gives_get_iff]
  constructor
  · rintro ⟨_, _, ⟨rfl, rfl⟩, hgives⟩
    split at hgives
    · next project hload => exact Or.inl ⟨project, hload, hgives⟩
    · next error hload =>
      obtain ⟨rfl, rfl⟩ := gives_pure_iff.mp hgives
      exact Or.inr ⟨error, hload, rfl, rfl⟩
    · exact absurd hgives not_gives_throw
  · rintro (⟨project, hload, hgives⟩ | ⟨error, hload, rfl, rfl⟩)
    · refine ⟨start, start, ⟨rfl, rfl⟩, ?_⟩
      rw [hload]
      exact hgives
    · refine ⟨start, start, ⟨rfl, rfl⟩, ?_⟩
      rw [hload]
      exact gives_pure_iff.mpr ⟨rfl, rfl⟩

/-- A build of a project that loads has taken its course. -/
theorem nonempty_course_of_load (hload : Project.load start options.root = .ok project)
    (hgives : Gives (compileProject host options) start report final) :
    Nonempty (Course host options project start report final) := by
  rcases gives_compileProject_iff.mp hgives with ⟨other, hother, hgives⟩ | ⟨error, herror, -⟩
  · cases hload.symm.trans hother
    exact gives_compileLoaded_iff.mp hgives
  · cases hload.symm.trans herror

/-- A computation shows that a project loads and is compiled to a report, and leaves a
file system, with a property. -/
theorem exists_report_of_decide {P : Project → BuildReport → Workspace → Prop}
    [∀ project report final, Decidable (P project report final)]
    (hholds : (Project.load start options.root).toOption.any (fun project =>
      ((compileProject host options).run.run start).1.toOption.any fun report =>
        decide (P project report ((compileProject host options).run.run start).2)) = true) :
    ∃ project report final, Project.load start options.root = .ok project ∧
      Gives (compileProject host options) start report final ∧ P project report final := by
  rcases hrun : (compileProject host options).run.run start with ⟨outcome, final⟩
  rw [hrun] at hholds
  cases hload : Project.load start options.root with
  | error _ => simp [hload, Except.toOption] at hholds
  | ok project =>
      cases outcome with
      | error _ => simp [hload, Except.toOption] at hholds
      | ok report =>
          refine ⟨project, report, final, rfl, hrun, ?_⟩
          simpa [hload, Except.toOption] using hholds

section Pair

/-- A project of two scripts that import each other. -/
def pairWorkspace : Workspace :=
  { entries :=
      [(["p"], .directory),
        (["p", "nango.yaml"], .file ("\x7bintegrations: \x7bg: \x7bsyncs: " ++
          "\x7ba: \x7bendpoint: GET /a\x7d, b: \x7bendpoint: GET /b\x7d\x7d\x7d\x7d\x7d").toUTF8),
        (["p", "g"], .directory), (["p", "g", "syncs"], .directory),
        (["p", "g", "syncs", "a.py"],
          .file "from . import b\nasync def fetch_data(nango): pass\n".toUTF8),
        (["p", "g", "syncs", "b.py"],
          .file "from . import a\nasync def fetch_data(nango): pass\n".toUTF8)] }

def pairHost : Host := ⟨.absolute [], checkingCompiler⟩

def pairOptions : BuildOptions :=
  { root := .absolute ["p"], outDir := some (.absolute ["p", "dist"]) }

/-- What the build of the pair comes to. -/
def pairRun : Except BuildError BuildReport × Workspace :=
  (compileProject pairHost pairOptions).run.run pairWorkspace

theorem exists_pairRun_eq_and_names : ∃ project report final,
    Project.load pairWorkspace pairOptions.root = .ok project ∧ pairRun = (.ok report, final) ∧
      report.success = true ∧ (∀ integration ∈ project.integrations, integration.name = "g") ∧
      ∀ operation ∈ project.operations,
        operation.integration = "g" ∧ Path.PlainPart operation.name :=
  exists_report_of_decide (by decide +kernel)

/-- Both scripts of the pair are compiled. -/
theorem exists_pairRun_eq : ∃ project report final,
    Project.load pairWorkspace pairOptions.root = .ok project ∧
      pairRun = (.ok report, final) ∧ report.success = true := by
  obtain ⟨project, report, final, hload, hrun, hsuccess, -⟩ := exists_pairRun_eq_and_names
  exact ⟨project, report, final, hload, hrun, hsuccess⟩

/-- The two scripts belong to one integration. -/
theorem names_pair {project : Project}
    (hload : Project.load pairWorkspace pairOptions.root = .ok project) :
    (∀ integration ∈ project.integrations, integration.name = "g") ∧
      ∀ operation ∈ project.operations,
        operation.integration = "g" ∧ Path.PlainPart operation.name := by
  obtain ⟨loaded, _, _, hloaded, -, -, hnames⟩ := exists_pairRun_eq_and_names
  cases hload.symm.trans hloaded
  exact hnames

theorem isPlain_pair : IsPlain pairHost pairOptions pairWorkspace where
  tree := Workspace.isTree_of_all (by decide)
  places := by
    intro place hplace
    simp only [pairWorkspace, List.mem_cons, List.not_mem_nil, or_false] at hplace
    rcases hplace with rfl | rfl | rfl | rfl | rfl | rfl <;> decide
  cwd := by decide
  root := by decide
  models := by decide +kernel
  outDir := by
    intro path hpath
    cases hpath
    have hstart : ("dist".startsWith "~") = false := by simp
    have hnull : ("dist".contains '\x00') = false := by simp
    rw [show pairOptions.settings.outputDir = "dist" from rfl, Settings.outputPath, hstart, hnull]
    rfl
  names := by
    intro project hload
    obtain ⟨hintegrations, hoperations⟩ := names_pair hload
    refine ⟨fun integration hmem => ?_, fun operation hmem => (hoperations operation hmem).2⟩
    rw [hintegrations integration hmem]
    decide

end Pair

end Build

end IntegrationBuild
