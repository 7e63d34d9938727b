import IntegrationBuild.Proofs.Build.Descent
import IntegrationBuild.Proofs.Build.Planned

/-!
Where generating and compiling write.  Starter scripts and the models module go
below the root, compiled scripts and documents below the output directory, links
followed, as long as no path leads above its base by its text or along a link.
Names are not checked for that: one that leads upwards takes files out.
-/

namespace IntegrationBuild

open IntegrationBuild.Path (AreNames NeverAbove)
open Workspace (Confined GoesInto SameLinks confined_write gains_makeDirectories)

variable {start : Workspace} {region : Location → Prop}

section Steps

/-- As long as no link has changed, what changes is confined to a region. -/
def ConfinesFrom (start : Workspace) (region : Location → Prop) (ws ws' : Workspace) : Prop :=
  SameLinks start ws → Confined region ws ws'

instance : IsPreorder Workspace (ConfinesFrom start region) where
  refl ws _ := refl_of (Confined region) ws
  trans _ _ _ hfirst hnext hlinks :=
    trans_of (Confined region) (hfirst hlinks)
      (hnext (trans_of SameLinks hlinks (hfirst hlinks).links))

/-- As long as no link changes, a path leads only into a region. -/
def StaysIn (start : Workspace) (region : Location → Prop) (path : Path) : Prop :=
  ∀ ws, SameLinks start ws → ∀ place, (ws.locate path).place? = some place → region place

theorem staysIn_of_resolve {path : Path}
    (hregion : ∀ place, start.resolve (.absolute []) path = .absolute place → region place) :
    StaysIn start region path := by
  intro ws hlinks place hlocate
  apply hregion
  rw [hlinks.resolve_eq]
  exact Workspace.resolve_of_locate hlocate

theorem staysIn_of_goesInto {base path : Path} (hinto : start.GoesInto base path)
    (hregion : ∀ place, start.IsInside base place → region place) :
    StaysIn start region path := by
  intro ws hlinks place hlocate
  apply hregion
  rw [Workspace.IsInside, hlinks.resolve_eq]
  exact (hinto.of_sameLinks hlinks).isInside_of_locate hlocate

namespace Build

variable {α : Type} {path : Path}

theorem confines_makeDirectories (path : Path) :
    Keeps (ConfinesFrom start region) (makeDirectories path) :=
  keeps_change fun _ _ hmake _ => (gains_makeDirectories hmake).confined

theorem confines_write (hpath : StaysIn start region path) (content : ByteArray) :
    Keeps (ConfinesFrom start region) (write path content) :=
  keeps_change fun ws _ hwrite hlinks => confined_write (hpath ws hlinks) hwrite

theorem confines_writeJson (hpath : StaysIn start region path) (json : Json) :
    Keeps (ConfinesFrom start region) (writeJson path json) := by
  refine keeps_bind (confines_makeDirectories _) fun _ => ?_
  split
  · exact confines_write hpath _
  · exact keeps_throw _

theorem confines_byteCompile {output : Path} (houtput : StaysIn start region output) (host : Host)
    (root source : Path) :
    Keeps (ConfinesFrom start region) (byteCompile host root source output) :=
  keeps_byteCompile (confines_makeDirectories _) fun ws _ _ _ hwrite hlinks =>
    confined_write (houtput ws hlinks) hwrite

end Build

end Steps

namespace Build

section Compiling

variable {host : Host} {options : BuildOptions} {project : Project} {out : Path}

/-- A place that a build may write to: that of the models module, or one inside the
output directory. -/
def IsTarget (options : BuildOptions) (out : Path) (ws : Workspace) (place : Location) : Prop :=
  ws.resolve (.absolute []) (options.settings.modelsPath options.root) = .absolute place ∨
    ws.IsInside out place

/-- Paths are as they are read from texts, and no link leads out of the output
directory of a build. -/
structure Encloses (host : Host) (options : BuildOptions) (out : Path) (start : Workspace) :
    Prop where
  root : options.root.IsRead
  cwd : AreNames host.cwd.parts
  models : Settings.isModuleFile options.settings.modelsFile = true
  accepted : options.outputPath start host.cwd = .ok out
  noLink : ∀ more, more ≠ [] →
    ¬start.LinkAt ((start.resolve (.absolute []) out).parts ++ more)

variable (hencloses : Encloses host options out start)

include hencloses

theorem Encloses.staysIn_of_parts {path : Path} {rest : List String}
    (hparts : path.parts = out.parts ++ rest) (hrest : NeverAbove 0 rest) :
    StaysIn start (IsTarget options out start) path :=
  staysIn_of_goesInto (Workspace.goesInto_of_neverAbove hparts hrest hencloses.noLink)
    fun _ => Or.inr

theorem Encloses.staysIn_document {name : String} (hname : Path.PlainPart name) :
    StaysIn start (IsTarget options out start) (out.child name) := by
  have hrest : NeverAbove 0 [name] := .of_names (by simpa using hname.ne_dots.symm)
  exact hencloses.staysIn_of_parts (by rw [Path.child_of_plainPart hname]) hrest

theorem Encloses.staysIn_compiledModels :
    StaysIn start (IsTarget options out start) (compiledModels out options.settings) := by
  obtain ⟨stem, -, -, -, hcompiled⟩ := exists_modelsPath hencloses.models out out
  have hrest : NeverAbove 0 ([] ++ [stem ++ compiledSuffix]) :=
    .of_names (by simpa using (compiled_ne_dots stem).symm)
  exact hencloses.staysIn_of_parts (by rw [hcompiled]) hrest

/-- A file whose path never leads above the root is compiled into the output
directory. -/
theorem Encloses.staysIn_output {job : ScriptJob} {ws : Workspace} {path output : Path}
    (hoptions : job.options = options) (hpath : path.Descends options.root)
    (hlinks : SameLinks start ws) (houtput : job.output ws host.cwd path = .ok output) :
    StaysIn start (IsTarget options out start) output := by
  obtain ⟨later, hlater, hcompiled⟩ := ScriptJob.output_eq_ok_iff.mp houtput
  rw [hoptions] at hlater hcompiled
  obtain rfl := BuildOptions.outputPath_of_sameLinks hlinks hencloses.accepted hlater
  obtain ⟨rest, hparts, hrest⟩ := hpath.exists_parts_of_compiledPath hencloses.cwd hcompiled
  exact hencloses.staysIn_of_parts hparts hrest

theorem Encloses.confines_compileFile {job : ScriptJob} {path : Path}
    (hoptions : job.options = options) (hpath : path.Descends options.root)
    (found : List String) :
    Keeps (ConfinesFrom start (IsTarget options out start)) (job.compileFile host found path) := by
  intro ws hlinks
  have hturn : ConfinesFrom start (IsTarget options out start) ws
      ((job.compileFile host found path).after ws) :=
    ScriptJob.after_compileFile fun _ houtput =>
      confines_byteCompile (hencloses.staysIn_output hoptions hpath hlinks houtput) _ _ _
  exact hturn hlinks

/-- So is everything that a script brings in. -/
theorem Encloses.confines_run {job : ScriptJob} (hoptions : job.options = options)
    (hscript : job.location.path.Descends options.root) :
    Keeps (ConfinesFrom start (IsTarget options out start)) (job.run host) :=
  ScriptJob.keeps_run
    (fun found _ hpath => hencloses.confines_compileFile hoptions hpath found)
    (fun _ _ hpath _ hhelper => ScriptJob.descends_of_mem_helpers hpath hhelper) hscript

theorem Encloses.confines_writeModelsArtifacts (project : Project) :
    Keeps (ConfinesFrom start (IsTarget options out start))
      (writeModelsArtifacts host project options out) := by
  refine keeps_bind (confines_write (staysIn_of_resolve fun _ => Or.inl) _) fun _ => ?_
  refine keeps_bind (confines_byteCompile hencloses.staysIn_compiledModels _ _ _) fun error => ?_
  cases error with
  | none => exact confines_writeJson (hencloses.staysIn_document plainPart_projectDocument) _
  | some text => exact keeps_throw _

theorem Encloses.confines_runAll {folder : String} {ws : Workspace}
    {locations : List ScriptLocation}
    (hinward : ∀ operation ∈ project.operations, operation.IsInward options.root)
    (hscripts : project.scripts ws host.cwd options.root folder options.settings.nestedIgnore =
      .ok locations) :
    Keeps (ConfinesFrom start (IsTarget options out start))
      (runAll host options project locations) := by
  refine keeps_mapM fun location hmem => ?_
  have hlisted := isListed_of_scripts hscripts location hmem
  refine hencloses.confines_run rfl ?_
  rw [hlisted.located]
  exact (hinward _ hlisted.operation).descends_locate hencloses.root ws

/-- Once the output directory is known, a build is confined to its targets. -/
theorem Encloses.confines_compileLoaded
    (hinward : ∀ operation ∈ project.operations, operation.IsInward options.root) :
    Confined (IsTarget options out start) start
      ((compileLoaded host options project).after start) := by
  have hget : Gives get start start start := gives_get_iff.mpr ⟨rfl, rfl⟩
  have hrest : Keeps (ConfinesFrom start (IsTarget options out start)) (do
      makeDirectories out
      writeModelsArtifacts host project options out
      let ws ← get
      let folder := outputFolder ws host.cwd out options.root
      let locations ← orStop .ignored
        (project.scripts ws host.cwd options.root folder options.settings.nestedIgnore)
      if options.workerCount ≤ 0 then throw .noWorkers
      let files ← locations.mapM fun location => (job project options location).run host
      let report : BuildReport := { success := files.all (·.ok), files := files }
      writeJson (out.child reportDocument) report.toJson
      pure report) := by
    refine keeps_bind (confines_makeDirectories out) fun _ => ?_
    refine keeps_bind (hencloses.confines_writeModelsArtifacts project) fun _ => ?_
    refine keeps_bind keeps_get fun ws => ?_
    refine keeps_orStop_bind fun locations hscripts => ?_
    have hjobs : Keeps (ConfinesFrom start (IsTarget options out start)) (do
        let files ← runAll host options project locations
        let report : BuildReport := { success := files.all (·.ok), files := files }
        writeJson (out.child reportDocument) report.toJson
        pure report) := by
      refine keeps_bind (hencloses.confines_runAll hinward hscripts) fun files => ?_
      refine keeps_bind (confines_writeJson ?_ _) fun _ => keeps_pure _
      exact hencloses.staysIn_document plainPart_reportDocument
    dsimp only
    split
    · exact keeps_bind (keeps_throw _) fun _ => hjobs
    · exact hjobs
  rw [after, compileLoaded, hget.run_bind_eq, hencloses.accepted]
  exact hrest start (refl_of SameLinks start)

omit hencloses in
/-- A build changes nothing, or it is confined to its targets. -/
theorem confined_after_compileProject
    (hencloses : ∀ out, options.outputPath start host.cwd = .ok out →
      Encloses host options out start)
    (hinward : ∀ project, Project.load start options.root = .ok project →
      ∀ operation ∈ project.operations, operation.IsInward options.root) :
    (compileProject host options).after start = start ∨
      ∃ out, options.outputPath start host.cwd = .ok out ∧
        Confined (IsTarget options out start) start
          ((compileProject host options).after start) := by
  have hget : Gives get start start start := gives_get_iff.mpr ⟨rfl, rfl⟩
  rw [after, compileProject, hget.run_bind_eq]
  split
  · next project hload =>
    cases hout : options.outputPath start host.cwd with
    | ok out =>
        have hinward := hinward project hload
        exact Or.inr ⟨out, rfl, (hencloses out hout).confines_compileLoaded hinward⟩
    | error fault =>
        left
        rw [compileLoaded, hget.run_bind_eq, hout]
        rfl
  · exact Or.inl rfl
  · exact Or.inl rfl

end Compiling

section Generating

variable {ws ws' : Workspace} {root : Path} {project : Project} {operation : Operation}

section Names

variable (hlinks : ∀ more, more ≠ [] →
  ¬ws.LinkAt ((ws.resolve (.absolute []) root).parts ++ more))

include hlinks

/-- Relative names without `..` lead below the root. -/
theorem IsDownward.goesInto_starterPath (hdown : IsDownward operation)
    (hintegration : (Path.ofString operation.integration).isAbsolute = false)
    (hname : (Path.ofString (operation.name ++ scriptSuffix)).isAbsolute = false)
    (dialect : Dialect) : ws.GoesInto root (starterPath dialect root operation) := by
  cases dialect with
  | v1 =>
      refine Workspace.goesInto_of_neverAbove ?_ (.of_names hdown.name) hlinks
      simp [starterPath, Operation.flatPath, Path.child, Path.join, hname]
  | v2 =>
      have hfolder := plainPart_folder operation
      have hrest : NeverAbove 0 ((Path.ofString operation.integration).parts ++
          operation.folder :: (Path.ofString (operation.name ++ scriptSuffix)).parts) :=
        .of_names (by simp [hdown.integration, hdown.name, hfolder.ne_dots.symm])
      refine Workspace.goesInto_of_neverAbove ?_ hrest hlinks
      rw [starterPath, Operation.nestedPath, Path.child_of_plainPart hfolder]
      simp [Path.child, Path.join, hname, hintegration]

theorem goesInto_modelsPath {settings : Settings}
    (hmodels : Settings.isModuleFile settings.modelsFile = true) :
    ws.GoesInto root (settings.modelsPath root) := by
  obtain ⟨stem, -, hplain, hpath, -⟩ := exists_modelsPath hmodels root root
  have hrest : NeverAbove 0 [stem ++ scriptSuffix] :=
    .of_names (by simpa using hplain.ne_dots.symm)
  exact Workspace.goesInto_of_neverAbove (by rw [hpath]) hrest hlinks

end Names

theorem confines_scaffold {dialect : Dialect}
    (hinto : start.GoesInto root (starterPath dialect root operation)) (modelsModule : String) :
    Keeps (ConfinesFrom start (start.IsInside root))
      (scaffold root dialect modelsModule operation) := by
  refine keeps_bind keeps_get fun ws => ?_
  split
  · exact keeps_pure _
  · refine keeps_bind (confines_makeDirectories _) fun _ => ?_
    refine keeps_bind (confines_write (staysIn_of_goesInto hinto fun _ => id) _) fun _ => ?_
    exact keeps_pure _

theorem confined_after_generate {given : Option Settings}
    (hmodels : ∀ settings, settingsFor ws root given = .ok settings →
      ws.GoesInto root (settings.modelsPath root))
    (hstarters : ∀ project, Project.load ws root = .ok project →
      ∀ operation ∈ project.operations,
        ws.GoesInto root (starterPath project.dialect root operation)) :
    Confined (ws.IsInside root) ws ((generate root given).after ws) := by
  cases hsettings : settingsFor ws root given with
  | error fault =>
      rw [after_generate_of_error hsettings]
      exact refl_of (Confined (ws.IsInside root)) ws
  | ok settings =>
      rw [after, run_generate hsettings, ← after]
      have hrest : ∀ project, Project.load ws root = .ok project →
          Keeps (ConfinesFrom ws (ws.IsInside root)) (do
            writeModels root project settings
            let created ← project.operations.mapM
              (scaffold root project.dialect settings.modelsModule)
            pure (Generated.mk (settings.modelsPath root) (created.filterMap id))) := by
        intro project hload
        have hpath := staysIn_of_goesInto (hmodels settings hsettings) fun _ => id
        refine keeps_bind (confines_write hpath _) fun _ => ?_
        refine keeps_bind (keeps_mapM fun operation hmem => ?_) fun _ => keeps_pure _
        exact confines_scaffold (hstarters project hload operation hmem) _
      have hread := keeps_loadProject root ws
      refine after_bind (R := Confined (ws.IsInside root)) (hread ▸ refl_of _ ws)
        fun project mid hgives => ?_
      obtain ⟨hload, rfl⟩ := gives_loadProject_iff.mp hgives
      exact hrest project hload ws (refl_of SameLinks ws)

theorem eq_starterPath_of_gives_scaffold {dialect : Dialect} {modelsModule : String} {path : Path}
    (hgives : Gives (scaffold root dialect modelsModule operation) ws (some path) ws') :
    path = starterPath dialect root operation := by
  obtain ⟨_, _, hget, hgives⟩ := gives_bind_iff.mp hgives
  split at hgives
  · cases (gives_pure_iff.mp hgives).1
  · simp only [gives_bind_iff, gives_pure_iff] at hgives
    obtain ⟨_, _, -, _, _, -, hpath, -⟩ := hgives
    exact (Option.some.inj hpath).symm

/-- The files that generating creates are starter scripts. -/
theorem exists_starterPath_of_mem_created {given : Option Settings} {generated : Generated}
    (hgives : Gives (generate root given) ws generated ws') {path : Path}
    (hpath : path ∈ generated.created) : ∃ project, Project.load ws root = .ok project ∧
      ∃ operation ∈ project.operations, path = starterPath project.dialect root operation := by
  have hwith : ∃ settings, Gives (generateWith root settings) ws generated ws' := by
    cases given with
    | some settings => exact ⟨settings, hgives⟩
    | none =>
        obtain ⟨settings, mid, hsettings, hrest⟩ := gives_bind_iff.mp hgives
        obtain rfl : ws = mid := (keeps_loadSettings root).of_gives hsettings
        exact ⟨settings, hrest⟩
  obtain ⟨settings, hwith⟩ := hwith
  simp only [generateWith, gives_bind_iff, gives_loadProject_iff, gives_pure_iff] at hwith
  obtain ⟨project, _, ⟨hload, rfl⟩, _, _, -, created, _, hscaffolds, rfl, -⟩ := hwith
  obtain ⟨found, hfound, rfl⟩ := List.mem_filterMap.mp hpath
  obtain ⟨operation, hmem, _, _, hscaffold⟩ := exists_gives_of_mem_mapM hscaffolds hfound
  exact ⟨project, hload, operation, hmem, eq_starterPath_of_gives_scaffold hscaffold⟩

end Generating

/-- Whatever generating writes is inside the root, and whatever compiling writes,
the models module apart, inside the output directory, also when a run stops.  For
that no starter script may lead above the root by its path or along a link, nor
any script above the root by its path, or any link out of the output directory. -/
theorem written_inside (ws : Workspace) :
    (∀ root given,
      (∀ settings, settingsFor ws root given = .ok settings →
        ws.GoesInto root (settings.modelsPath root)) →
      (∀ project, Project.load ws root = .ok project → ∀ operation ∈ project.operations,
        ws.GoesInto root (starterPath project.dialect root operation)) →
      (∀ place content,
        Workspace.entry? ((generate root given).after ws) place = some (.file content) →
          ws.entry? place = some (.file content) ∨ ws.IsInside root place) ∧
      ∀ generated final, Gives (generate root given) ws generated final →
        ∀ path ∈ generated.created, final.isWithin (.absolute []) path root = true) ∧
    ∀ host options, options.root.IsRead → AreNames host.cwd.parts →
      Settings.isModuleFile options.settings.modelsFile = true →
      (∀ project, Project.load ws options.root = .ok project →
        ∀ operation ∈ project.operations, operation.IsInward options.root) →
      (∀ out, options.outputPath ws host.cwd = .ok out → ∀ more, more ≠ [] →
        ¬ws.LinkAt ((ws.resolve (.absolute []) out).parts ++ more)) →
      ∀ place content,
        Workspace.entry? ((compileProject host options).after ws) place =
          some (.file content) →
          ws.entry? place = some (.file content) ∨
          ws.resolve (.absolute []) (options.settings.modelsPath options.root) =
            .absolute place ∨
          ∃ out, options.outputPath ws host.cwd = .ok out ∧ ws.IsInside out place := by
  refine ⟨fun root given hmodels hstarters => ⟨?_, ?_⟩, ?_⟩
  · exact (confined_after_generate hmodels hstarters).file
  · intro generated final hgives path hpath
    have hlinks := (confined_after_generate hmodels hstarters).links
    rw [hgives.after_eq] at hlinks
    obtain ⟨project, hload, operation, hmem, rfl⟩ :=
      exists_starterPath_of_mem_created hgives hpath
    rw [Workspace.isWithin_iff_prefix, ← hlinks.resolve_eq]
    exact (hstarters project hload operation hmem).isInside_resolve (isDirectory_of_load hload)
  · intro host options hroot hcwd hmodels hinward hlinks place content hentry
    have hencloses : ∀ out, options.outputPath ws host.cwd = .ok out →
        Encloses host options out ws :=
      fun out hout => ⟨hroot, hcwd, hmodels, hout, hlinks out hout⟩
    rcases confined_after_compileProject hencloses hinward with hsame | ⟨out, hout, hconfined⟩
    · rw [hsame] at hentry
      exact Or.inl hentry
    · rcases hconfined.file place content hentry with hold | hmodule | hinside
      · exact Or.inl hold
      · exact Or.inr (Or.inl hmodule)
      · exact Or.inr (Or.inr ⟨out, hout, hinside⟩)

/-- A project of two scripts, one of which is there. -/
def halfWorkspace : Workspace :=
  { entries :=
      [(["p"], .directory),
        (["p", "nango.yaml"], .file ("\x7bintegrations: \x7bg: \x7bsyncs: " ++
          "\x7ba: \x7bendpoint: GET /a\x7d, b: \x7bendpoint: GET /b\x7d\x7d\x7d\x7d\x7d").toUTF8),
        (["p", "g"], .directory), (["p", "g", "syncs"], .directory),
        (["p", "g", "syncs", "a.py"],
          .file "async def fetch_data(nango): pass\n".toUTF8)] }

theorem isTree_half : halfWorkspace.IsTree :=
  Workspace.isTree_of_all (by decide)

/-- Generating creates the other script. -/
theorem exists_gives_generate_half : ∃ project generated final,
    Project.load halfWorkspace pairOptions.root = .ok project ∧
      (∀ operation ∈ project.operations,
        operation.integration = "g" ∧ Path.PlainPart operation.name) ∧
      Gives (generate pairOptions.root (some {})) halfWorkspace generated final ∧
      generated.created = [.absolute ["p", "g", "syncs", "b.py"]] := by
  have hproject : ∃ project, Project.load halfWorkspace pairOptions.root = .ok project ∧
      ∀ operation ∈ project.operations,
        operation.integration = "g" ∧ Path.PlainPart operation.name :=
    Outcome.exists_ok_of_decide (by decide +kernel)
  have hgenerated : ∃ generated final,
      Gives (generate pairOptions.root (some {})) halfWorkspace generated final ∧
      generated.created = [.absolute ["p", "g", "syncs", "b.py"]] :=
    exists_gives_of_decide (by decide +kernel)
  obtain ⟨project, hload, hnames⟩ := hproject
  obtain ⟨generated, final, hgives, hcreated⟩ := hgenerated
  exact ⟨project, generated, final, hload, hnames, hgives, hcreated⟩

theorem written_inside_half : ∃ generated final,
    Gives (generate pairOptions.root (some {})) halfWorkspace generated final ∧
    generated.created = [.absolute ["p", "g", "syncs", "b.py"]] ∧
    final.isWithin (.absolute []) (.absolute ["p", "g", "syncs", "b.py"]) pairOptions.root =
      true ∧
    ∀ place content,
      Workspace.entry? ((compileProject pairHost pairOptions).after halfWorkspace) place =
        some (.file content) →
      halfWorkspace.entry? place = some (.file content) ∨
      halfWorkspace.resolve (.absolute [])
        (pairOptions.settings.modelsPath pairOptions.root) = .absolute place ∨
      ∃ out, pairOptions.outputPath halfWorkspace pairHost.cwd = .ok out ∧
        halfWorkspace.IsInside out place := by
  obtain ⟨project, generated, final, hload, hnames, hgives, hcreated⟩ :=
    exists_gives_generate_half
  have hlinks : ∀ (base : Path) more, more ≠ [] →
      ¬halfWorkspace.LinkAt ((halfWorkspace.resolve (.absolute []) base).parts ++ more) := by
    rintro base more - ⟨target, hlink⟩
    exact isTree_half.noLink _ target hlink
  have hmodels : Settings.isModuleFile ({} : Settings).modelsFile = true := by decide +kernel
  have hroot : pairOptions.root.IsRead := ⟨Or.inl rfl, by unfold AreNames; decide⟩
  have hcwd : AreNames pairHost.cwd.parts := by unfold AreNames; decide
  have hplain : Path.PlainPart "g" := by decide
  have hdown : ∀ operation ∈ project.operations, IsDownward operation := by
    intro operation hmem
    obtain ⟨hintegration, hname⟩ := hnames operation hmem
    exact isDownward_of_plainPart (by rw [hintegration]; exact hplain) hname
  have hmodule : ∀ settings,
      settingsFor halfWorkspace pairOptions.root (some {}) = .ok settings →
      halfWorkspace.GoesInto pairOptions.root (settings.modelsPath pairOptions.root) := by
    rintro settings hsettings
    cases hsettings
    exact goesInto_modelsPath (hlinks _) hmodels
  have hstarters : ∀ loaded, Project.load halfWorkspace pairOptions.root = .ok loaded →
      ∀ operation ∈ loaded.operations, halfWorkspace.GoesInto pairOptions.root
        (starterPath loaded.dialect pairOptions.root operation) := by
    intro loaded hloaded operation hmem
    cases hload.symm.trans hloaded
    obtain ⟨hintegration, hname⟩ := hnames operation hmem
    refine (hdown operation hmem).goesInto_starterPath (hlinks _) ?_ ?_ _
    · rw [hintegration, Path.ofString_of_plainPart hplain]
      rfl
    · rw [Path.ofString_of_plainPart (plainPart_script hname.no_slash)]
      rfl
  have hinward : ∀ loaded, Project.load halfWorkspace pairOptions.root = .ok loaded →
      ∀ operation ∈ loaded.operations, operation.IsInward pairOptions.root := by
    intro loaded hloaded operation hmem
    cases hload.symm.trans hloaded
    exact (hdown operation hmem).isInward hroot
  obtain ⟨hgenerate, hcompile⟩ := written_inside halfWorkspace
  obtain ⟨-, hcreates⟩ := hgenerate pairOptions.root (some {}) hmodule hstarters
  refine ⟨generated, final, hgives, hcreated, ?_, ?_⟩
  · exact hcreates generated final hgives _ (by rw [hcreated]; exact List.mem_singleton_self _)
  · exact hcompile pairHost pairOptions hroot hcwd hmodels hinward fun out _ => hlinks out

/-- A project with operations whose names lead above the root, and back into it. -/
def escapingWorkspace : Workspace :=
  { entries :=
      [(["p"], .directory),
        (["p", "nango.yaml"], .file ("integrations:\n  github:\n    ../escape:\n" ++
          "      runs: every day\n    ../p/issues:\n      runs: every day\n").toUTF8),
        (["p", "issues.py"], .file "async def fetch_data(nango):\n    pass\n".toUTF8)] }

/-- A step makes a file at a path that does not resolve to a place within a base. -/
def makesOutside {α : Type} (step : Build α) (ws : Workspace) (base path : Path) : Bool :=
  !ws.isFile path && (step.after ws).isFile path &&
    !(step.after ws).isWithin (.absolute []) path base

/-- Generating creates a starter script outside the root, and compiling a compiled
script outside the output directory. -/
theorem makesOutside_escaping :
    (Project.load escapingWorkspace pairOptions.root).isOk = true ∧
      makesOutside (generate pairOptions.root none) escapingWorkspace pairOptions.root
        (.absolute ["escape.py"]) = true ∧
      makesOutside (compileProject pairHost pairOptions) escapingWorkspace
        (.absolute ["p", "dist"]) (.absolute ["p", "p", "issues.pyc"]) = true := by
  refine ⟨?_, ?_, ?_⟩ <;> decide +kernel

end Build

end IntegrationBuild
