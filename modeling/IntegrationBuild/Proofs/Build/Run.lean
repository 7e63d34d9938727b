import IntegrationBuild.Proofs.Build.Bound
import IntegrationBuild.Proofs.Build.Output

/-!
The run of a script: which files it visits, when it gives a result, and what
the result says about them.
-/

namespace IntegrationBuild

namespace ScriptJob

variable {job : ScriptJob} {ws ws' : Workspace} {host : Host}

/-- Compiling a script comes to its end when all turns of its files do. -/
theorem gives_compile_iff {progress : Progress} :
    Build.Gives (job.compile host) ws progress ws' ↔
      ∃ found, Build.Gives
          ((job.order host ws).foldlM (job.compileFile host) []) ws found ws' ∧
        progress = progressOf host ws (job.order host ws) found := by
  rw [Build.Gives, run_compile]
  simp only [← Build.Gives.eq_1, Build.gives_bind_iff, Build.gives_pure_iff]
  constructor
  · rintro ⟨found, _, hturns, rfl, rfl⟩
    exact ⟨found, hturns, rfl⟩
  · rintro ⟨found, hturns, rfl⟩
    exact ⟨found, ws', hturns, rfl, rfl⟩

/-- The result of a script that is there lists the complaints about its files. -/
theorem gives_run_iff (hthere : job.location.isThere ws = true)
    {result : FileResult} :
    Build.Gives (job.run host) ws result ws' ↔
      ∃ found, Build.Gives
          ((job.order host ws).foldlM (job.compileFile host) []) ws found ws' ∧
        result =
          { path := Path.shownText ws host.cwd job.location.path job.options.root
            operation := job.location.operation.name
            ok := found.isEmpty
            diagnostics := found } := by
  simp only [run, Build.gives_bind_iff, Build.gives_get_iff]
  constructor
  · rintro ⟨_, _, ⟨rfl, rfl⟩, hgives⟩
    rw [if_pos hthere] at hgives
    obtain ⟨progress, mid, hcompile, hpure⟩ := Build.gives_bind_iff.mp hgives
    obtain ⟨rfl, rfl⟩ := Build.gives_pure_iff.mp hpure
    obtain ⟨found, hturns, rfl⟩ := gives_compile_iff.mp hcompile
    exact ⟨found, hturns, rfl⟩
  · rintro ⟨found, hturns, rfl⟩
    refine ⟨ws, ws, ⟨rfl, rfl⟩, ?_⟩
    rw [if_pos hthere]
    have hcompile := gives_compile_iff.mpr ⟨found, hturns, rfl⟩
    exact Build.gives_bind_iff.mpr ⟨_, ws', hcompile, Build.gives_pure_iff.mpr ⟨rfl, rfl⟩⟩

/-- The result of an operation without a script says so. -/
theorem eq_missing_of_gives_run (hthere : ¬job.location.isThere ws = true)
    {result : FileResult} (hgives : Build.Gives (job.run host) ws result ws') :
    result = job.missing ws host.cwd ∧ ws = ws' := by
  simp only [run, Build.gives_bind_iff, Build.gives_get_iff] at hgives
  obtain ⟨_, _, ⟨rfl, rfl⟩, hgives⟩ := hgives
  rw [if_neg hthere] at hgives
  obtain ⟨_, _, hresolved, hmissing⟩ := Build.gives_bind_iff.mp hgives
  obtain ⟨-, rfl⟩ := Build.gives_orStop_iff.mp hresolved
  obtain ⟨rfl, rfl⟩ := Build.gives_pure_iff.mp hmissing
  exact ⟨rfl, rfl⟩

/-- The result of a script names its operation. -/
theorem operation_of_gives_run {result : FileResult}
    (hgives : Build.Gives (job.run host) ws result ws') :
    result.operation = job.location.operation.name := by
  by_cases hthere : job.location.isThere ws = true
  · obtain ⟨found, -, rfl⟩ := (gives_run_iff hthere).mp hgives
    rfl
  · obtain ⟨rfl, -⟩ := eq_missing_of_gives_run hthere hgives
    rfl

/-- A script that is there, in a project without links: compiling it comes to an end by
itself, has no place seen twice and sees exactly the places that relative imports lead
to, in circles or not.  The run gives a result when it is ready.  The result is good
exactly when every file that is brought in passes at its turn, when it still brings in
the same files; unless the run makes a directory of an integration, all files can be
judged at the start. -/
theorem run_ok_iff_of_placed {accepts : ByteArray → Bool} (hplaced : job.Placed ws)
    (hcompile : host.Judges accepts) :
    (∀ extra, (job.compileFrom host (ws.entries.length + 2 + extra) {}
        job.location.path).run.run ws = (job.compile host).run.run ws) ∧
      (∀ progress ws', Build.Gives (job.compile host) ws progress ws' →
        progress.seen.Nodup ∧ ∀ place, place ∈ progress.seen ↔
          ∃ path, job.Reaches ws host.cwd path ∧ ws.resolve host.cwd path = place) ∧
      (job.Ready ws host.cwd →
        ∃ result ws', Build.Gives (job.run host) ws result ws') ∧
      ∀ result ws', Build.Gives (job.run host) ws result ws' →
        (result.ok = true ↔ ∀ path, job.Reaches ws host.cwd path →
          job.Passes accepts (job.isScript ws host.cwd path)
            (job.atTurn host ws path) host.cwd path) ∧
        (∀ path, job.Reaches ws host.cwd path →
          job.scope.helpers (job.atTurn host ws path) host.cwd path =
            job.scope.helpers ws host.cwd path) ∧
        (job.KeepsSiblings ws ws' →
          (result.ok = true ↔ ∀ path, job.Reaches ws host.cwd path →
            job.Passes accepts (job.isScript ws host.cwd path) ws host.cwd path)) := by
  have htree := hplaced.tree
  have hscript := hplaced.scriptFile
  have horder : job.order host ws = job.files ws host.cwd := order_eq_files htree hscript
  refine ⟨run_compileFrom_add hscript.plain.absolute, ?_, ?_, ?_⟩
  · intro progress ws' hgives
    obtain ⟨found, -, rfl⟩ := gives_compile_iff.mp hgives
    rw [progressOf, horder]
    exact ⟨nodup_files htree hscript, fun place => mem_resolved_files_iff htree hscript⟩
  · intro hready
    obtain ⟨found, ws', hgives⟩ := exists_gives_compile hplaced hready
    rw [← horder] at hgives
    exact ⟨_, ws', (gives_run_iff hplaced.isThere).mpr ⟨found, hgives, rfl⟩⟩
  · intro result ws' hrun
    obtain ⟨found, hgives, rfl⟩ := (gives_run_iff hplaced.isThere).mp hrun
    rw [horder] at hgives
    simp only [List.isEmpty_iff]
    refine ⟨found_eq_nil_iff htree hscript hcompile hgives,
      fun path => helpers_atTurn htree hscript hcompile hgives, ?_⟩
    exact found_eq_nil_iff_of_keepsSiblings htree hscript hcompile hgives
      hplaced.root hplaced.integrations

/-- Two scripts that import each other. -/
def circleWorkspace : Workspace :=
  { entries :=
      [(["p"], .directory), (["p", "github"], .directory),
        (["p", "github", "syncs"], .directory),
        (["p", "github", "syncs", "issues.py"],
          .file "from . import pages\n".toUTF8),
        (["p", "github", "syncs", "pages.py"],
          .file "from . import issues\n".toUTF8)] }

def circleOperation : Operation :=
  { name := "issues", kind := .sync, integration := "github" }

def circleJob : ScriptJob :=
  { location := circleOperation.locate circleWorkspace (.absolute ["p"])
    modelsSource := ""
    project :=
      { dialect := .v2
        integrations := [{ name := "github", operations := [circleOperation] }]
        models := [] }
    modelNames := []
    options := { root := .absolute ["p"], outDir := some (.absolute ["out"]) } }

def circleHost : Host :=
  { cwd := .absolute [], compile := fun _ _ source => .ok source }

theorem operation_circle : circleJob.location.operation = circleOperation :=
  Operation.operation_locate _ _ _

theorem placed_circle : circleJob.Placed circleWorkspace where
  tree := Workspace.isTree_of_all (by decide)
  root := by decide
  integrations := by decide
  integration := by
    rw [operation_circle]
    decide
  operation := by
    rw [operation_circle]
    decide
  located := by
    rw [operation_circle]
    rfl
  isThere := by decide +kernel

theorem ready_circle : circleJob.Ready circleWorkspace circleHost.cwd := by
  have hout : (Path.absolute ["out"]).Plain := by decide
  refine ⟨?_, ⟨_, rfl, hout⟩, placed_circle.unhindered_of_absent rfl hout ?_ rfl⟩
  · have hmodels : (Script.namesOf "").isOk = true := by decide +kernel
    change ∃ names, Script.namesOf "" = .ok names
    cases hnames : Script.namesOf "" with
    | ok names => exact ⟨names, rfl⟩
    | error fault => simp [hnames, Except.isOk, Except.toBool] at hmodels
  · intro way content hway hfile
    rcases List.prefix_cons_iff.mp hway with rfl | ⟨rest, rfl, hrest⟩
    · cases hfile
    · obtain rfl := List.prefix_nil.mp hrest
      cases hfile

/-- The two scripts have one turn each, and the run comes to a verdict. -/
theorem run_ok_iff_of_placed_circle :
    circleJob.Placed circleWorkspace ∧ circleHost.Judges (fun _ => true) ∧
      (∃ progress ws', Build.Gives (circleJob.compile circleHost) circleWorkspace progress ws' ∧
        progress.seen.length = 2 ∧ progress.seen.Nodup) ∧
      ∃ result ws',
        Build.Gives (circleJob.run circleHost) circleWorkspace result ws' ∧
        (result.ok = true ↔ ∀ path,
          circleJob.Reaches circleWorkspace circleHost.cwd path →
          circleJob.Passes (fun _ => true)
            (circleJob.isScript circleWorkspace circleHost.cwd path)
            (circleJob.atTurn circleHost circleWorkspace path)
            circleHost.cwd path) := by
  have hcompile : circleHost.Judges fun _ => true := fun _ _ _ => rfl
  obtain ⟨-, hseen, hresult, hverdict⟩ := run_ok_iff_of_placed placed_circle hcompile
  obtain ⟨progress, ws₁, hgives₁, htwo⟩ : ∃ progress ws', Build.Gives
      (circleJob.compile circleHost) circleWorkspace progress ws' ∧ progress.seen.length = 2 :=
    Build.exists_gives_of_decide (by decide +kernel)
  obtain ⟨result, ws₂, hgives₂⟩ := hresult ready_circle
  exact ⟨placed_circle, hcompile, ⟨progress, ws₁, hgives₁, htwo, (hseen _ _ hgives₁).1⟩,
    result, ws₂, hgives₂, (hverdict result ws₂ hgives₂).1⟩

end ScriptJob

end IntegrationBuild
