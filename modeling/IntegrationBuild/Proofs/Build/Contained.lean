import IntegrationBuild.Proofs.Build.Run
import IntegrationBuild.Proofs.Workspace.Links

/-!
Where the files that a script brings in lie.  Links may lead anywhere, but no
turn changes a link, so a path resolves to the same place at any time; and a
file is brought in only from within the boundary.
-/

namespace IntegrationBuild

open Workspace (SameLinks)

namespace Workspace

theorem isWithin_iff_prefix {ws : Workspace} {cwd path root : Path} :
    ws.isWithin cwd path root = true ↔
      (ws.resolve cwd root).parts <+: (ws.resolve cwd path).parts := by
  rw [isWithin, Path.relativeTo?]
  simp [resolve, Path.normalized, Path.absolute]

end Workspace

namespace ScriptJob

variable {job : ScriptJob} {host : Host} {ws : Workspace} {cwd path : Path}

/-- A path leads to a place within the boundary of the script, links followed,
and not to the models module. -/
structure Contains (job : ScriptJob) (ws : Workspace) (cwd path : Path) : Prop where
  within : (ws.resolve cwd job.location.boundary).parts <+: (ws.resolve cwd path).parts
  notModels : ws.resolve cwd path ≠
    ws.resolve cwd (job.options.settings.modelsPath job.options.root)

/-- Whatever the imports of a file bring in is contained. -/
theorem contains_of_mem_helpers {file : Path}
    (hfile : file ∈ job.scope.helpers ws cwd path) : job.Contains ws cwd file := by
  obtain ⟨ref, -, hmem⟩ := List.mem_flatMap.mp hfile
  obtain ⟨hother, hwithin⟩ := ImportScope.mem_helpers_checkRelative.mp hmem
  refine ⟨?_, bne_iff_ne.mp (List.mem_filter.mp hother).2⟩
  exact Workspace.isWithin_iff_prefix.mp (hwithin file (List.mem_cons_of_mem _ hother))

theorem Contains.of_sameLinks {ws' : Workspace} (hcontains : job.Contains ws cwd path)
    (hsame : SameLinks ws ws') : job.Contains ws' cwd path := by
  obtain ⟨hwithin, hmodels⟩ := hcontains
  rw [hsame.resolve_eq] at hwithin hmodels
  exact ⟨hwithin, hmodels⟩

/-- A file with an absolute path is paired with its compiled form under that path, as it
is compiled at its turn. -/
theorem eq_of_fileToCompile (habsolute : path.isAbsolute = true) {file : Build.FileToCompile}
    (hfile : Build.fileToCompile ws cwd job.options path = .ok file) :
    file.input = path ∧ job.output ws cwd path = .ok file.output := by
  obtain ⟨out, hout, -, hcompiled, hinput⟩ := Build.fileToCompile_eq_ok_iff.mp hfile
  rw [Path.join_of_absolute habsolute] at hcompiled hinput
  exact ⟨hinput, output_eq_ok_iff.mpr ⟨out, hout, hcompiled⟩⟩

/-- In any file system, with links or not, compiling a script is giving the files of
its order their turns.  Every file but the script is contained when its turn comes; so
is everything that the file brings in by then, also after its turn.  The path of the
script is absolute, as it is below an absolute root; so is that of every file, and
each is compiled under the path that is contained. -/
theorem contains_of_order_eq (job : ScriptJob) (host : Host) (ws : Workspace)
    (habsolute : job.location.path.isAbsolute = true) :
    (job.compile host).run.run ws =
        (do let found ← (job.order host ws).foldlM (job.compileFile host) []
            pure (progressOf host ws (job.order host ws) found) : Build Progress).run.run ws ∧
      ∀ before path rest, job.order host ws = before ++ path :: rest →
        let turn := job.afterTurns host ws before
        ((before = [] ∧ path = job.location.path) ∨ job.Contains turn host.cwd path) ∧
          (∀ file, Build.fileToCompile turn host.cwd job.options path = .ok file →
            file.input = path ∧ job.output turn host.cwd path = .ok file.output) ∧
          ∀ helper ∈ job.scope.helpers turn host.cwd path, ∀ found,
            job.Contains (Build.after (job.compileFile host found path) turn)
              host.cwd helper := by
  refine ⟨job.run_compile host ws, ?_⟩
  intro before path rest horder turn
  refine ⟨?_, fun file hfile => ?_, ?_⟩
  · obtain ⟨others, hcons, hothers⟩ := job.exists_order_eq_cons host ws
    rw [hcons] at horder
    cases before with
    | nil => exact Or.inl ⟨rfl, (List.cons.inj horder).1.symm⟩
    | cons first more =>
        have hpath : path ∈ others := by
          rw [(List.cons.inj horder).2]
          simp
        obtain ⟨earlier, importer, huses⟩ := hothers path hpath
        -- the links are those of the start, when it was looked up and at its turn
        have hearlier : SameLinks (job.afterTurns host ws earlier) ws := fun location target =>
          (job.sameLinks_afterTurns host ws earlier location target).symm
        have hstart := (contains_of_mem_helpers huses).of_sameLinks hearlier
        exact Or.inr (hstart.of_sameLinks (job.sameLinks_afterTurns host ws (first :: more)))
  · have hmem : path ∈ job.order host ws := by simp [horder]
    exact eq_of_fileToCompile (mayTurn_of_mem_order habsolute hmem).absolute hfile
  · intro helper hhelper found
    exact (contains_of_mem_helpers hhelper).of_sameLinks
      (job.sameLinks_compileFile host found path turn)

/-- A script that imports a link to a file of another directory. -/
def linkedWorkspace : Workspace :=
  { entries :=
      [(["p"], .directory), (["p", "github"], .directory),
        (["p", "github", "lib"], .directory),
        (["p", "github", "lib", "pages.py"], .file ByteArray.empty),
        (["p", "github", "syncs"], .directory),
        (["p", "github", "syncs", "issues.py"],
          .file "from . import pages\n".toUTF8),
        (["p", "github", "syncs", "pages.py"], .link "../lib/pages.py")] }

def linkedJob : ScriptJob :=
  { circleJob with location := circleOperation.locate linkedWorkspace (.absolute ["p"]) }

/-- The link is followed, and leads to a place within the boundary; it is compiled under
its own path. -/
theorem contains_of_order_eq_linked :
    let script : Path := .absolute ["p", "github", "syncs", "issues.py"]
    let link : Path := .absolute ["p", "github", "syncs", "pages.py"]
    let turn := linkedJob.afterTurns circleHost linkedWorkspace [script]
    linkedJob.location.path.isAbsolute = true ∧
      linkedWorkspace.resolve circleHost.cwd link =
        .absolute ["p", "github", "lib", "pages.py"] ∧
      linkedJob.order circleHost linkedWorkspace = [script] ++ link :: [] ∧
      linkedJob.Contains turn circleHost.cwd link ∧
      ∃ file, Build.fileToCompile turn circleHost.cwd linkedJob.options link = .ok file ∧
        file.input = link := by
  intro script link turn
  have habsolute : linkedJob.location.path.isAbsolute = true := by decide +kernel
  have horder : linkedJob.order circleHost linkedWorkspace = [script] ++ link :: [] := by
    decide +kernel
  obtain ⟨file, hfile, -⟩ : ∃ file, Build.fileToCompile turn circleHost.cwd linkedJob.options
      link = .ok file ∧ True := Outcome.exists_ok_of_decide (by decide +kernel)
  obtain ⟨-, hturns⟩ := contains_of_order_eq linkedJob circleHost linkedWorkspace habsolute
  obtain ⟨hcontains, hcompiled, -⟩ := hturns _ _ _ horder
  exact ⟨habsolute, by decide +kernel, horder, hcontains.resolve_left (by simp), file, hfile,
    (hcompiled file hfile).1⟩

end ScriptJob

end IntegrationBuild
