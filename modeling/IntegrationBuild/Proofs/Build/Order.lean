import IntegrationBuild.Proofs.Build.Script
import IntegrationBuild.Proofs.Workspace.Links

/-!
The order in which the files of a script have their turns.  What a file brings in is
looked up at its turn, in the file system that the turns before it left, so the order
is a search whose uses depend on what was visited before.  Compiling a script is giving
the files their turns in that order; in a tree no turn changes what files bring in, and
the order is that of the files found at the start.
-/

namespace IntegrationBuild

open Workspace (SameLinks sameLinks_makeDirectories sameLinks_write)

/-- Compiling a script into a file changes no link. -/
theorem Build.sameLinks_byteCompile (host : Host) (root source output : Path) :
    Keeps SameLinks (byteCompile host root source output) :=
  keeps_byteCompile (keeps_change fun _ _ => sameLinks_makeDirectories)
    fun _ _ _ _ => sameLinks_write

namespace ScriptJob

variable {job : ScriptJob} {host : Host} {ws mid ws' : Workspace} {path : Path}

section Keeps

variable {R : Workspace → Workspace → Prop} [IsPreorder Workspace R] {P : Path → Prop}

open Build in
/-- What compiling a script into a file keeps, the turn of a file keeps. -/
theorem after_compileFile {found : List String}
    (hcompile : ∀ output, job.output ws host.cwd path = .ok output →
      Keeps R (byteCompile host job.options.root path output)) :
    R ws ((job.compileFile host found path).after ws) := by
  refine after_bind (keeps_get ws) fun _ _ hget => ?_
  obtain ⟨rfl, rfl⟩ := gives_get_iff.mp hget
  refine keeps_bind (keeps_orStop _ _) (fun complaints => ?_) ws
  dsimp only
  split
  · refine keeps_orStop_bind fun output houtput => ?_
    refine keeps_bind (hcompile output houtput) fun error => ?_
    cases error with
    | none => exact keeps_pure _
    | some text => exact keeps_pure _
  · exact keeps_pure _

variable (hturn : ∀ found path, P path → Build.Keeps R (job.compileFile host found path))
  (hhelpers : ∀ ws path, P path → ∀ helper ∈ job.scope.helpers ws host.cwd path, P helper)

include hturn hhelpers

/-- What is kept by the turns of all files that a file may bring in is kept by all
turns from that file on. -/
theorem keeps_compileFrom (depth : Nat) (progress : Progress) (hpath : P path) :
    Build.Keeps R (job.compileFrom host depth progress path) := by
  induction depth generalizing progress path with
  | zero => exact Build.keeps_pure progress
  | succ depth ih =>
      refine Build.keeps_bind Build.keeps_get fun ws => ?_
      dsimp only
      split
      · exact Build.keeps_pure progress
      · refine Build.keeps_bind (hturn _ path hpath) fun found => ?_
        exact Build.keeps_foldlM_of_mem
          (fun next helper hhelper => ih next (hhelpers ws path hpath helper hhelper)) _

theorem keeps_run (hscript : P job.location.path) : Build.Keeps R (job.run host) := by
  refine Build.keeps_bind Build.keeps_get fun ws => ?_
  split
  · refine Build.keeps_bind (Build.keeps_bind Build.keeps_get fun ws => ?_) fun _ =>
      Build.keeps_pure _
    exact keeps_compileFrom hturn hhelpers _ _ hscript
  · exact Build.keeps_bind (Build.keeps_orStop _ _) fun _ => Build.keeps_pure _

end Keeps

/-- A turn changes no link. -/
theorem sameLinks_compileFile (job : ScriptJob) (host : Host) (found : List String)
    (path : Path) : Build.Keeps SameLinks (job.compileFile host found path) :=
  fun _ => after_compileFile fun _ _ => Build.sameLinks_byteCompile _ _ _ _

/-- In a tree, a turn makes nothing but directories and compiled scripts. -/
theorem grows_compileFile (job : ScriptJob) (host : Host) (found : List String)
    (path : Path) : Build.Keeps GrowsCompiled (job.compileFile host found path) :=
  fun _ => after_compileFile fun _ houtput =>
    grows_byteCompile (compiledPlace_of_output houtput)

/-- The file system after the turns of some files. -/
def afterTurns (job : ScriptJob) (host : Host) (ws : Workspace) (files : List Path) :
    Workspace :=
  Build.after (files.foldlM (job.compileFile host) []) ws

theorem sameLinks_afterTurns (job : ScriptJob) (host : Host) (ws : Workspace)
    (files : List Path) : SameLinks ws (job.afterTurns host ws files) :=
  Build.keeps_foldlM (job.sameLinks_compileFile host) files [] ws

/-- What a file brings in when its turn comes after those of some files. -/
def helpersAfter (job : ScriptJob) (host : Host) (ws : Workspace) (files : List Path)
    (path : Path) : List Path :=
  job.scope.helpers (job.afterTurns host ws files) host.cwd path

/-- The files of the script in the order of their turns.  After a turn that stops the
build, the order goes on with what would be brought in. -/
def order (job : ScriptJob) (host : Host) (ws : Workspace) : List Path :=
  visit (ws.resolve host.cwd) (job.helpersAfter host ws) (ws.entries.length + 2) []
    job.location.path

/-- The script comes first, and every other file is brought in by some file at its
turn. -/
theorem exists_order_eq_cons (job : ScriptJob) (host : Host) (ws : Workspace) :
    ∃ others, job.order host ws = job.location.path :: others ∧
      ∀ file ∈ others, ∃ before importer, file ∈ job.helpersAfter host ws before importer :=
  visit_succ_eq_cons (ws.entries.length + 1) job.location.path

/-- In a tree, files bring in at their turns what they bring in at the start. -/
theorem order_eq_files (htree : ws.IsTree) (hscript : ScriptFile ws job.location.path) :
    job.order host ws = job.files ws host.cwd := by
  refine (visit_congr fun before file hreaches => ?_).symm
  have hfile := scriptFile_of_reaches hscript hreaches
  have hgrown := Build.keeps_foldlM (job.grows_compileFile host) before [] ws htree
  exact ImportScope.helpers_congr hgrown.sameScripts hfile.plain hfile.place

/-- The order depends on the scripts alone. -/
theorem order_eq_of_sameScripts (hscript : ScriptFile ws job.location.path)
    (hsame : SameScripts ws ws') : job.order host ws' = job.files ws host.cwd := by
  rw [order_eq_files hsame.after (hsame.scriptFile hscript), files_congr hscript hsame]

section Turns

/-- What the turns of the files `before` have come to. -/
def progressOf (host : Host) (ws : Workspace) (before : List Path) (found : List String) :
    Progress :=
  { seen := before.map (ws.resolve host.cwd), found }

/-- Turns from one file on are the turns of the files that a visit adds, and so for
turns from several files on. -/
theorem run_foldlM_compileFrom {depth : Nat}
    (hfrom : ∀ {mid path before new found},
      Build.Gives (before.foldlM (job.compileFile host) []) ws found mid →
      visit (ws.resolve host.cwd) (job.helpersAfter host ws) depth before path = before ++ new →
      (job.compileFrom host depth (progressOf host ws before found) path).run.run mid =
        (do let found ← new.foldlM (job.compileFile host) found
            pure (progressOf host ws (before ++ new) found) : Build Progress).run.run mid)
    {starts before new : List Path} {found : List String}
    (hbefore : Build.Gives (before.foldlM (job.compileFile host) []) ws found mid)
    (hvisit : starts.foldl (visit (ws.resolve host.cwd) (job.helpersAfter host ws) depth)
      before = before ++ new) :
    (starts.foldlM (job.compileFrom host depth) (progressOf host ws before found)).run.run mid =
      (do let found ← new.foldlM (job.compileFile host) found
          pure (progressOf host ws (before ++ new) found) : Build Progress).run.run mid := by
  induction starts generalizing before new found mid with
  | nil =>
      obtain rfl : new = [] := by simpa using hvisit
      simp
  | cons path rest ih =>
      obtain ⟨first, hfirst⟩ :=
        prefix_visit (ws.resolve host.cwd) (job.helpersAfter host ws) depth before path
      obtain ⟨others, hothers⟩ := prefix_foldl_visit (ws.resolve host.cwd)
        (job.helpersAfter host ws) depth (before ++ first) rest
      rw [List.foldl_cons, ← hfirst, ← hothers, List.append_assoc] at hvisit
      obtain rfl := List.append_cancel_left hvisit
      rw [List.foldlM_cons, Build.run_bind_left (hfrom hbefore hfirst.symm), List.foldlM_append,
        bind_assoc, bind_assoc]
      refine Build.run_bind_congr fun said later hturns => ?_
      have hmore : Build.Gives ((before ++ first).foldlM (job.compileFile host) []) ws said
          later := by
        rw [List.foldlM_append]
        exact Build.gives_bind_iff.mpr ⟨found, mid, hbefore, hturns⟩
      rw [pure_bind, ih hmore hothers.symm, List.append_assoc]

/-- Turns from a file on are the turns of the files that a visit of it adds. -/
theorem run_compileFrom {depth : Nat} {before new : List Path} {found : List String}
    (hbefore : Build.Gives (before.foldlM (job.compileFile host) []) ws found mid)
    (hvisit : visit (ws.resolve host.cwd) (job.helpersAfter host ws) depth before path =
      before ++ new) :
    (job.compileFrom host depth (progressOf host ws before found) path).run.run mid =
      (do let found ← new.foldlM (job.compileFile host) found
          pure (progressOf host ws (before ++ new) found) : Build Progress).run.run mid := by
  induction depth generalizing before new found mid path with
  | zero =>
      obtain rfl : new = [] := by simpa [visit] using hvisit
      simp [compileFrom]
  | succ depth ih =>
      have hturns : job.afterTurns host ws before = mid := hbefore.after_eq
      have hlinks := job.sameLinks_afterTurns host ws before
      rw [hturns] at hlinks
      rw [visit] at hvisit
      rw [compileFrom, Build.Gives.run_bind_eq (Build.gives_get_iff.mpr ⟨rfl, rfl⟩)]
      dsimp only
      rw [← hlinks.resolve_eq]
      by_cases hseen : (before.map (ws.resolve host.cwd)).contains (ws.resolve host.cwd path) = true
      · rw [if_pos hseen] at hvisit
        obtain rfl : new = [] := by simpa using hvisit
        rw [progressOf, if_pos hseen]
        simp [progressOf]
      · rw [if_neg hseen] at hvisit
        rw [progressOf, if_neg hseen]
        obtain ⟨rest, hrest⟩ := prefix_foldl_visit (ws.resolve host.cwd)
          (job.helpersAfter host ws) depth (before ++ [path]) (job.helpersAfter host ws before path)
        rw [← hrest, List.append_assoc] at hvisit
        obtain rfl := List.append_cancel_left hvisit
        rw [List.singleton_append, List.foldlM_cons, bind_assoc]
        refine Build.run_bind_congr fun said later hturn => ?_
        have hmore : Build.Gives ((before ++ [path]).foldlM (job.compileFile host) []) ws said
            later := by
          rw [List.foldlM_append]
          refine Build.gives_bind_iff.mpr ⟨found, mid, hbefore, ?_⟩
          simpa only [List.foldlM_cons, List.foldlM_nil, bind_pure] using hturn
        have hfold := run_foldlM_compileFrom ih hmore hrest.symm
        rw [helpersAfter, hturns] at hfold
        simpa [progressOf] using hfold

/-- All turns from a file on are the turns of the files that a visit finds. -/
theorem run_compileFrom_start {depth : Nat} {files : List Path}
    (hvisit : visit (ws.resolve host.cwd) (job.helpersAfter host ws) depth [] path = files) :
    (job.compileFrom host depth {} path).run.run ws =
      (do let found ← files.foldlM (job.compileFile host) []
          pure (progressOf host ws files found) : Build Progress).run.run ws := by
  have hbefore : Build.Gives (([] : List Path).foldlM (job.compileFile host) []) ws [] ws :=
    Build.gives_pure_iff.mpr ⟨rfl, rfl⟩
  exact run_compileFrom hbefore hvisit

/-- Compiling a script is giving its files their turns, one after the other. -/
theorem run_compile (job : ScriptJob) (host : Host) (ws : Workspace) :
    (job.compile host).run.run ws =
      (do let found ← (job.order host ws).foldlM (job.compileFile host) []
          pure (progressOf host ws (job.order host ws) found) : Build Progress).run.run ws := by
  rw [compile, Build.Gives.run_bind_eq (Build.gives_get_iff.mpr ⟨rfl, rfl⟩)]
  exact run_compileFrom_start rfl

end Turns

end ScriptJob

end IntegrationBuild
