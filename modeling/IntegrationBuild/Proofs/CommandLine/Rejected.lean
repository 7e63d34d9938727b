import IntegrationBuild.CommandLine.Run
import IntegrationBuild.Proofs.Build.Rejected

/-!
Rejections on the command line.  The answer to a rejected project or to rejected
settings is an error line; whatever ends in one has left every file alone.
-/

namespace IntegrationBuild.CommandLine

open Build

/-- An answer that is an error line. -/
def Answer.IsError (answer : Answer) : Prop :=
  ∃ message, answer.err = errorLine message

theorem head?_errorLine (message : String) : (errorLine message).toList.head? = some 'e' := by
  rw [errorLine, String.append_assoc, String.toList_append]
  rfl

theorem not_isError_of_err_eq_empty {answer : Answer} (herr : answer.err = "") :
    ¬answer.IsError := by
  intro ⟨message, hline⟩
  have hhead := head?_errorLine message
  rw [← hline, herr] at hhead
  cases hhead

/-- The lines about scripts that failed are no error line. -/
theorem not_isError_of_failures {answer : Answer} {results : List FileResult}
    (herr : answer.err = String.join (results.map failureText)) : ¬answer.IsError := by
  intro ⟨message, hline⟩
  have hhead := head?_errorLine message
  rw [← hline, herr, String.toList_join] at hhead
  cases results with
  | nil => cases hhead
  | cons result rest =>
      rw [List.map_cons, List.flatMap_cons, failureText, String.append_assoc,
        String.append_assoc, String.toList_append, List.append_assoc] at hhead
      cases hhead

section Reporting

variable {tells : Answer → Prop}

theorem run_tryCatch (command : Build Answer) (handler : BuildError → Build Answer)
    (ws : Workspace) :
    (tryCatch command handler).run.run ws =
      match command.run.run ws with
      | (.ok answer, mid) => (.ok answer, mid)
      | (.error error, mid) => (handler error).run.run mid := by
  rw [ExceptT.run_tryCatch, StateT.run_bind]
  rcases command.run.run ws with ⟨error | answer, mid⟩
  · rfl
  · rfl

/-- To answer a rejection is to tell of it. -/
theorem rejectsEarly_tryCatch {command : Build Answer} {handler : BuildError → Build Answer}
    (hcommand : RejectsEarly tells command)
    (hhandler : ∀ error, handler error = throw error ∨
      error.isRejection = true ∧ ∃ answer, handler error = pure answer) :
    RejectsEarly tells (tryCatch command handler) := by
  intro ws ws' hrejects
  have htry := run_tryCatch command handler ws
  rcases hrun : command.run.run ws with ⟨error | answer, mid⟩
  · have htry : (tryCatch command handler).run.run ws = (handler error).run.run mid := by
      rw [htry, hrun]
    rcases hhandler error with hthrow | ⟨hrejection, answer, hpure⟩
    · have hstops : (tryCatch command handler).run.run ws = (.error error, mid) := by
        rw [htry, hthrow]
        rfl
      cases hrejects with
      | stops hstops' hrejection =>
          cases hstops.symm.trans hstops'
          exact hcommand ws _ (.stops hrun hrejection)
      | tells hgives _ => cases hstops.symm.trans hgives
    · have hgives : (tryCatch command handler).run.run ws = (.ok answer, mid) := by
        rw [htry, hpure]
        rfl
      have hmid := hcommand ws mid (.stops hrun hrejection)
      cases hrejects with
      | stops hstops _ => cases hgives.symm.trans hstops
      | tells hgives' _ =>
          cases hgives.symm.trans hgives'
          exact hmid
  · rw [hrun] at htry
    apply hcommand ws ws'
    cases hrejects with
    | stops hstops _ => cases htry.symm.trans hstops
    | tells hgives htells => exact .tells (hrun.trans (htry.symm.trans hgives)) htells

theorem rejectsEarly_withProject {root : Path} {command : Build Answer}
    (hcommand : RejectsEarly tells command) : RejectsEarly tells (withProject root command) := by
  apply RejectsEarly.bind keeps_get
  intro ws
  split
  · exact hcommand
  · exact rejectsEarly_of_keeps (keeps_pure _)

theorem rejectsEarly_reportingSchema {command : Build Answer}
    (hcommand : RejectsEarly tells command) : RejectsEarly tells (reportingSchema command) := by
  apply rejectsEarly_tryCatch hcommand
  intro error
  split
  · exact Or.inr ⟨rfl, _, rfl⟩
  · exact Or.inl rfl

theorem rejectsEarly_reportingSettings {command : Build Answer}
    (hcommand : RejectsEarly tells command) : RejectsEarly tells (reportingSettings command) := by
  apply rejectsEarly_tryCatch hcommand
  intro error
  split
  · next fault =>
    by_cases hreported : fault.isReported = true
    · rw [if_pos hreported]
      refine Or.inr ⟨?_, _, rfl⟩
      cases fault with
      | linkLoop path => cases hreported
      | _ => rfl
    · rw [if_neg hreported]
      exact Or.inl rfl
  · exact Or.inl rfl

end Reporting

section Commands

variable (around : Surroundings)

theorem keeps_expandHome (text : String) : Keeps Eq (expandHome around text) := by
  rw [expandHome.eq_def]
  dsimp only
  split
  · split
    · exact keeps_pure _
    · split
      · exact keeps_throw _
      · exact keeps_pure _
  · exact keeps_pure _

theorem keeps_resolvePath (text : String) : Keeps Eq (resolvePath around text) := by
  refine keeps_bind (keeps_expandHome around text) fun path => ?_
  exact keeps_bind keeps_get fun _ => keeps_orStop _ _

/-- A project is started without being read, so nothing about it is rejected. -/
theorem rejectsEarly_runInit (root : Path) : RejectsEarly Answer.IsError (runInit root) := by
  have hnew : ∀ file : String × String, StopsOfWrite (writeNew (root.child file.1) file.2) := by
    intro file
    apply stopsOfWrite_get.bind
    intro ws
    split
    · exact stopsOfWrite_pure _
    · apply (stopsOfWrite_change _).bind
      intro _
      exact (stopsOfWrite_change _).bind fun _ => stopsOfWrite_pure _
  have hinit : StopsOfWrite (Build.init root) := by
    apply (stopsOfWrite_change _).bind
    intro _
    exact (stopsOfWrite_mapM hnew _).bind fun _ => stopsOfWrite_pure _
  exact hinit.rejectsEarly.map fun _ => not_isError_of_err_eq_empty rfl

theorem rejectsEarly_runGenerate (root : Path) :
    RejectsEarly Answer.IsError (runGenerate root) := by
  apply rejectsEarly_withProject
  apply rejectsEarly_reportingSchema
  exact (rejectsEarly_generate root none).map fun _ => not_isError_of_err_eq_empty rfl

/-- The answer to a build is an error line only if its report tells of a
rejection. -/
theorem isSome_error_of_isError_buildAnswer {report : BuildReport}
    (herror : (buildAnswer report).IsError) : report.error.isSome = true := by
  cases hreport : report.error with
  | some message => rfl
  | none =>
      rw [buildAnswer, hreport] at herror
      by_cases hsuccess : report.success = true
      · simp only [if_pos hsuccess] at herror
        exact absurd herror (not_isError_of_err_eq_empty rfl)
      · simp only [if_neg hsuccess] at herror
        exact absurd herror (not_isError_of_failures rfl)

theorem rejectsEarly_runCompile (root : Path) (outDir : Option String) (workers : Option Int) :
    RejectsEarly Answer.IsError (runCompile around root outDir workers) := by
  apply rejectsEarly_withProject
  have hout : Keeps Eq (outDir.mapM (resolvePath around)) := by
    cases outDir with
    | none => exact keeps_pure none
    | some text => exact keeps_bind (keeps_resolvePath around text) fun _ => keeps_pure _
  refine RejectsEarly.bind hout fun out => ?_
  refine RejectsEarly.bind (keeps_optionsFor root out workers) fun options => ?_
  exact (rejectsEarly_compileProject around.host options).map fun _ =>
    isSome_error_of_isError_buildAnswer

theorem rejectsEarly_runVerify (root : Path) (models : Option String) :
    RejectsEarly Answer.IsError (runVerify around root models) := by
  apply rejectsEarly_withProject
  have hmodels : Keeps Eq (modelsToVerify around root models) := by
    cases models with
    | some text => exact keeps_resolvePath around text
    | none => exact keeps_bind (keeps_loadSettings root) fun _ => keeps_pure _
  refine RejectsEarly.bind hmodels fun path => ?_
  apply rejectsEarly_reportingSchema
  apply rejectsEarly_of_keeps
  exact keeps_bind (keeps_verifyModels root path) fun _ => keeps_pure _

theorem rejectsEarly_run (command : Command) :
    RejectsEarly Answer.IsError (run around command) := by
  cases command with
  | init root =>
      refine RejectsEarly.bind (keeps_resolvePath around root) fun root => ?_
      exact rejectsEarly_reportingSettings (rejectsEarly_runInit root)
  | generate root =>
      refine RejectsEarly.bind (keeps_resolvePath around root) fun root => ?_
      exact rejectsEarly_reportingSettings (rejectsEarly_runGenerate root)
  | compile root outDir workers =>
      refine RejectsEarly.bind (keeps_resolvePath around root) fun root => ?_
      exact rejectsEarly_reportingSettings (rejectsEarly_runCompile around root outDir workers)
  | verify root models =>
      refine RejectsEarly.bind (keeps_resolvePath around root) fun root => ?_
      exact rejectsEarly_reportingSettings (rejectsEarly_runVerify around root models)

theorem rejectsEarly_runArguments (args : List String) :
    RejectsEarly Answer.IsError (runArguments around args) := by
  rw [runArguments]
  split
  · exact rejectsEarly_of_keeps (keeps_pure _)
  · exact rejectsEarly_run around _

end Commands

/-- A run that ends in a rejection, from one file system to another. -/
inductive RejectedRun (ws ws' : Workspace) : Prop where
  | generate (root : Path) (given : Option Settings)
      (hrejects : Rejects (fun _ => False) (Build.generate root given) ws ws')
  | options (root : Path) (outDir : Option Path) (workers : Option Int)
      (hrejects : Rejects (fun _ => False) (Build.optionsFor root outDir workers) ws ws')
  | compile (host : Host) (options : BuildOptions)
      (hrejects : Rejects (fun report => report.error.isSome = true)
        (Build.compileProject host options) ws ws')
  | compileFile (host : Host) (project : Project) (modelsSource : String)
      (modelNames : List String) (options : BuildOptions) (path : Path)
      (hrejects : Rejects (fun _ => False)
        (Build.compileSingle host project modelsSource modelNames options path) ws ws')
  | verify (root path : Path)
      (hrejects : Rejects (fun _ => False) (Build.verifyModels root path) ws ws')
  | command (around : Surroundings) (args : List String)
      (hrejects : Rejects Answer.IsError (runArguments around args) ws ws')

/-- A run that ends in a rejection leaves everything as it was. -/
theorem eq_of_rejectedRun {ws ws' : Workspace} (hrun : RejectedRun ws ws') : ws' = ws := by
  cases hrun with
  | generate root given hrejects => exact rejectsEarly_generate root given ws ws' hrejects
  | options root outDir workers hrejects =>
      exact rejectsEarly_of_keeps (keeps_optionsFor root outDir workers) ws ws' hrejects
  | compile host options hrejects =>
      exact rejectsEarly_compileProject host options ws ws' hrejects
  | compileFile host project modelsSource modelNames options path hrejects =>
      exact rejectsEarly_compileSingle host project modelsSource modelNames options path ws ws'
        hrejects
  | verify root path hrejects =>
      exact rejectsEarly_of_keeps (keeps_verifyModels root path) ws ws' hrejects
  | command around args hrejects => exact rejectsEarly_runArguments around args ws ws' hrejects

/-- A build into a directory outside of the project. -/
def escapingOptions : BuildOptions :=
  { root := pairOptions.root, settings := { outputDir := ".." } }

/-- The output directory is rejected though the project loads, and nothing has
been written by then. -/
theorem eq_of_rejectedRun_escaping : ∃ error ws',
    (compileProject pairHost escapingOptions).run.run pairWorkspace = (.error error, ws') ∧
      RejectedRun pairWorkspace ws' ∧ ws' = pairWorkspace := by
  have hout : escapingOptions.outputPath pairWorkspace pairHost.cwd =
      .error (.outputEscapes "..") := by
    have hstart : ("..".startsWith "~") = false := by simp
    have hnull : ("..".contains '\x00') = false := by simp
    rw [BuildOptions.outputPath, escapingOptions, Settings.outputPath, hstart, hnull]
    rfl
  obtain ⟨project, -, -, hload, -, -⟩ := exists_pairRun_eq
  have hget : Gives get pairWorkspace pairWorkspace pairWorkspace := gives_get_iff.mpr ⟨rfl, rfl⟩
  have hrun : (compileProject pairHost escapingOptions).run.run pairWorkspace =
      (.error (.settings (.outputEscapes "..")), pairWorkspace) := by
    rw [compileProject, hget.run_bind_eq, escapingOptions, hload]
    dsimp only
    rw [compileLoaded, hget.run_bind_eq]
    rw [← escapingOptions, hout]
    rfl
  have hrejected : RejectedRun pairWorkspace _ := .compile _ _ (.stops hrun rfl)
  exact ⟨_, _, hrun, hrejected, eq_of_rejectedRun hrejected⟩

end IntegrationBuild.CommandLine
