import IntegrationBuild.Build.Generate
import IntegrationBuild.Proofs.Build.Contained
import IntegrationBuild.Proofs.Build.Course

/-!
Rejections.  A project or its settings are rejected before anything is written:
what a build reads comes first, and once the output directory is accepted it
stays accepted, because it depends on the links alone.
-/

namespace IntegrationBuild

open Workspace (SameLinks sameLinks_makeDirectories sameLinks_write)

/-- Whether an error rejects a project or its settings.  Links that lead in a
circle are a fault of the file system. -/
def BuildError.isRejection : BuildError → Bool
  | .load _ => true
  | .settings (.linkLoop _) => false
  | .settings _ => true
  | _ => false

theorem BuildError.not_isRejection_of_isOfWrite {error : BuildError}
    (hwrite : error.isOfWrite = true) : error.isRejection = false := by
  cases error with
  | file | occupied => rfl
  | _ => cases hwrite

theorem BuildError.not_isRejection_ofCheck (fault : CheckFault) :
    (BuildError.ofCheck fault).isRejection = false := by
  cases fault with
  | unreadable _ => rfl
  | circle _ => rfl

namespace Settings

variable {ws ws' : Workspace} {cwd root out : Path} {value : String}

/-- What a path resolves to depends on the links alone, and so does all but a
circle of them. -/
theorem resolveChecked_of_sameLinks (hsame : SameLinks ws ws') {path place : Path}
    (hplace : resolveChecked ws cwd path = .ok place) :
    resolveChecked ws' cwd path = .ok place ∨
      resolveChecked ws' cwd path = .error (.linkLoop place) := by
  obtain rfl := eq_resolve_of_resolveChecked hplace
  rw [hsame.resolve_eq, resolveChecked]
  split
  · next hcircle =>
    obtain rfl := Workspace.eq_resolve_of_circle? hcircle
    exact Or.inr rfl
  · exact Or.inl rfl

/-- An output directory that is accepted stays accepted as long as no link
changes. -/
theorem outputPath_of_sameLinks (hsame : SameLinks ws ws')
    (hout : outputPath ws cwd root value = .ok out) :
    outputPath ws' cwd root value = .ok out ∨
      ∃ path, outputPath ws' cwd root value = .error (.linkLoop path) := by
  simp only [outputPath, bind, Except.bind, throw, throwThe, MonadExceptOf.throw, pure,
    Except.pure] at hout ⊢
  split at hout
  · cases hout
  · next hempty =>
    rw [if_neg hempty]
    split at hout
    · cases hout
    · next hrelative =>
      rw [if_neg hrelative]
      split at hout
      · cases hout
      · next base hbase =>
        rcases resolveChecked_of_sameLinks hsame hbase with hbase' | hloop
        · rw [hbase']
          split at hout
          · cases hout
          · next hnull =>
            dsimp only
            rw [if_neg hnull]
            split at hout
            · cases hout
            · next resolved hresolved =>
              rcases resolveChecked_of_sameLinks hsame hresolved with hresolved' | hloop
              · rw [hresolved']
                exact Or.inl hout
              · rw [hloop]
                exact Or.inr ⟨_, rfl⟩
        · rw [hloop]
          exact Or.inr ⟨_, rfl⟩

end Settings

/-- The output directory of a build is accepted. -/
def BuildOptions.Accepts (options : BuildOptions) (ws : Workspace) (cwd : Path) : Prop :=
  ∃ out, options.outputPath ws cwd = .ok out

/-- As long as no link changes, an output directory that was accepted is not
rejected. -/
theorem BuildOptions.Accepts.not_isRejection {options : BuildOptions} {start ws : Workspace}
    {cwd : Path} (haccepts : options.Accepts start cwd) (hsame : SameLinks start ws)
    {error : SettingsError} (herror : options.outputPath ws cwd = .error error) :
    (BuildError.settings error).isRejection = false := by
  obtain ⟨out, hout⟩ := haccepts
  rw [outputPath] at hout herror
  cases hdir : options.outDir with
  | some path =>
      rw [hdir] at herror
      cases herror
  | none =>
      rw [hdir] at hout herror
      rcases Settings.outputPath_of_sameLinks hsame hout with hout' | ⟨path, hloop⟩
      · cases hout'.symm.trans herror
      · cases hloop.symm.trans herror
        rfl

/-- As long as no link changes, the output directory is the same. -/
theorem BuildOptions.outputPath_of_sameLinks {options : BuildOptions} {start ws : Workspace}
    {cwd out later : Path} (hsame : SameLinks start ws)
    (hout : options.outputPath start cwd = .ok out)
    (hlater : options.outputPath ws cwd = .ok later) : later = out := by
  rw [outputPath] at hout hlater
  cases hdir : options.outDir with
  | some path =>
      rw [hdir] at hout hlater
      exact Except.ok.inj (hlater.symm.trans hout)
  | none =>
      rw [hdir] at hout hlater
      rcases Settings.outputPath_of_sameLinks hsame hout with hout' | ⟨path, hloop⟩
      · exact Except.ok.inj (hlater.symm.trans hout')
      · cases hloop.symm.trans hlater

namespace Build

variable {α β : Type} {start : Workspace}

section Admits

/-- From a file system with the links of `start` on, a step stops with no
rejection. -/
def Admits (start : Workspace) (step : Build α) : Prop :=
  ∀ ws, SameLinks start ws → ∀ error ws', step.run.run ws = (.error error, ws') →
    error.isRejection = false

theorem admits_pure (value : α) : Admits start (pure value) := by
  intro ws _ error ws' hrun
  cases hrun

theorem admits_throw {error : BuildError} (herror : error.isRejection = false) :
    Admits start (throw error : Build α) := by
  intro ws _ other ws' hrun
  cases hrun
  exact herror

theorem admits_orStop {ε : Type} {wrap : ε → BuildError} {result : Except ε α}
    (hwrap : ∀ error, result = .error error → (wrap error).isRejection = false) :
    Admits start (orStop wrap result) := by
  cases result with
  | ok value => exact admits_pure value
  | error error => exact admits_throw (hwrap error rfl)

theorem StopsOfWrite.admits {step : Build α} (hstops : StopsOfWrite step) : Admits start step :=
  fun ws _ error ws' hrun => BuildError.not_isRejection_of_isOfWrite (hstops ws error ws' hrun)

theorem Admits.bind {first : Build α} {next : α → Build β} (hlinks : Keeps SameLinks first)
    (hfirst : Admits start first) (hnext : ∀ value, Admits start (next value)) :
    Admits start (first >>= next) := by
  intro ws hws error ws' hrun
  have hmid := hlinks ws
  rw [after] at hmid
  rw [run_bind] at hrun
  rcases hstep : first.run.run ws with ⟨fault | value, mid⟩
  · rw [hstep] at hrun
    cases hrun
    exact hfirst ws hws _ _ hstep
  · rw [hstep] at hrun hmid
    exact hnext value mid (trans_of SameLinks hws hmid) error ws' hrun

/-- What is read has the links of `start`. -/
theorem admits_get_bind {next : Workspace → Build β}
    (hnext : ∀ ws, SameLinks start ws → Admits start (next ws)) :
    Admits start (get >>= next) := by
  intro ws hws
  exact hnext ws hws ws hws

theorem admits_foldlM {step : β → α → Build β}
    (hlinks : ∀ value item, Keeps SameLinks (step value item))
    (hstep : ∀ value item, Admits start (step value item)) (items : List α) (value : β) :
    Admits start (items.foldlM step value) := by
  induction items generalizing value with
  | nil => exact admits_pure value
  | cons item rest ih =>
      rw [List.foldlM_cons]
      exact Admits.bind (hlinks value item) (hstep value item) ih

theorem admits_mapM {step : α → Build β} (hlinks : ∀ item, Keeps SameLinks (step item))
    (hstep : ∀ item, Admits start (step item)) (items : List α) :
    Admits start (items.mapM step) := by
  induction items with
  | nil => exact admits_pure []
  | cons item rest ih =>
      rw [List.mapM_cons]
      refine Admits.bind (hlinks item) (hstep item) fun value => ?_
      refine Admits.bind (keeps_mapM fun next _ => hlinks next) ih fun values => ?_
      exact admits_pure _

end Admits

section Steps

variable {host : Host}

theorem admits_read (path : Path) : Admits start (read path) := by
  apply admits_get_bind
  intro ws _
  apply admits_orStop
  intro error _
  rfl

theorem admits_byteCompile (host : Host) (root source output : Path) :
    Admits start (byteCompile host root source output) := by
  apply Admits.bind (keeps_change fun _ _ => sameLinks_makeDirectories)
    (stopsOfWrite_change _).admits
  intro _
  apply Admits.bind (keeps_checkFree output) (stopsOfWrite_checkFree output).admits
  intro _
  apply admits_get_bind
  intro ws _
  apply Admits.bind (keeps_read source) (admits_read source)
  intro content
  dsimp only
  split
  · exact admits_pure _
  · apply Admits.bind (keeps_change fun _ _ => sameLinks_write) (stopsOfWrite_change _).admits
    intro _
    exact admits_pure _

theorem keeps_writeJson (path : Path) (json : Json) : Keeps SameLinks (writeJson path json) := by
  refine keeps_bind (keeps_change fun _ _ => sameLinks_makeDirectories) fun _ => ?_
  split
  · exact keeps_change fun _ _ => sameLinks_write
  · exact keeps_throw _

theorem admits_writeJson (path : Path) (json : Json) : Admits start (writeJson path json) := by
  apply Admits.bind (keeps_change fun _ _ => sameLinks_makeDirectories)
    (stopsOfWrite_change _).admits
  intro _
  split
  · exact (stopsOfWrite_change _).admits
  · exact admits_throw rfl

theorem admits_compileFile {job : ScriptJob} (haccepts : job.options.Accepts start host.cwd)
    (found : List String) (path : Path) : Admits start (job.compileFile host found path) := by
  apply admits_get_bind
  intro ws hws
  apply Admits.bind (keeps_orStop _ _)
    (admits_orStop fun fault _ => BuildError.not_isRejection_ofCheck fault)
  intro complaints
  dsimp only
  split
  · refine Admits.bind (keeps_orStop _ _) (admits_orStop ?_) fun output => ?_
    · intro error herror
      rw [ScriptJob.output] at herror
      split at herror
      · next fault hfault =>
        obtain rfl := Except.error.inj herror
        exact haccepts.not_isRejection hws hfault
      · split at herror
        · obtain rfl := Except.error.inj herror
          rfl
        · cases herror
    · apply Admits.bind (sameLinks_byteCompile _ _ _ _) (admits_byteCompile _ _ _ _)
      intro error
      cases error with
      | none => exact admits_pure _
      | some text => exact admits_pure _
  · exact admits_pure _

theorem keeps_run (job : ScriptJob) (host : Host) : Keeps SameLinks (job.run host) :=
  ScriptJob.keeps_run (P := fun _ => True)
    (fun found path _ => job.sameLinks_compileFile host found path) (fun _ _ _ _ _ => trivial)
    trivial

theorem sameLinks_compileFrom (job : ScriptJob) (host : Host) (depth : Nat)
    (progress : ScriptJob.Progress) (path : Path) :
    Keeps SameLinks (job.compileFrom host depth progress path) :=
  ScriptJob.keeps_compileFrom (P := fun _ => True)
    (fun found path _ => job.sameLinks_compileFile host found path) (fun _ _ _ _ _ => trivial)
    depth progress trivial

theorem admits_compileFrom {job : ScriptJob} (haccepts : job.options.Accepts start host.cwd)
    (depth : Nat) (progress : ScriptJob.Progress) (path : Path) :
    Admits start (job.compileFrom host depth progress path) := by
  induction depth generalizing progress path with
  | zero => exact admits_pure progress
  | succ depth ih =>
      apply admits_get_bind
      intro ws _
      dsimp only
      split
      · exact admits_pure progress
      · apply Admits.bind (job.sameLinks_compileFile host _ _) (admits_compileFile haccepts _ _)
        intro found
        exact admits_foldlM (sameLinks_compileFrom job host depth) ih _ _

theorem admits_run {job : ScriptJob} (haccepts : job.options.Accepts start host.cwd) :
    Admits start (job.run host) := by
  apply admits_get_bind
  intro ws _
  split
  · refine Admits.bind (keeps_bind keeps_get fun _ => sameLinks_compileFrom job host _ _ _) ?_
      fun _ => admits_pure _
    apply admits_get_bind
    intro _ _
    exact admits_compileFrom haccepts _ _ _
  · exact Admits.bind (keeps_orStop _ _)
      (admits_orStop fun fault _ => BuildError.not_isRejection_ofCheck fault)
      fun _ => admits_pure _

/-- The preparations of a build once its output directory is accepted. -/
theorem admits_writeModelsArtifacts (project : Project) (options : BuildOptions) (out : Path) :
    Admits start (writeModelsArtifacts host project options out) := by
  apply Admits.bind (keeps_change fun _ _ => sameLinks_write) (stopsOfWrite_change _).admits
  intro _
  apply Admits.bind (sameLinks_byteCompile _ _ _ _) (admits_byteCompile _ _ _ _)
  intro error
  cases error with
  | none => exact admits_writeJson _ _
  | some text => exact admits_throw rfl

theorem keeps_writeModelsArtifacts (project : Project) (options : BuildOptions) (out : Path) :
    Keeps SameLinks (writeModelsArtifacts host project options out) := by
  refine keeps_bind (keeps_change fun _ _ => sameLinks_write) fun _ => ?_
  refine keeps_bind (sameLinks_byteCompile _ _ _ _) fun error => ?_
  cases error with
  | none => exact keeps_writeJson _ _
  | some text => exact keeps_throw _

/-- A build of a loaded project stops with no rejection if its output directory
is accepted. -/
theorem admits_compileLoaded {options : BuildOptions} (haccepts : options.Accepts start host.cwd)
    (project : Project) : Admits start (compileLoaded host options project) := by
  apply admits_get_bind
  intro ws hws
  refine Admits.bind (keeps_orStop _ _) (admits_orStop ?_) fun out => ?_
  · intro error herror
    exact haccepts.not_isRejection hws herror
  apply Admits.bind (keeps_change fun _ _ => sameLinks_makeDirectories)
    (stopsOfWrite_change _).admits
  intro _
  apply Admits.bind (keeps_writeModelsArtifacts project options out)
    (admits_writeModelsArtifacts project options out)
  intro _
  apply admits_get_bind
  intro prepared _
  apply Admits.bind (keeps_orStop _ _) (admits_orStop fun _ _ => rfl)
  intro locations
  have hrest : Admits start (do
      let files ← runAll host options project locations
      let report : BuildReport := { success := files.all (·.ok), files := files }
      writeJson (out.child reportDocument) report.toJson
      pure report) := by
    apply Admits.bind (keeps_mapM fun _ _ => keeps_run _ _)
      (admits_mapM (fun _ => keeps_run _ _) (fun _ => admits_run haccepts) locations)
    intro files
    apply Admits.bind (keeps_writeJson _ _) (admits_writeJson _ _)
    intro _
    exact admits_pure _
  dsimp only
  split
  · exact Admits.bind (keeps_throw _) (admits_throw rfl) fun _ => hrest
  · exact hrest

end Steps

section Rejects

/-- From one file system to another, a step ends in a rejection: it stops with
one, or its value is one that tells of a rejection. -/
inductive Rejects (tells : α → Prop) (step : Build α) (ws ws' : Workspace) : Prop where
  | stops {error : BuildError} (hrun : step.run.run ws = (.error error, ws'))
      (hrejection : error.isRejection = true)
  | tells {value : α} (hgives : Gives step ws value ws') (htells : tells value)

/-- A step rejects before it changes anything. -/
def RejectsEarly (tells : α → Prop) (step : Build α) : Prop :=
  ∀ ws ws', Rejects tells step ws ws' → ws' = ws

theorem rejectsEarly_of_keeps {tells : α → Prop} {step : Build α} (hkeeps : Keeps Eq step) :
    RejectsEarly tells step := by
  intro ws ws' hrejects
  have hsame := hkeeps ws
  cases hrejects with
  | stops hrun _ => exact (congrArg Prod.snd hrun).symm.trans hsame.symm
  | tells hgives _ => exact hgives.after_eq.symm.trans hsame.symm

theorem StopsOfWrite.rejectsEarly {step : Build α} (hstops : StopsOfWrite step) :
    RejectsEarly (fun _ => False) step := by
  intro ws ws' hrejects
  cases hrejects with
  | stops hrun hrejection =>
      rw [BuildError.not_isRejection_of_isOfWrite (hstops _ _ _ hrun)] at hrejection
      cases hrejection
  | tells _ htells => exact htells.elim

/-- What is read first changes nothing. -/
theorem RejectsEarly.bind {tells : β → Prop} {first : Build α} {next : α → Build β}
    (hfirst : Keeps Eq first) (hnext : ∀ value, RejectsEarly tells (next value)) :
    RejectsEarly tells (first >>= next) := by
  intro ws ws' hrejects
  have hsame := hfirst ws
  rw [after] at hsame
  rcases hstep : first.run.run ws with ⟨fault | value, mid⟩
  · rw [hstep] at hsame
    have hrun : (first >>= next).run.run ws = (.error fault, mid) := by rw [run_bind, hstep]
    cases hrejects with
    | stops hstops _ =>
        cases hrun.symm.trans hstops
        exact hsame.symm
    | tells hgives _ => cases hrun.symm.trans hgives
  · rw [hstep] at hsame
    obtain rfl : ws = mid := hsame
    have hrun : (first >>= next).run.run ws = (next value).run.run ws :=
      Gives.run_bind_eq hstep
    apply hnext value ws ws'
    cases hrejects with
    | stops hstops hrejection => exact .stops (hrun.symm.trans hstops) hrejection
    | tells hgives htells => exact .tells (hrun.symm.trans hgives) htells

/-- The value of a step may be put in another form that tells of a rejection
only if the value does. -/
theorem RejectsEarly.map {tells : α → Prop} {tells' : β → Prop} {step : Build α} {form : α → β}
    (hstep : RejectsEarly tells step) (hform : ∀ value, tells' (form value) → tells value) :
    RejectsEarly tells' (do
      let value ← step
      pure (form value)) := by
  intro ws ws' hrejects
  apply hstep ws ws'
  cases hrejects with
  | stops hrun hrejection =>
      rw [run_bind] at hrun
      rcases hresult : step.run.run ws with ⟨fault | value, mid⟩
      · rw [hresult] at hrun
        cases hrun
        exact .stops hresult hrejection
      · rw [hresult] at hrun
        cases hrun
  | tells hgives htells =>
      obtain ⟨value, mid, hvalue, hpure⟩ := gives_bind_iff.mp hgives
      obtain ⟨rfl, rfl⟩ := gives_pure_iff.mp hpure
      exact .tells hvalue (hform value htells)

theorem keeps_loadProject (root : Path) : Keeps Eq (loadProject root) :=
  keeps_bind keeps_get fun _ => keeps_orStop _ _

theorem keeps_loadSettings (root : Path) : Keeps Eq (loadSettings root) :=
  keeps_bind keeps_get fun _ => keeps_orStop _ _

theorem stopsOfWrite_mapM {step : α → Build β} (hstep : ∀ item, StopsOfWrite (step item))
    (items : List α) : StopsOfWrite (items.mapM step) := by
  induction items with
  | nil => exact stopsOfWrite_pure []
  | cons item rest ih =>
      rw [List.mapM_cons]
      exact (hstep item).bind fun _ => ih.bind fun _ => stopsOfWrite_pure _

theorem stopsOfWrite_scaffold (root : Path) (dialect : Dialect) (modelsModule : String)
    (operation : Operation) : StopsOfWrite (scaffold root dialect modelsModule operation) := by
  apply stopsOfWrite_get.bind
  intro ws
  split
  · exact stopsOfWrite_pure _
  · apply (stopsOfWrite_change _).bind
    intro _
    exact (stopsOfWrite_change _).bind fun _ => stopsOfWrite_pure _

/-- What generating rejects, it rejects before it writes the models module. -/
theorem rejectsEarly_generate (root : Path) (given : Option Settings) :
    RejectsEarly (fun _ => False) (generate root given) := by
  have hrest : ∀ settings : Settings, RejectsEarly (fun _ => False) (do
      let project ← loadProject root
      writeModels root project settings
      let created ← project.operations.mapM (scaffold root project.dialect settings.modelsModule)
      pure (Generated.mk (settings.modelsPath root) (created.filterMap id))) := by
    intro settings
    apply RejectsEarly.bind (keeps_loadProject root)
    intro project
    apply StopsOfWrite.rejectsEarly
    apply (stopsOfWrite_change _).bind
    intro _
    apply (stopsOfWrite_mapM (stopsOfWrite_scaffold _ _ _) _).bind
    intro created
    exact stopsOfWrite_pure _
  cases given with
  | some settings => exact RejectsEarly.bind (keeps_pure settings) hrest
  | none => exact RejectsEarly.bind (keeps_loadSettings root) hrest

theorem keeps_verifyModels (root path : Path) : Keeps Eq (verifyModels root path) := by
  refine keeps_bind keeps_get fun ws => ?_
  split
  · exact keeps_pure _
  · exact keeps_bind (keeps_loadProject root) fun _ => keeps_pure _

theorem keeps_optionsFor (root : Path) (outDir : Option Path) (workers : Option Int) :
    Keeps Eq (optionsFor root outDir workers) :=
  keeps_bind (keeps_loadSettings root) fun _ => keeps_pure _

/-- A report that tells of a rejection is given before anything is written, and
so is the output directory rejected. -/
theorem rejectsEarly_compileProject (host : Host) (options : BuildOptions) :
    RejectsEarly (fun report => report.error.isSome = true) (compileProject host options) := by
  intro ws ws' hrejects
  cases hrejects with
  | tells hgives htells =>
      rcases gives_compileProject_iff.mp hgives with ⟨project, -, hgives⟩ | ⟨_, -, -, hsame⟩
      · obtain ⟨course⟩ := gives_compileLoaded_iff.mp hgives
        rw [course.report_eq] at htells
        cases htells
      · exact hsame.symm
  | @stops error hrun hrejection =>
      have hget : Gives get ws ws ws := gives_get_iff.mpr ⟨rfl, rfl⟩
      rw [compileProject, hget.run_bind_eq] at hrun
      cases hload : Project.load ws options.root with
      | ok project =>
          rw [hload] at hrun
          have hrun : (compileLoaded host options project).run.run ws = (.error error, ws') := hrun
          cases hout : options.outputPath ws host.cwd with
          | ok out =>
              have haccepts : options.Accepts ws host.cwd := ⟨out, hout⟩
              rw [admits_compileLoaded haccepts project ws (refl_of SameLinks ws) error ws' hrun]
                at hrejection
              cases hrejection
          | error fault =>
              rw [compileLoaded, hget.run_bind_eq, hout] at hrun
              exact (congrArg Prod.snd hrun).symm
      | error fault =>
          rw [hload] at hrun
          cases fault with
          | schema fault => cases hrun
          | undecodable | scalar fault | circular => exact (congrArg Prod.snd hrun).symm

/-- A file system that a step finds stays as it is. -/
def Fixes (ws before after : Workspace) : Prop :=
  before = ws → after = ws

instance (ws : Workspace) : IsPreorder Workspace (Fixes ws) where
  refl _ := id
  trans _ _ _ hfirst hnext := hnext ∘ hfirst

/-- A job stops at the first file that it would compile, if the output directory
is not accepted, and then nothing is compiled. -/
theorem after_run_of_error {job : ScriptJob} {host : Host} {ws : Workspace}
    {fault : SettingsError} (hout : job.options.outputPath ws host.cwd = .error fault) :
    (job.run host).after ws = ws := by
  refine ScriptJob.keeps_run (R := Fixes ws) (P := fun _ => True) (fun found path _ mid hmid => ?_)
    (fun _ _ _ _ _ => trivial) trivial ws rfl
  refine ScriptJob.after_compileFile (R := Fixes ws) (fun output houtput => ?_) hmid
  obtain ⟨out, haccepted, -⟩ := ScriptJob.output_eq_ok_iff.mp houtput
  rw [hmid, hout] at haccepted
  cases haccepted

theorem rejectsEarly_run (job : ScriptJob) (host : Host) :
    RejectsEarly (fun _ => False) (job.run host) := by
  intro ws ws' hrejects
  cases hrejects with
  | tells _ htells => exact htells.elim
  | stops hrun hrejection =>
      cases hout : job.options.outputPath ws host.cwd with
      | ok out =>
          rw [admits_run ⟨out, hout⟩ ws (refl_of SameLinks ws) _ ws' hrun] at hrejection
          cases hrejection
      | error fault =>
          have hsame := after_run_of_error hout
          rwa [after, hrun] at hsame

/-- So does a build of a single file. -/
theorem rejectsEarly_compileSingle (host : Host) (project : Project) (modelsSource : String)
    (modelNames : List String) (options : BuildOptions) (path : Path) :
    RejectsEarly (fun _ => False)
      (compileSingle host project modelsSource modelNames options path) := by
  rw [compileSingle]
  split
  · exact rejectsEarly_of_keeps
      (keeps_bind keeps_get fun _ => keeps_bind (keeps_orStop _ _) fun _ => keeps_pure _)
  · exact (rejectsEarly_run _ host).map fun _ => id

end Rejects

end Build

end IntegrationBuild
