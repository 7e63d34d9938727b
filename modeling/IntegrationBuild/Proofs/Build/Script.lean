import IntegrationBuild.Proofs.Build.Reach
import IntegrationBuild.Proofs.Build.Steps
import IntegrationBuild.Proofs.Workspace.Growth

/-!
Compiling a script with the files it brings in.  A file's turn adds nothing to
the complaints exactly when the file passes, and it changes no script, so the
turns can be judged one by one.
-/

namespace IntegrationBuild

/-- The place of a compiled script. -/
def CompiledPlace (location : Location) : Prop :=
  ∃ stem, location.getLast? = some (stem ++ compiledSuffix)

theorem compiled_ne_dots (stem : String) : stem ++ compiledSuffix ≠ ".." := by
  have hlast : (stem ++ compiledSuffix).toList.getLast? = some 'c' := by
    simp [String.toList_append, compiledSuffix]
  exact (Path.ne_of_getLast? hlast (by decide)).2.2

theorem script_ne_dots (stem : String) : stem ++ scriptSuffix ≠ ".." := by
  have hlast : (stem ++ scriptSuffix).toList.getLast? = some 'y' := by
    simp [String.toList_append, scriptSuffix]
  exact (Path.ne_of_getLast? hlast (by decide)).2.2

theorem CompiledPlace.not_scriptPlace {location : Location}
    (hcompiled : CompiledPlace location) : ¬ScriptPlace location := by
  obtain ⟨stem, hlast⟩ := hcompiled
  rintro ⟨other, hother⟩
  have hsame : stem ++ compiledSuffix = other ++ scriptSuffix :=
    Option.some.inj (hlast.symm.trans hother)
  have hchars := congrArg (fun text : String => text.toList.getLast?) hsame
  simp [String.toList_append, compiledSuffix, scriptSuffix] at hchars

/-- Scripts stay as they are where no script is written. -/
theorem sameScripts_of_grown {directories files : Location → Prop} {ws ws' : Workspace}
    (hgrown : ws.Grown directories files ws')
    (hfiles : ∀ location, files location → ¬ScriptPlace location) : SameScripts ws ws' :=
  ⟨hgrown.before, hgrown.after, fun location content hplace =>
    hgrown.file_iff (fun hfile => hfiles location hfile hplace) content⟩

/-- Compiled scripts take the place of no script. -/
theorem Workspace.Grown.sameScripts {directories : Location → Prop}
    {ws ws' : Workspace} (hgrown : Grown directories CompiledPlace ws ws') :
    SameScripts ws ws' :=
  sameScripts_of_grown hgrown fun _ => CompiledPlace.not_scriptPlace

theorem Workspace.readFile_eq_ok_iff {ws : Workspace} {path : Path}
    {content : ByteArray} :
    ws.readFile path = .ok content ↔ ws.read? path = some content := by
  rw [readFile, read?]
  cases ws.locate path with
  | entry location entry => cases entry <;> simp
  | absent location => simp
  | missing => simp
  | blocked => simp
  | loop => simp

theorem ScriptFile.exists_readFile {ws : Workspace} {path : Path}
    (hfile : ScriptFile ws path) (htree : ws.IsTree) :
    ∃ content, ws.readFile path = .ok content := by
  obtain ⟨content, hentry⟩ :=
    (htree.isFile_iff hfile.plain.ne_dots).mp hfile.isFile
  have hread := (htree.read?_eq_some_iff hfile.plain.ne_dots content).mpr hentry
  exact ⟨content, Workspace.readFile_eq_ok_iff.mpr hread⟩

theorem compiledPlace_of_compiledPath {ws : Workspace}
    {cwd source root out path : Path}
    (hpath : compiledPath ws cwd source root out = .ok path) :
    CompiledPlace path.parts := by
  rw [compiledPath] at hpath
  split at hpath
  · simp at hpath
  · split at hpath
    · next relative hrelative =>
      cases hpath
      rw [Path.withSuffix?] at hrelative
      split at hrelative
      · simp at hrelative
      · cases hrelative
        refine ⟨(Path.ofString (Path.shownText ws cwd source root)).stem, ?_⟩
        rw [Path.join]
        split <;> simp [Path.withName]
    · simp at hpath

/-- In a tree, nothing comes to be but directories and compiled scripts. -/
def GrowsCompiled (ws ws' : Workspace) : Prop :=
  ws.IsTree → ws.Grown (fun _ => True) CompiledPlace ws'

instance : IsPreorder Workspace GrowsCompiled where
  refl _ htree := .refl htree
  trans _ _ _ hfirst hnext htree := (hfirst htree).trans (hnext (hfirst htree).after)

theorem grows_byteCompile {host : Host} {root source output : Path}
    (houtput : CompiledPlace output.parts) :
    Build.Keeps GrowsCompiled (Build.byteCompile host root source output) := by
  refine Build.keeps_byteCompile (Build.keeps_change fun _ _ hmake htree => ?_) ?_
  · exact htree.grown_makeDirectoriesFrom (fun _ _ _ _ _ _ => trivial) hmake
  · intro ws code ws' _ hwrite htree
    obtain ⟨stem, hlast⟩ := houtput
    exact htree.grown_write hlast (compiled_ne_dots stem)
      (fun location hlocation => ⟨stem, hlocation⟩) hwrite

/-- Whether a script compiles depends on its content alone. -/
def Host.Judges (host : Host) (accepts : ByteArray → Bool) : Prop :=
  ∀ name line? source, (host.compile name line? source).isOk = accepts source

section ByteCompile

variable {ws ws' : Workspace} {host : Host} {accepts : ByteArray → Bool}

/-- Compiling a script into its place changes no script, and there is no error
exactly when its content is accepted. -/
theorem grown_of_gives_byteCompile
    (hcompile : host.Judges accepts)
    (htree : ws.IsTree) {root source output : Path} (hsource : ScriptFile ws source)
    (houtput : CompiledPlace output.parts) {error : Option String}
    (hgives : Build.Gives (Build.byteCompile host root source output) ws error ws') :
    ws.Grown (fun _ => True) CompiledPlace ws' ∧
      (error = none ↔
        ∃ content, ws.read? source = some content ∧ accepts content = true) := by
  refine ⟨(grows_byteCompile houtput).of_gives hgives htree, ?_⟩
  obtain ⟨mid, content, hmake, -, hread, hcompiled⟩ :=
    Build.gives_byteCompile_iff.mp hgives
  have hmid : ws.Grown (fun _ => True) CompiledPlace mid :=
    htree.grown_makeDirectoriesFrom (fun _ _ _ _ _ _ => trivial) hmake
  have hcontent : ws.read? source = some content := by
    rw [hmid.sameScripts.read?_eq hsource.plain hsource.place]
    exact Workspace.readFile_eq_ok_iff.mp hread
  have haccepts := hcompile (Path.shownText mid host.cwd source root)
    (host.line? mid (Path.shownText mid host.cwd source root)) content
  cases hcompiled with
  | error hresult | code hresult =>
      rw [hresult] at haccepts
      simp [hcontent, ← haccepts, Except.isOk, Except.toBool]

end ByteCompile

namespace ScriptJob

variable {job : ScriptJob} {ws ws' : Workspace} {cwd path : Path}

/-- A file has a place to be compiled to where there is an output directory to compile
it below. -/
theorem output_eq_ok_iff {output : Path} :
    job.output ws cwd path = .ok output ↔
      ∃ out, job.options.outputPath ws cwd = .ok out ∧
        compiledPath ws cwd path job.options.root out = .ok output := by
  rw [ScriptJob.output]
  cases hout : job.options.outputPath ws cwd with
  | error fault => simp
  | ok out =>
      cases hcompiled : compiledPath ws cwd path job.options.root out with
      | error fault => simp [hcompiled]
      | ok place => simp [hcompiled]

theorem compiledPlace_of_output {output : Path}
    (houtput : job.output ws cwd path = .ok output) :
    CompiledPlace output.parts := by
  obtain ⟨out, -, hpath⟩ := output_eq_ok_iff.mp houtput
  exact compiledPlace_of_compiledPath hpath

/-- Where the complaints about a file are told, its imports were checked. -/
theorem exists_check_of_complaints {complaints : List String}
    (hcomplaints : job.complaints ws cwd path = .ok complaints) :
    ∃ check, job.scope.checkAll ws cwd path (importsOfFile ws path) = .ok check ∧
      complaints = complaintsOf (job.usage ws path) check := by
  rw [ScriptJob.complaints] at hcomplaints
  obtain ⟨-, -, hchecked⟩ := Outcome.bind_eq_ok_iff.mp hcomplaints
  obtain ⟨check, hcheck, hshown⟩ := Outcome.bind_eq_ok_iff.mp hchecked
  obtain ⟨-, -, htold⟩ := Outcome.bind_eq_ok_iff.mp hshown
  exact ⟨check, hcheck, (Except.ok.inj htold).symm⟩

theorem complaints_eq_nil_iff {complaints : List String}
    (hcomplaints : job.complaints ws cwd path = .ok complaints) :
    complaints = [] ↔
      (job.usage ws path).violations = [] ∧ job.scope.ImportsPass ws cwd path := by
  obtain ⟨check, hcheck, rfl⟩ := exists_check_of_complaints hcomplaints
  rw [complaintsOf, List.append_eq_nil_iff, List.map_eq_nil_iff, List.map_eq_nil_iff]
  refine and_congr_right fun _ => ⟨fun hnone => ⟨check, hcheck, hnone⟩, ?_⟩
  rintro ⟨other, hother, hnone⟩
  cases hcheck.symm.trans hother
  exact hnone

/-- The complaints after the checks of a file. -/
def said (job : ScriptJob) (ws : Workspace) (cwd path : Path)
    (found complaints : List String) : List String :=
  found ++ complaints.map (job.lead ws cwd path ++ ·)

/-- Whether a file is compiled after its checks. -/
def isClean (job : ScriptJob) (ws : Workspace) (cwd path : Path)
    (found complaints : List String) : Bool :=
  (job.usage ws path).ok &&
    !(job.said ws cwd path found complaints).any (·.startsWith (job.lead ws cwd path))

theorem said_eq_nil_iff (job : ScriptJob) (ws : Workspace) (cwd path : Path)
    (found complaints : List String) :
    job.said ws cwd path found complaints = [] ↔ found = [] ∧ complaints = [] := by
  rw [said, List.append_eq_nil_iff, List.map_eq_nil_iff]

/-- Where nothing is said, the file is compiled. -/
theorem isClean_of_said_eq_nil {found complaints : List String}
    (hcomplaints : job.complaints ws cwd path = .ok complaints)
    (hnil : job.said ws cwd path found complaints = []) :
    job.isClean ws cwd path found complaints = true := by
  have hnone := ((job.said_eq_nil_iff ws cwd path found complaints).mp hnil).2
  have husage := ((complaints_eq_nil_iff hcomplaints).mp hnone).1
  rw [isClean, hnil, Usage.Report.ok, husage]
  rfl

/-- What the turn of a file does. -/
theorem gives_compileFile_iff {host : Host} {found found' : List String} :
    Build.Gives (job.compileFile host found path) ws found' ws' ↔
      ∃ complaints, job.complaints ws host.cwd path = .ok complaints ∧
        ((job.isClean ws host.cwd path found complaints = true ∧
            ∃ output error, job.output ws host.cwd path = .ok output ∧
              Build.Gives (Build.byteCompile host job.options.root path output)
                ws error ws' ∧
              found' = job.said ws host.cwd path found complaints ++
                error.toList.map (job.lead ws host.cwd path ++ ·)) ∨
          (job.isClean ws host.cwd path found complaints = false ∧
            found' = job.said ws host.cwd path found complaints ∧ ws = ws')) := by
  simp only [compileFile, Build.gives_bind_iff, Build.gives_get_iff,
    Build.gives_orStop_iff]
  constructor
  · rintro ⟨_, _, ⟨rfl, rfl⟩, complaints, _, ⟨hcomplaints, rfl⟩, hgives⟩
    refine ⟨complaints, hcomplaints, ?_⟩
    split at hgives
    · next hclean =>
      simp only [Build.gives_bind_iff, Build.gives_orStop_iff] at hgives
      obtain ⟨output, _, ⟨houtput, rfl⟩, error, mid, hcompile, hpure⟩ := hgives
      refine Or.inl ⟨hclean, output, error, ?_⟩
      have hresult : job.said ws host.cwd path found complaints ++
          error.toList.map (job.lead ws host.cwd path ++ ·) = found' ∧ mid = ws' := by
        cases error with
        | none =>
            obtain ⟨hsaid, hmid⟩ := Build.gives_pure_iff.mp hpure
            exact ⟨(List.append_nil _).trans hsaid, hmid⟩
        | some text => exact Build.gives_pure_iff.mp hpure
      obtain ⟨rfl, rfl⟩ := hresult
      refine ⟨?_, hcompile, rfl⟩
      simpa using houtput
    · next hdirty =>
      obtain ⟨rfl, rfl⟩ := Build.gives_pure_iff.mp hgives
      exact Or.inr ⟨Bool.eq_false_iff.mpr hdirty, rfl, rfl⟩
  · rintro ⟨complaints, hcomplaints, hturn⟩
    refine ⟨ws, ws, ⟨rfl, rfl⟩, complaints, ws, ⟨hcomplaints, rfl⟩, ?_⟩
    rcases hturn with ⟨hclean, output, error, houtput, hcompile, rfl⟩ |
      ⟨hdirty, rfl, rfl⟩
    · split
      · simp only [Build.gives_bind_iff, Build.gives_orStop_iff]
        refine ⟨output, ws, ⟨houtput, rfl⟩, error, ws', hcompile, ?_⟩
        cases error with
        | none =>
            exact Build.gives_pure_iff.mpr ⟨(List.append_nil _).symm, rfl⟩
        | some text => exact Build.gives_pure_iff.mpr ⟨rfl, rfl⟩
      · next hdirty => exact absurd hclean hdirty
    · split
      · next hclean => exact absurd hclean (Bool.eq_false_iff.mp hdirty)
      · exact Build.gives_pure_iff.mpr ⟨rfl, rfl⟩

/-- Nothing is wrong with a file: it keeps to the contract, with a handler if
one is required, its imports give no issue, and its content is accepted. -/
structure Passes (job : ScriptJob) (accepts : ByteArray → Bool) (required : Bool)
    (ws : Workspace) (cwd path : Path) : Prop where
  usage : (Usage.analyzeFile ws job.expectation required path).violations = []
  imports : job.scope.ImportsPass ws cwd path
  compiles : ∃ content, ws.read? path = some content ∧ accepts content = true

section Turns

variable {host : Host} {accepts : ByteArray → Bool} (hcompile : host.Judges accepts)

include hcompile

/-- A turn leaves the scripts as they are, and it adds no complaint exactly when
nothing is wrong with the file. -/
theorem grown_of_gives_compileFile (htree : ws.IsTree) (hfile : ScriptFile ws path)
    {found found' : List String}
    (hgives : Build.Gives (job.compileFile host found path) ws found' ws') :
    ws.Grown (fun _ => True) CompiledPlace ws' ∧
      (found' = [] ↔ found = [] ∧
        job.Passes accepts (path == job.location.path) ws host.cwd path) := by
  obtain ⟨complaints, hcomplaints, hturn⟩ := gives_compileFile_iff.mp hgives
  have hnone := complaints_eq_nil_iff hcomplaints
  have hsaid := job.said_eq_nil_iff ws host.cwd path found complaints
  rcases hturn with ⟨hclean, output, error, houtput, hcompiled, rfl⟩ |
    ⟨hdirty, rfl, rfl⟩
  · obtain ⟨hgrown, herror⟩ := grown_of_gives_byteCompile hcompile htree hfile
      (compiledPlace_of_output houtput) hcompiled
    refine ⟨hgrown, ?_⟩
    rw [List.append_eq_nil_iff, List.map_eq_nil_iff, Option.toList_eq_nil_iff,
      hsaid, herror, hnone]
    constructor
    · rintro ⟨⟨hfound, husage, himports⟩, haccepts⟩
      exact ⟨hfound, husage, himports, haccepts⟩
    · rintro ⟨hfound, husage, himports, haccepts⟩
      exact ⟨⟨hfound, husage, himports⟩, haccepts⟩
  · refine ⟨.refl htree, ?_⟩
    have hsome : job.said ws host.cwd path found complaints ≠ [] := by
      intro hnil
      simp [isClean_of_said_eq_nil hcomplaints hnil] at hdirty
    constructor
    · intro hnil
      exact absurd hnil hsome
    · rintro ⟨hfound, husage, himports, -⟩
      exact absurd (hsaid.mpr ⟨hfound, hnone.mpr ⟨husage, himports⟩⟩) hsome

/-- What the turns of some files do, one after the other. -/
theorem grown_of_gives_turns (htree : ws.IsTree) {files : List Path}
    (hfiles : ∀ file ∈ files, ScriptFile ws file) {found found' : List String}
    (hgives : Build.Gives (files.foldlM (job.compileFile host) found) ws found' ws') :
    ws.Grown (fun _ => True) CompiledPlace ws' ∧
      (found' = [] ↔ found = [] ∧ ∀ before file rest, files = before ++ file :: rest →
        job.Passes accepts (file == job.location.path)
          (Build.after (before.foldlM (job.compileFile host) found) ws)
          host.cwd file) := by
  induction files using List.reverseRecOn generalizing found' ws' with
  | nil =>
      obtain ⟨rfl, rfl⟩ := Build.gives_pure_iff.mp hgives
      exact ⟨.refl htree, by simp⟩
  | append_singleton init last ih =>
      rw [List.foldlM_append] at hgives
      obtain ⟨said, mid, hinit, hlast⟩ := Build.gives_bind_iff.mp hgives
      obtain ⟨hgrown, hsaid⟩ := ih
        (fun file hfile => hfiles file (List.mem_append_left _ hfile)) hinit
      simp only [List.foldlM_cons, List.foldlM_nil, bind_pure] at hlast
      have hfile := hgrown.sameScripts.scriptFile
        (hfiles last (List.mem_append_right _ List.mem_cons_self))
      obtain ⟨hnext, hfound⟩ :=
        grown_of_gives_compileFile hcompile hgrown.after hfile hlast
      refine ⟨hgrown.trans hnext, ?_⟩
      rw [hfound, hsaid, and_assoc]
      refine and_congr_right fun _ => ⟨?_, ?_⟩
      · rintro ⟨hbefore, hpasses⟩ before file rest hsplit
        rcases List.eq_nil_or_concat rest with rfl | ⟨rest, other, rfl⟩
        · obtain ⟨rfl, rfl⟩ := List.append_singleton_inj.mp hsplit
          rwa [hinit.after_eq]
        · refine hbefore before file rest ?_
          rw [List.concat_eq_append, ← List.cons_append, ← List.append_assoc] at hsplit
          exact (List.append_singleton_inj.mp hsplit).1
      · intro hpasses
        refine ⟨fun before file rest hsplit => ?_, ?_⟩
        · exact hpasses before file (rest ++ [last]) (by simp [hsplit])
        · have hturn := hpasses init last [] rfl
          rwa [hinit.after_eq] at hturn

end Turns

end ScriptJob

end IntegrationBuild
