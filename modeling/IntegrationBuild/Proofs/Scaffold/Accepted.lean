import IntegrationBuild.Build.Project
import IntegrationBuild.Proofs.Build.Course
import IntegrationBuild.Proofs.Model.Declaration
import IntegrationBuild.Proofs.Scaffold.Verdict
import IntegrationBuild.Proofs.Schema.SyncOutput
import IntegrationBuild.Proofs.TypeExpr.Shape

/-!
Stubs are accepted.  The stub of an operation is written with the name of the models
module, the name of a model and, where there is none, the name of the operation, all
as they are.  Where these may stand there, the stub is read as the tree of its starter
script, and all that is said of the tree is said of the stub.  Models are always fit
to be written, since a loaded project refers to them by ASCII names only.
-/

namespace IntegrationBuild

namespace Operation

theorem mem_terminalModels_iff {op : Operation} {model : String} :
    model ∈ op.terminalModels ↔ .model model ∈ op.output := by
  rw [Operation.terminalModels, List.mem_filterMap]
  constructor
  · rintro ⟨type, htype, heq⟩
    split at heq
    · cases heq
      exact htype
    · cases heq
  · exact fun h => ⟨_, h, rfl⟩

/-- The models that are an output are among those that the output mentions. -/
theorem mem_outputModels_of_mem_terminalModels {op : Operation} {model : String}
    (hmodel : model ∈ op.terminalModels) :
    model ∈ op.outputModels := by
  have hmentioned : ((op.output.flatMap TypeRef.models).find? (· == model)).isSome = true := by
    have hmem : model ∈ op.output.flatMap TypeRef.models := List.mem_flatMap.mpr
      ⟨_, mem_terminalModels_iff.mp hmodel, TypeRef.mem_models_iff.mpr .here⟩
    exact List.find?_isSome.mpr ⟨model, hmem, beq_self_eq_true model⟩
  rw [← find?_outputModels] at hmentioned
  obtain ⟨other, hother, heq⟩ := List.find?_isSome.mp hmentioned
  exact beq_iff_eq.mp heq ▸ hother

end Operation

namespace Scaffold

open Script

section Reading

variable {fold : List Char → List Char} {modelsModule : String} {starter : Starter}

/-- A sound starter script is read as its tree, without faults. -/
theorem Starter.Sound.readTree?_eq (hsound : starter.Sound modelsModule) (hfold : KeepsAscii fold)
    (reading : Reading) :
    ∃ places, readTree? reading fold
        (runesOfText ((starter.rows modelsModule).flatMap Row.letters)) =
      some (starter.tree places (String.ofList (fold modelsModule.toList)), []) := by
  obtain ⟨tokens, hlex, hkinds⟩ :=
    exists_lex?_rows reading fold hsound.fits
      (starter.isSome_entered modelsModule)
  obtain ⟨places, hplaced⟩ := exists_placed tokens
  rw [hkinds, hsound.kinds_rows hfold] at hplaced
  have htree := tree?_kinds places (String.ofList (fold modelsModule.toList)) starter
  rw [← hplaced] at htree
  have hchars : (runesOfText ((starter.rows modelsModule).flatMap Row.letters)).all
      (·.char != '\x00') = true := by
    rw [runesOfText, List.all_map, List.all_eq_true]
    intro c hc
    obtain ⟨row, hrow, hc⟩ := List.mem_flatMap.mp hc
    exact bne_iff_ne.mpr (Row.Fits.ne_of_mem_letters (hsound.fits row hrow) hc).2
  refine ⟨places, ?_⟩
  rw [readTree?, hchars, hlex]
  simp only [guard_true, Option.bind_eq_bind, Option.pure_def, Option.bind_some, htree,
    faults_tree, List.append_nil, List.mergeSort_nil]

end Reading

section Stub

variable {op : Operation} {modelsModule : String}

theorem kind_ofOperation (op : Operation) : (Starter.ofOperation op).kind = op.kind := by
  rw [Starter.ofOperation]
  split
  all_goals (next hkind _ => exact hkind.symm)

theorem model?_ofOperation (op : Operation) :
    (Starter.ofOperation op).model? = op.terminalModels.head? := by
  rw [Starter.ofOperation]
  split
  all_goals (next _ hmodels => rw [hmodels]; rfl)

/-- The normal form of the name of a models module. -/
def normalName (name : String) : String := String.ofList (Text.normalize name.toList)

variable (hsound : (Starter.ofOperation op).Sound modelsModule)
include hsound

/-- The text of a stub has line feeds only. -/
theorem unifyLineBreaks_stub :
    Text.unifyLineBreaks (stub op modelsModule).toList = (stub op modelsModule).toList := by
  rw [toList_stub]
  refine unifyLineBreaks_of_forall_ne fun c hc => ?_
  obtain ⟨row, hrow, hc⟩ := List.mem_flatMap.mp hc
  exact (Row.Fits.ne_of_mem_letters (hsound.fits row hrow) hc).1

theorem exists_strictTree?_stub : ∃ places, strictTree? (stub op modelsModule).toList =
    some ((Starter.ofOperation op).tree places (normalName modelsModule)) := by
  obtain ⟨places, hread⟩ := hsound.readTree?_eq (fun _ => Text.normalize_of_ascii) .strict
  refine ⟨places, ?_⟩
  rw [strictTree?, toList_stub, hread]
  rfl

theorem exists_lenientTree?_stub : ∃ places, lenientTree? (stub op modelsModule).toUTF8 =
    some ((Starter.ofOperation op).tree places modelsModule) := by
  have hfold : KeepsAscii id := fun _ _ => rfl
  obtain ⟨places, hread⟩ := hsound.readTree?_eq hfold .lenient
  refine ⟨places, ?_⟩
  rw [lenientTree?, toList_of_fromUTF8? (fromUTF8?_toUTF8 _), runesOfBytes_flatMap_utf8EncodeChar,
    toList_stub, hread, id, String.ofList_toList]
  rfl

/-- A stub keeps the contract of its operation. -/
theorem violations_analyze_stub (hmodels : ∀ model ∈ op.terminalModels, model ∈ op.outputModels) :
    (Usage.analyze ⟨op.kind, op.outputModels⟩ true (stub op modelsModule).toUTF8).violations =
      [] := by
  obtain ⟨places, htree⟩ := exists_lenientTree?_stub hsound
  rw [Usage.analyze, htree]
  refine violations_checkTree_tree places modelsModule (kind_ofOperation op).symm
    (fun model hmodel => hmodels model ?_) _
  rw [model?_ofOperation] at hmodel
  exact List.mem_of_head? hmodel

/-- A stub imports at most the first of its operation's models. -/
theorem exists_importsOf_stub : ∃ places, importsOf (stub op modelsModule).toUTF8 =
    (Starter.ofOperation op).imports places (normalName modelsModule) := by
  obtain ⟨places, htree⟩ := exists_strictTree?_stub hsound
  refine ⟨places, ?_⟩
  rw [importsOf, Text.decodeText?, fromUTF8?_toUTF8, Option.map_some, Option.bind_some,
    unifyLineBreaks_stub hsound, htree]
  exact imports_tree places _ _

/-- A stub is compiled. -/
theorem compileError?_stub (hmodule : normalName modelsModule ≠ "__future__")
    (hmodel : fixedName ∉ op.terminalModels) (name : String)
    (line? : Nat → Option (List Char)) :
    compileError? name line? (stub op modelsModule).toUTF8 = none := by
  have hfirst : ∃ c rest, (stub op modelsModule).toList = c :: rest ∧ Text.WordChar c := by
    rw [toList_stub]
    cases Starter.ofOperation op with
    | saving model => exact ⟨'f', _, rfl, by decide⟩
    | logging letters => exact ⟨'a', _, rfl, by decide⟩
    | returning model => exact ⟨'f', _, rfl, by decide⟩
    | importing model => exact ⟨'f', _, rfl, by decide⟩
    | answering => exact ⟨'a', _, rfl, by decide⟩
  obtain ⟨c, rest, htext, hc⟩ := hfirst
  obtain ⟨places, hread⟩ := hsound.readTree?_eq (fun _ => Text.normalize_of_ascii) .strict
  rw [compileError?, declaredRunes_toUTF8 htext hc, unifyLineBreaks_stub hsound, toList_stub]
  simp only [hread]
  rw [← normalName, refusal?_tree places hmodule]
  · rfl
  · intro model hfound
    have hname := (hsound.model model hfound).1
    rw [model?_ofOperation] at hfound
    refine ⟨?_, fun h => hmodel (h ▸ List.mem_of_head? hfound)⟩
    rintro rfl
    exact absurd hname (by decide)

/-- The import of a stub is in order where the models module gives the operation's
models.  A module whose name is read as another one is not known by it, and then may
not be another integration. -/
theorem checkAll_importsOf_stub {scope : ImportScope} {ws : Workspace}
    (hmodule : scope.modelsModule = modelsModule)
    (hmodels : ∀ model ∈ op.terminalModels, model ∈ scope.modelNames ∧
      ∃ generated, scope.generated = .ok generated ∧ model ∈ generated)
    (hsource : op.terminalModels ≠ [] → normalName modelsModule = modelsModule ∨
      ∀ ref : ImportRef, ref.source = normalName modelsModule →
        scope.isSibling ws ref.topLevel = false) (cwd path : Path) :
    scope.checkAll ws cwd path (importsOf (stub op modelsModule).toUTF8) = .ok {} := by
  obtain ⟨places, himports⟩ := exists_importsOf_stub hsound
  rw [himports, Starter.imports, model?_ofOperation]
  cases hfirst : op.terminalModels.head? with
  | none => rfl
  | some model =>
    have hmem := List.mem_of_head? hfirst
    obtain ⟨hknown, generated, hgenerated, hgiven⟩ := hmodels model hmem
    have hissue : scope.modelIssue? generated model = none := by
      simp [ImportScope.modelIssue?, hknown, hgiven]
    have hcheck (line : Nat) :
        scope.check ws cwd path
          { line := line, source := normalName modelsModule, names := [model] } = .ok {} := by
      rw [ImportScope.check, if_neg (by simp [ImportRef.isRelative])]
      by_cases hnormal : normalName modelsModule = modelsModule
      · rw [if_pos (beq_iff_eq.mpr (hnormal.trans hmodule.symm)), ImportScope.checkModels,
          hgenerated]
        simp [hissue, bind, Except.bind, pure, Except.pure]
      · have hother := (hsource (List.ne_nil_of_mem hmem)).resolve_left hnormal
          { line := line, source := normalName modelsModule, names := [model] } rfl
        rw [if_neg (by rwa [hmodule, beq_iff_eq]), if_neg (by simp [hother])]
    have hone (line : Nat) :
        scope.checkOne ws cwd path
          { line := line, source := normalName modelsModule, names := [model] } = .ok {} := by
      refine ImportScope.checkOne_eq_ok_iff.mpr ⟨?_, hcheck line⟩
      rw [ImportScope.resolvedBy_of_check rfl (hcheck line) rfl, resolveAll_nil]
    rw [Option.toList_some, List.map_singleton, ImportScope.checkAll, hone]
    rfl

end Stub

section Project

variable {ws : Workspace} {root : Path} {project : Project} {settings : Settings} {op : Operation}

/-- The outputs of a loaded project that are models are declared, and have names in
ASCII. -/
theorem declared_of_mem_terminalModels (hload : Project.load ws root = .ok project)
    (hop : op ∈ project.operations) {model : String} (hmodel : model ∈ op.terminalModels) :
    model ∈ project.modelNames ∧ Text.isAsciiIdentifier model.toList = true ∧
      isKeyword model = false := by
  have hnormal :=
    (Project.normal_of_load hload hop _ (Operation.mem_terminalModels_iff.mp hmodel)).normalForm
  obtain ⟨hknown, hascii, -⟩ := hnormal.hasShape _ .here
  have hvalid := (Project.closed_of_load hload).modelNames_valid model hknown
  exact ⟨hknown, hascii, (Model.isIdentifier_of_isModelName hvalid).2⟩

/-- Whether scripts of a project can import its models: the module bears no reserved
word, and the name that it is read as is its own or that of no integration. -/
structure Importable (project : Project) (modelsModule : String) : Prop where
  word : isKeyword modelsModule = false
  source : normalName modelsModule = modelsModule ∨
    ∀ ref : ImportRef, ref.source = normalName modelsModule →
      ∀ integration ∈ project.integrations, integration.name ≠ ref.topLevel

theorem sound_ofOperation (hload : Project.load ws root = .ok project)
    (hop : op ∈ project.operations) (hfile : Settings.isModuleFile settings.modelsFile = true)
    (hmodule : op.terminalModels ≠ [] → isKeyword settings.modelsModule = false)
    (hname : op.kind = .sync → op.terminalModels = [] → IsQuotable (loggedLetters op.name)) :
    (Starter.ofOperation op).Sound settings.modelsModule where
  source hmodel := by
    rw [model?_ofOperation, ne_eq, List.head?_eq_none_iff] at hmodel
    simp only [Settings.isModuleFile, Bool.and_eq_true] at hfile
    exact ⟨hfile.2, hmodule hmodel⟩
  model model hmodel := by
    rw [model?_ofOperation] at hmodel
    exact (declared_of_mem_terminalModels hload hop (List.mem_of_head? hmodel)).2
  text letters hletters := by
    have hnone : op.kind = .sync ∧ op.terminalModels = [] ∧ letters = loggedLetters op.name := by
      rw [Starter.ofOperation] at hletters
      split at hletters
      · next hkind hmodels =>
        cases hletters
        exact ⟨hkind, hmodels, rfl⟩
      all_goals cases hletters
    obtain ⟨hkind, hmodels, rfl⟩ := hnone
    refine ⟨?_, hname hkind hmodels⟩
    rw [loggedLetters, String.toList_append]
    exact List.append_ne_nil_of_right_ne_nil _ (by decide)

/-- The stub of an operation of a loaded project can be read, keeps the contract,
makes no import that is out of order, and is compiled. -/
theorem accepted_stub (hload : Project.load ws root = .ok project)
    (hop : op ∈ project.operations) (hfile : Settings.isModuleFile settings.modelsFile = true)
    (himport : op.terminalModels ≠ [] → Importable project settings.modelsModule)
    (hname : op.kind = .sync → op.terminalModels = [] → IsQuotable (loggedLetters op.name)) :
    (∃ tree, strictTree? (stub op settings.modelsModule).toList = some tree) ∧
    (Usage.analyze ⟨op.kind, op.outputModels⟩ true
      (stub op settings.modelsModule).toUTF8).violations = [] ∧
    (∀ job : ScriptJob, job.project = project → job.modelNames = project.modelNames →
      job.options.settings = settings →
      (∀ model ∈ op.terminalModels, ∃ generated,
        Script.namesOf job.modelsSource = .ok generated ∧ model ∈ generated) →
      ∀ (ws : Workspace) (cwd path : Path),
      job.scope.checkAll ws cwd path (importsOf (stub op settings.modelsModule).toUTF8) =
        .ok {}) ∧
    (normalName settings.modelsModule ≠ "__future__" → fixedName ∉ op.terminalModels →
      ∀ (name : String) (line? : Nat → Option (List Char)),
      compileError? name line? (stub op settings.modelsModule).toUTF8 = none) := by
  have hsound := sound_ofOperation hload hop hfile (fun h => (himport h).word) hname
  refine ⟨?_, ?_, ?_, fun hfuture hfixed => compileError?_stub hsound hfuture hfixed⟩
  · obtain ⟨places, htree⟩ := exists_strictTree?_stub hsound
    exact ⟨_, htree⟩
  · exact violations_analyze_stub hsound fun _ => Operation.mem_outputModels_of_mem_terminalModels
  · rintro job rfl hnames rfl hgives ws cwd path
    have hmodule : job.scope.modelsModule = job.options.settings.modelsModule := by
      rw [ScriptJob.scope]
    refine checkAll_importsOf_stub hsound hmodule (fun model hmodel => ⟨?_, ?_⟩)
      (fun hmodels => (himport hmodels).source.imp_right fun hother ref href => ?_) cwd path
    · have hdeclared := (declared_of_mem_terminalModels hload hop hmodel).1
      rwa [← hnames] at hdeclared
    · rw [ScriptJob.scope]
      exact hgives model hmodel
    · have hlisted : (job.project.integrations.map (·.name)).contains ref.topLevel = false := by
        rw [Bool.eq_false_iff]
        intro hlisted
        obtain ⟨integration, hmem, heq⟩ := List.mem_map.mp (List.contains_iff_mem.mp hlisted)
        exact hother ref href integration hmem heq
      rw [ImportScope.isSibling, ScriptJob.scope, hlisted]
      rfl

/-- A project of a sync that puts out a model. -/
def savingWorkspace : Workspace :=
  { entries :=
      [(["p"], .directory),
        (["p", "nango.yaml"], .file ("\x7bintegrations: \x7bg: \x7bsyncs: \x7bissues: " ++
          "\x7bendpoint: GET /a, output: Issue\x7d\x7d\x7d\x7d, " ++
          "models: \x7bIssue: \x7bid: string\x7d\x7d\x7d").toUTF8)] }

theorem exists_load_savingWorkspace : ∃ project,
    Project.load savingWorkspace (.absolute ["p"]) = .ok project ∧
      (∃ op ∈ project.operations, op.terminalModels = ["Issue"]) ∧
      Script.namesOf project.modelsSource = .ok ["Issue"] :=
  Outcome.exists_ok_of_decide (by decide +kernel)

/-- The stub of the sync is accepted by every check, with the models module that is
generated for the project. -/
theorem accepted_stub_saving : ∃ project, ∃ op ∈ project.operations,
    Project.load savingWorkspace (.absolute ["p"]) = .ok project ∧
    op.terminalModels = ["Issue"] ∧
    (∃ tree, strictTree? (stub op "models").toList = some tree) ∧
    (Usage.analyze ⟨op.kind, op.outputModels⟩ true (stub op "models").toUTF8).violations = [] ∧
    (∀ (options : BuildOptions) (location : ScriptLocation) (ws : Workspace) (cwd path : Path),
      options.settings = {} →
      (Build.job project options location).scope.checkAll ws cwd path
        (importsOf (stub op "models").toUTF8) = .ok {}) ∧
    compileError? "issues.py" (fun _ => none) (stub op "models").toUTF8 = none := by
  obtain ⟨project, hload, ⟨op, hop, hmodels⟩, hnames⟩ := exists_load_savingWorkspace
  have hmodule : ({} : Settings).modelsModule = "models" := by decide +kernel
  have hnormal : normalName "models" = "models" := by decide +kernel
  have hsome : op.terminalModels ≠ [] := by simp [hmodels]
  have hfile : Settings.isModuleFile ({} : Settings).modelsFile = true := by decide +kernel
  obtain ⟨htree, hcontract, himports, hcompiled⟩ := accepted_stub hload hop hfile
    (fun _ => ⟨by rw [hmodule]; decide, Or.inl (by rw [hmodule, hnormal])⟩)
    (fun _ hnone => absurd hnone hsome)
  rw [hmodule] at htree hcontract himports hcompiled
  refine ⟨project, op, hop, hload, hmodels, htree, hcontract, ?_, ?_⟩
  · intro options location ws cwd path hoptions
    exact himports (Build.job project options location) rfl rfl hoptions
      (fun model hmodel => ⟨["Issue"], hnames, hmodels ▸ hmodel⟩) ws cwd path
  · exact hcompiled (by rw [hnormal]; decide) (by rw [hmodels]; decide) _ _

/-- A project of a sync without an output whose name holds quotes. -/
def quotesWorkspace : Workspace :=
  { entries :=
      [(["p"], .directory),
        (["p", "nango.yaml"], .file ("\x7bintegrations: \x7bg: \x7bsyncs: " ++
          "\x7bopen \"issues\": \x7bendpoint: GET /a\x7d\x7d\x7d\x7d\x7d").toUTF8)] }

/-- The stub of the sync cannot be read, and does not keep the contract. -/
theorem exists_unreadable_stub_quotes :
    Settings.isModuleFile ({} : Settings).modelsFile = true ∧
    ∃ project, Project.load quotesWorkspace (.absolute ["p"]) = .ok project ∧
      ∃ op ∈ project.operations, op.name = "open \"issues\"" ∧
        strictTree? (stub op ({} : Settings).modelsModule).toList = none ∧
        (Usage.analyze ⟨op.kind, op.outputModels⟩ true
          (stub op ({} : Settings).modelsModule).toUTF8).violations ≠ [] := by
  refine ⟨by decide +kernel, ?_⟩
  have hloads : ∃ project, Project.load quotesWorkspace (.absolute ["p"]) = .ok project ∧
      ∃ op ∈ project.operations, op.name = "open \"issues\"" ∧
        (strictTree? (stub op ({} : Settings).modelsModule).toList).isNone = true ∧
        (Usage.analyze ⟨op.kind, op.outputModels⟩ true
          (stub op ({} : Settings).modelsModule).toUTF8).violations.isEmpty = false :=
    Outcome.exists_ok_of_decide (by decide +kernel)
  obtain ⟨project, hload, op, hop, hname, htree, hviolations⟩ := hloads
  refine ⟨project, hload, op, hop, hname, Option.isNone_iff_eq_none.mp htree, ?_⟩
  exact List.isEmpty_eq_false_iff.mp hviolations

end Project

end Scaffold

end IntegrationBuild
