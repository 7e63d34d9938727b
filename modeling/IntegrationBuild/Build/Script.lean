import IntegrationBuild.Build.Models
import IntegrationBuild.Import.Check
import IntegrationBuild.Script.Binding
import IntegrationBuild.Usage.Analysis

/-!
Compiling one script with the files it brings in.  Each file is checked on its
own and compiled if nothing is wrong with it; the script passes if nothing is
wrong with any of them.
-/

namespace IntegrationBuild

/-- How a project is built.  The output directory and the number of workers
take the place of those in the settings. -/
structure BuildOptions where
  root : Path
  settings : Settings := {}
  outDir : Option Path := none
  workers : Option Int := none

namespace BuildOptions

/-- Where compiled scripts go. -/
def outputPath (options : BuildOptions) (ws : Workspace) (cwd : Path) :
    Except SettingsError Path :=
  match options.outDir with
  | some path => .ok path
  | none => Settings.outputPath ws cwd options.root options.settings.outputDir

/-- How many workers compile scripts; zero stands for the number in the
settings. -/
def workerCount (options : BuildOptions) : Int :=
  match options.workers with
  | some n => if n == 0 then options.settings.workers else n
  | none => options.settings.workers

end BuildOptions

/-- A script to compile and what it is checked against. -/
structure ScriptJob where
  location : ScriptLocation
  modelsSource : String
  project : Project
  modelNames : List String
  options : BuildOptions

/-- The error that stops a build when a check of imports stops. -/
def BuildError.ofCheck : CheckFault → BuildError
  | .unreadable fault => .modelsUnreadable fault
  | .circle place => .settings (.linkLoop place)

namespace ScriptJob

/-- What the imports of the script are checked against. -/
def scope (job : ScriptJob) : ImportScope :=
  { root := job.options.root
    boundary := job.location.boundary
    modelsFile := job.options.settings.modelsPath job.options.root
    modelsModule := job.options.settings.modelsModule
    modelNames := job.modelNames
    generated := Script.namesOf job.modelsSource
    integrations := job.project.integrations.map (·.name)
    home := if job.location.nested then some job.location.operation.integration else none }

/-- What is expected of the script and its helpers. -/
def expectation (job : ScriptJob) : Usage.Expectation :=
  ⟨job.location.operation.kind, job.location.operation.outputModels⟩

/-- The violations of the contract in a file; only the script itself has to
define the handler. -/
def usage (job : ScriptJob) (ws : Workspace) (path : Path) : Usage.Report :=
  Usage.analyzeFile ws job.expectation (path == job.location.path) path

/-- How a message about a file begins. -/
def lead (job : ScriptJob) (ws : Workspace) (cwd path : Path) : String :=
  Path.shownText ws cwd path job.options.root ++ ": "

/-- Where a file of the script is compiled to. -/
def output (job : ScriptJob) (ws : Workspace) (cwd path : Path) : Except BuildError Path :=
  match job.options.outputPath ws cwd with
  | .error error => .error (.settings error)
  | .ok out =>
    match compiledPath ws cwd path job.options.root out with
    | .error error => .error (.layout error)
    | .ok path => .ok path

/-- What is said of violations of the contract and then of issues of imports. -/
def complaintsOf (report : Usage.Report) (check : ImportCheck) : List String :=
  report.violations.map (fun v => v.place.lead ++ v.message) ++
    check.issues.map fun (line, issue) => "line " ++ toString line ++ ": " ++ issue.message

/-- What is wrong with a file before it is compiled.  Its path is resolved first.  It is
shown to tell of violations, or else once the imports are checked. -/
def complaints (job : ScriptJob) (ws : Workspace) (cwd path : Path) :
    Except CheckFault (List String) := do
  let report := job.usage ws path
  let shown := path.resolvedToShow job.options.root
  resolveAll ws cwd (path :: if report.ok then [] else shown)
  let check ← job.scope.checkAll ws cwd path (importsOfFile ws path)
  resolveAll ws cwd shown
  pure (complaintsOf report check)

/-- Checks a file and compiles it if nothing is wrong with it.  Complaints are
added to those found before.  The file is compiled under the path it is checked under:
the paths of scripts and of the files they bring in start where the root does, so they
are absolute if the root is. -/
def compileFile (job : ScriptJob) (host : Host) (found : List String) (path : Path) :
    Build (List String) := do
  let ws ← get
  let lead := job.lead ws host.cwd path
  let complaints ← Build.orStop .ofCheck (job.complaints ws host.cwd path)
  let found := found ++ complaints.map (lead ++ ·)
  if (job.usage ws path).ok && !found.any (·.startsWith lead) then
    let output ← Build.orStop id (job.output ws host.cwd path)
    match ← Build.byteCompile host job.options.root path output with
    | some error => pure (found ++ [lead ++ error])
    | none => pure found
  else pure found

/-- How far a script is compiled: the places of the files that had their turn,
and what is wrong with them. -/
structure Progress where
  seen : List Path := []
  found : List String := []

/-- Compiles a file and after it the files it brings in, each with those that it
brings in itself.  They are looked up before the file is compiled.  A file is known
by the path it resolves to, so none has two turns; `depth` bounds how long a chain
of files is followed. -/
def compileFrom (job : ScriptJob) (host : Host) : Nat → Progress → Path → Build Progress
  | 0, progress, _ => pure progress
  | depth + 1, progress, path => do
    let ws ← get
    let place := ws.resolve host.cwd path
    if progress.seen.contains place then pure progress
    else
      let helpers := job.scope.helpers ws host.cwd path
      let found ← job.compileFile host progress.found path
      helpers.foldlM (job.compileFrom host depth) { seen := progress.seen ++ [place], found }

/-- Compiles the script and the files it brings in. -/
def compile (job : ScriptJob) (host : Host) : Build Progress := do
  let ws ← get
  job.compileFrom host (ws.entries.length + 2) {} job.location.path

end ScriptJob

/-- The outcome of compiling the script of an operation. -/
structure FileResult where
  path : String
  operation : String
  ok : Bool
  diagnostics : List String := []
deriving DecidableEq, Repr

/-- The document of a result. -/
def FileResult.toJson (result : FileResult) : Json :=
  .obj [("path", .str result.path), ("operation", .str result.operation),
    ("ok", .bool result.ok), ("diagnostics", Json.strings result.diagnostics)]

namespace ScriptJob

/-- The outcome of an operation that has no script. -/
def missing (job : ScriptJob) (ws : Workspace) (cwd : Path) : FileResult :=
  let operation := job.location.operation
  let root := job.options.root
  let nested := Path.shownText ws cwd (operation.nestedPath root) root
  let flat := Path.shownText ws cwd (operation.flatPath root) root
  { path := nested
    operation := operation.name
    ok := false
    diagnostics := ["No script found for " ++ operation.kind.name ++ " '" ++ operation.name ++
      "' of integration '" ++ operation.integration ++ "' (looked for " ++ nested ++ " and " ++
      flat ++ ")"] }

/-- The paths that are resolved to tell that an operation has no script. -/
def resolvedByMissing (job : ScriptJob) : List Path :=
  let operation := job.location.operation
  let root := job.options.root
  (operation.nestedPath root).resolvedToShow root ++ (operation.flatPath root).resolvedToShow root

/-- Compiles the script if it is there. -/
def run (job : ScriptJob) (host : Host) : Build FileResult := do
  let ws ← get
  if job.location.isThere ws then
    let progress ← job.compile host
    pure { path := Path.shownText ws host.cwd job.location.path job.options.root
           operation := job.location.operation.name
           ok := progress.found.isEmpty
           diagnostics := progress.found }
  else
    Build.orStop .ofCheck (resolveAll ws host.cwd job.resolvedByMissing)
    pure (job.missing ws host.cwd)

end ScriptJob

end IntegrationBuild
