import IntegrationBuild.Build.Script

/-!
Compiling a project.  The models module is written and compiled first, then
every script on its own; a script that fails does not stop the others.
-/

namespace IntegrationBuild

/-- The outcome of compiling a project; the error is that of the project file
when it does not load. -/
structure BuildReport where
  success : Bool
  files : List FileResult := []
  error : Option String := none
deriving DecidableEq, Repr

namespace BuildReport

/-- The scripts that failed. -/
def failed (report : BuildReport) : List FileResult :=
  report.files.filter (!·.ok)

/-- The document of a report. -/
def toJson (report : BuildReport) : Json :=
  .obj [("success", .bool report.success), ("error", Json.optional report.error),
    ("files", .arr (report.files.map FileResult.toJson))]

end BuildReport

/-- The name of the document of a project. -/
def projectDocument : String := "nango.json"

/-- The name of the report of a build. -/
def reportDocument : String := "compile_report.json"

namespace Build

/-- Where the models module is compiled to. -/
def compiledModels (out : Path) (settings : Settings) : Path :=
  let file := Path.ofString settings.modelsFile
  out.join ((file.withSuffix? compiledSuffix).getD file)

/-- Writes and compiles the models module and writes the document of the
project. -/
def writeModelsArtifacts (host : Host) (project : Project) (options : BuildOptions) (out : Path) :
    Build Unit := do
  writeModels options.root project options.settings
  let path := options.settings.modelsPath options.root
  match ← byteCompile host options.root path (compiledModels out options.settings) with
  | some text => throw (.modelsBroken path.name text)
  | none => writeJson (out.child projectDocument) project.toJson

/-- The first folder of the output directory below the root; scripts in it take
no part in a build. -/
def outputFolder (ws : Workspace) (cwd out root : Path) : String :=
  String.ofList ((Path.shownText ws cwd out root).toList.takeWhile (· != '/'))

/-- The job of a script. -/
def job (project : Project) (options : BuildOptions) (location : ScriptLocation) : ScriptJob :=
  { location := location
    modelsSource := project.modelsSource
    project := project
    modelNames := project.modelNames
    options := options }

/-- Compiles the scripts of a loaded project. -/
def compileLoaded (host : Host) (options : BuildOptions) (project : Project) :
    Build BuildReport := do
  let out ← orStop .settings (options.outputPath (← get) host.cwd)
  makeDirectories out
  writeModelsArtifacts host project options out
  let ws ← get
  let folder := outputFolder ws host.cwd out options.root
  let locations ← orStop .ignored
    (project.scripts ws host.cwd options.root folder options.settings.nestedIgnore)
  if options.workerCount ≤ 0 then throw .noWorkers
  let files ← locations.mapM fun location => (job project options location).run host
  let report : BuildReport := { success := files.all (·.ok), files := files }
  writeJson (out.child reportDocument) report.toJson
  pure report

/-- Compiles a project. -/
def compileProject (host : Host) (options : BuildOptions) : Build BuildReport := do
  match Project.load (← get) options.root with
  | .ok project => compileLoaded host options project
  | .error (.schema error) => pure { success := false, error := some error.message }
  | .error error => throw (.load error)

/-- The options of a project under its own settings. -/
def optionsFor (root : Path) (outDir : Option Path) (workers : Option Int) :
    Build BuildOptions := do
  let settings ← loadSettings root
  pure { root := root, settings := settings, outDir := outDir, workers := workers }

/-- A script and the compiled form it is to have. -/
structure FileToCompile where
  input : Path
  output : Path

/-- Pairs a script with its compiled form.  A relative path starts at the root
of the project. -/
def fileToCompile (ws : Workspace) (cwd : Path) (options : BuildOptions) (path : Path) :
    Except BuildError FileToCompile :=
  let input := options.root.join path
  match options.outputPath ws cwd with
  | .error error => .error (.settings error)
  | .ok out =>
    match resolveAll ws cwd (input.resolvedToShow options.root) with
    | .error fault => .error (.ofCheck fault)
    | .ok () =>
      match compiledPath ws cwd input options.root out with
      | .error error => .error (.layout error)
      | .ok output => .ok { input := input, output := output }

/-- The operation whose script a file is.  A file in a folder for scripts has
to be in the folder of its own integration and kind. -/
def operationOf? (project : Project) (path : Path) : Option Operation := do
  let operation ← project.operation? path.stem
  match path.allParts.reverse with
  | _ :: folder :: integration :: _ =>
    if folder == OperationKind.sync.folder || folder == OperationKind.action.folder then
      if integration != operation.integration || folder != operation.folder then none
      else some operation
    else some operation
  | _ => some operation

/-- Compiles one file of a project; nothing if it is no operation's script, which is told
with its path. -/
def compileSingle (host : Host) (project : Project) (modelsSource : String)
    (modelNames : List String) (options : BuildOptions) (path : Path) :
    Build (Option FileResult) := do
  match operationOf? project path with
  | none =>
    orStop .ofCheck (resolveAll (← get) host.cwd (path.resolvedToShow options.root))
    pure none
  | some operation =>
    let nested := path.parent.name == operation.folder
    let location : ScriptLocation :=
      { operation := operation
        path := path
        boundary := if nested then options.root.child operation.integration else options.root
        nested := nested }
    let job : ScriptJob :=
      { location := location, modelsSource := modelsSource, project := project
        modelNames := modelNames, options := options }
    pure (some (← job.run host))

end Build

end IntegrationBuild
