import IntegrationBuild.Build.Generate
import IntegrationBuild.Build.Project
import IntegrationBuild.CommandLine.Command

/-!
Running commands.  A command answers with its exit code and what it writes.
-/

namespace IntegrationBuild.CommandLine

/-- The answer of a command. -/
structure Answer where
  exit : Nat
  out : String := ""
  err : String := ""
deriving DecidableEq, Repr

/-- Where the program runs: what a build finds around it, and the home
directory. -/
structure Surroundings where
  host : Host
  home : Path

/-- A path of the command line: one that begins with a tilde starts at the home
directory. -/
def expandHome (around : Surroundings) (text : String) : Build Path :=
  let path := Path.ofString text
  match path.root, path.parts with
  | "", first :: rest =>
    if first == "~" then pure { around.home with parts := around.home.parts ++ rest }
    else if first.startsWith "~" then throw .noHome
    else pure path
  | _, _ => pure path

/-- The absolute path of a path of the command line. -/
def resolvePath (around : Surroundings) (text : String) : Build Path := do
  let path ← expandHome around text
  Build.orStop .settings (Settings.resolveChecked (← get) around.host.cwd path)

/-- An error as it is written. -/
def errorLine (message : String) : String :=
  "error: " ++ message ++ "\n"

/-- The answer to a project without a project file. -/
def missingProject (root : Path) : Answer :=
  { exit := 2, err := errorLine ((Project.filePath root).text ++ " does not exist") }

/-- Runs a command if the project has a project file. -/
def withProject (root : Path) (command : Build Answer) : Build Answer := do
  if (← get).isFile (Project.filePath root) then command else pure (missingProject root)

/-- Answers with the error of a project file that does not load. -/
def reportingSchema (command : Build Answer) : Build Answer :=
  tryCatch command fun error =>
    match error with
    | .load (.schema error) => pure { exit := 1, err := errorLine error.message }
    | error => throw error

/-- Answers with the error of settings that cannot be used. -/
def reportingSettings (command : Build Answer) : Build Answer :=
  tryCatch command fun error =>
    match error with
    | .settings fault =>
      if fault.isReported then pure { exit := 1, err := errorLine fault.message }
      else throw error
    | error => throw error

/-- A line that names a file of the project. -/
def fileLine (lead : String) (root path : Path) : String :=
  lead ++ ": " ++ ((path.relativeTo? root).getD path).text ++ "\n"

/-- Starts a project from the example. -/
def runInit (root : Path) : Build Answer := do
  let created ← Build.init root
  pure { exit := 0, out := String.join (created.map (fileLine "created" root)) }

/-- Writes the models module and starter scripts. -/
def runGenerate (root : Path) : Build Answer :=
  withProject root <| reportingSchema do
    let result ← Build.generate root none
    pure { exit := 0
           out := fileLine "models" root result.models ++
            String.join (result.created.map (fileLine "created" root)) }

/-- What is written about a script that failed. -/
def failureText (result : FileResult) : String :=
  "failed: " ++ result.path ++ "\n" ++
    String.join (result.diagnostics.map fun line => "  " ++ line ++ "\n")

/-- The answer to a build. -/
def buildAnswer (report : BuildReport) : Answer :=
  match report.error with
  | some error => { exit := 1, err := errorLine error }
  | none =>
    if report.success then
      { exit := 0, out := "compiled " ++ toString report.files.length ++ " file(s)\n" }
    else { exit := 1, err := String.join (report.failed.map failureText) }

/-- Compiles a project. -/
def runCompile (around : Surroundings) (root : Path) (outDir : Option String)
    (workers : Option Int) : Build Answer :=
  withProject root do
    let out ← outDir.mapM (resolvePath around)
    let options ← Build.optionsFor root out workers
    let report ← Build.compileProject around.host options
    pure (buildAnswer report)

/-- The models module that is verified. -/
def modelsToVerify (around : Surroundings) (root : Path) (models : Option String) : Build Path := do
  match models with
  | some text => resolvePath around text
  | none => pure ((← Build.loadSettings root).modelsPath root)

/-- The answer to a check of the models module. -/
def checkAnswer (path : Path) (check : ModelsCheck) : Answer :=
  if check.missing then
    { exit := 2
      err := "models: " ++ path.text ++ "\n" ++
        errorLine "generated models module does not exist" }
  else if check.ok then { exit := 0 }
  else { exit := 1, err := "mismatch: " ++ path.text ++ "\n" }

/-- Tells whether the models module is up to date. -/
def runVerify (around : Surroundings) (root : Path) (models : Option String) : Build Answer :=
  withProject root do
    let path ← modelsToVerify around root models
    reportingSchema do
      let check ← Build.verifyModels root path
      pure (checkAnswer path check)

/-- Runs a command. -/
def run (around : Surroundings) (command : Command) : Build Answer :=
  match command with
  | .init root => do
    let root ← resolvePath around root
    reportingSettings (runInit root)
  | .generate root => do
    let root ← resolvePath around root
    reportingSettings (runGenerate root)
  | .compile root outDir workers => do
    let root ← resolvePath around root
    reportingSettings (runCompile around root outDir workers)
  | .verify root models => do
    let root ← resolvePath around root
    reportingSettings (runVerify around root models)

/-- Runs a command line. -/
def runArguments (around : Surroundings) (args : List String) : Build Answer :=
  match request args with
  | .leave exit out err => pure { exit := exit, out := out, err := err }
  | .run command => run around command

end IntegrationBuild.CommandLine
