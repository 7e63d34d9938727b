import IntegrationBuild.Ignore.Matcher
import IntegrationBuild.Json.Parser
import IntegrationBuild.Json.Printer
import IntegrationBuild.Layout.Compiled
import IntegrationBuild.Project.Load
import IntegrationBuild.Script.Compile
import IntegrationBuild.Settings.Load
import IntegrationBuild.Workspace.Change

/-!
Building as a change of the file system.  A build may stop with an error; what
it has written by then stays written.
-/

namespace IntegrationBuild

/-- What stops a build. -/
inductive BuildError where
  /-- The project file does not load. -/
  | load (error : LoadError)
  /-- The settings cannot be used. -/
  | settings (error : SettingsError)
  /-- A file cannot be read or written. -/
  | file (error : FileError)
  /-- A script has no compiled form. -/
  | layout (error : LayoutError)
  /-- It cannot be told which scripts are ignored. -/
  | ignored (error : Ignore.MatchError)
  /-- A compiled script would replace something that is no file. -/
  | occupied (path : Path) (isLink : Bool)
  /-- The generated models module does not compile. -/
  | modelsBroken (name text : String)
  /-- The source of the models module cannot be read. -/
  | modelsUnreadable (fault : Script.Fault)
  /-- There is no worker to compile the scripts. -/
  | noWorkers
  /-- A number does not fit into a report. -/
  | numberTooLarge
  /-- There is no home directory for a name. -/
  | noHome
deriving Repr

namespace BuildError

/-- The text of an error; a project file that is not UTF-8 has none. -/
def message : BuildError → String
  | .load (.schema error) => error.message
  | .load .undecodable => ""
  | .load (.scalar fault) => fault.message
  | .load .circular => "maximum recursion depth exceeded"
  | .settings error => error.message
  | .file error => error.message
  | .layout error => error.message
  | .ignored error => error.message
  | .occupied path true =>
    path.text ++ " is a symlink and will be changed into a regular file if import writes a " ++
      "byte-compiled file to it"
  | .occupied path false =>
    path.text ++ " is a non-regular file and will be changed into a regular one if import " ++
      "writes a byte-compiled file to it"
  | .modelsBroken name text => "Generated " ++ name ++ " does not compile: " ++ text
  | .modelsUnreadable fault =>
    fault.cause.message ++ " (<unknown>, line " ++ toString fault.span.start.line ++ ")"
  | .noWorkers => "max_workers must be greater than 0"
  | .numberTooLarge => "Integer exceeds 64-bit range"
  | .noHome => "Could not determine home directory."

end BuildError

/-- A step of a build: it changes the file system, also when it stops. -/
abbrev Build := ExceptT BuildError (StateM Workspace)

/-- Compiles a script under a name.  The lines of the file that the name leads
to are at hand for errors. -/
abbrev ByteCompiler :=
  (name : String) → (line? : Nat → Option (List Char)) → (source : ByteArray) →
    Except String ByteArray

/-- A byte compiler that only finds the errors of scripts; what it compiles is
empty. -/
def checkingCompiler : ByteCompiler := fun name line? source =>
  match Script.compileError? name line? source with
  | some text => .error text
  | none => .ok ByteArray.empty

/-- What a build finds around it: the current directory and the compiler. -/
structure Host where
  cwd : Path
  compile : ByteCompiler

namespace Build

/-- Stops a build with an error, if there is one. -/
def orStop {ε α : Type} (wrap : ε → BuildError) (result : Except ε α) : Build α :=
  match result with
  | .ok value => pure value
  | .error error => throw (wrap error)

/-- Changes the file system or stops. -/
def change (step : Workspace → Except FileError Workspace) : Build Unit := do
  match step (← get) with
  | .ok ws => set ws
  | .error error => throw (.file error)

/-- Makes a directory and its parents. -/
def makeDirectories (path : Path) : Build Unit :=
  change fun ws => ws.makeDirectories path

/-- Writes a file. -/
def write (path : Path) (content : ByteArray) : Build Unit :=
  change fun ws => ws.write path content

/-- Writes a text in UTF-8. -/
def writeText (path : Path) (text : String) : Build Unit :=
  write path text.toUTF8

/-- Reads a file. -/
def read (path : Path) : Build ByteArray := do
  orStop .file ((← get).readFile path)

/-- Reads a document; nothing if the file holds none. -/
def readJson (path : Path) : Build (Option Json) := do
  pure ((String.fromUTF8? (← read path)).bind Json.parse?)

/-- Writes a document, making the directory of its file. -/
def writeJson (path : Path) (json : Json) : Build Unit := do
  makeDirectories path.parent
  match json.artifact? with
  | some text => writeText path text
  | none => throw .numberTooLarge

end Build

/-- A line of the file that a name leads to from the current directory, counted
from one. -/
def Host.line? (host : Host) (ws : Workspace) (name : String) (line : Nat) :
    Option (List Char) :=
  (ws.read? (host.cwd.child name)).map fun content =>
    (Script.lineRunes line (Script.unifyRunes (Script.runesOfBytes content.toList))).map
      Script.Rune.char

namespace Build

/-- Whether a compiled script may be written: what stands there is a file or
nothing. -/
def checkFree (path : Path) : Build Unit := do
  let ws ← get
  if ws.isLink path then throw (.occupied path true)
  else if ws.exists? path && !ws.isFile path then throw (.occupied path false)
  else pure ()

/-- Compiles a script into a file, making the directory of that file.  The
answer is the error of the script, if it has one. -/
def byteCompile (host : Host) (root source output : Path) : Build (Option String) := do
  makeDirectories output.parent
  checkFree output
  let ws ← get
  let content ← read source
  let name := Path.shownText ws host.cwd source root
  match host.compile name (host.line? ws name) content with
  | .error text => pure (some text)
  | .ok code =>
    write output code
    pure none

end Build

end IntegrationBuild
