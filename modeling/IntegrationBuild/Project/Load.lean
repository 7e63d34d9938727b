import IntegrationBuild.Schema.Load
import IntegrationBuild.Text.Lines
import IntegrationBuild.Workspace.Basic
import IntegrationBuild.Yaml.Load

/-!
Loading the project file of a directory.
-/

namespace IntegrationBuild

/-- Why a project file does not load: it breaks the grammar of project files,
its bytes are not UTF-8, a scalar does not fit its tag, or its document holds
itself, so that there may be no end to the models in it. -/
inductive LoadError where
  | schema (error : SchemaError)
  | undecodable
  | scalar (fault : Yaml.ScalarFault)
  | circular
deriving Repr

namespace Project

/-- The name of a project file. -/
def fileName : String := "nango.yaml"

/-- The project file of a directory. -/
def filePath (root : Path) : Path :=
  root.child fileName

/-- The project that a parsed document describes. -/
def ofValue (path : Path) (value : Value) : Except LoadError Project :=
  match value with
  | .mapping entries =>
    match Schema.projectOf path.text entries with
    | .ok project => .ok project
    | .error error => .error (.schema error)
  | _ => .error (.schema (.invalid (.notMapping path.text)))

/-- The project that the bytes of a project file describe. -/
def ofBytes (path : Path) (content : ByteArray) : Except LoadError Project :=
  match Text.decodeText? content with
  | none => .error .undecodable
  | some text =>
    match Yaml.load text with
    | .ok value => ofValue path value
    | .error .malformed => .error (.schema (.invalid (.unreadable path.text)))
    | .error (.scalar fault) => .error (.scalar fault)
    | .error .circular => .error .circular

/-- The project of a directory. -/
def load (ws : Workspace) (root : Path) : Except LoadError Project :=
  match ws.read? (filePath root) with
  | none => .error (.schema (.invalid (.missingFile (filePath root).text)))
  | some content => ofBytes (filePath root) content

/-- What is told of a project file: its project, or the rule it breaks. -/
structure LoadResult where
  project : Option Project := none
  error : Option SchemaError := none

/-- The project of a directory or the rule that its project file breaks.  What
stops the reading before there is a document is no result. -/
def loadResult (ws : Workspace) (root : Path) : Except LoadError LoadResult :=
  match load ws root with
  | .ok project => .ok { project := some project }
  | .error (.schema error) => .ok { error := some error }
  | .error fault => .error fault

end Project

end IntegrationBuild
