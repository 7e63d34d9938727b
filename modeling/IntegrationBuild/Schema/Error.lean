import IntegrationBuild.Project.Basic
import IntegrationBuild.Schema.Checked
import IntegrationBuild.TypeExpr.Error

/-!
Why a project file does not load.  The message shown to the user is coarse
where the grammar of the file is concerned; the details are kept apart.
-/

namespace IntegrationBuild

/-- A violation of the grammar of project files. -/
inductive SchemaFault where
  | missingFile (path : String)
  | unreadable (path : String)
  | notMapping (path : String)
  | malformed (path : String) (dialect : Dialect) (problems : List Schema.Problem)
  | modelBody (model : String)
  | modelName (model : String)
  | modelTwice (model : String)
  | operationType (text integration operation : String) (cause : FieldError)
  | operationTwice (operation first second : String)
deriving Repr

/-- The details of a violation. -/
def SchemaFault.details : SchemaFault → String
  | .missingFile path => path ++ " does not exist"
  | .unreadable path => "Could not read " ++ path ++ ": "
  | .notMapping path => path ++ " must contain a mapping at the top level"
  | .malformed path dialect problems =>
    path ++ " (" ++ dialect.name ++ "): " ++ Schema.report problems
  | .modelBody model => "Model " ++ model ++ " must map field names to types"
  | .modelName model => "Model name \"" ++ model ++ "\" cannot be declared in Python"
  | .modelTwice model => "Model \"" ++ model ++ "\" is declared more than once"
  | .operationType text integration operation cause =>
    "\"" ++ text ++ "\" used by " ++ integration ++ "/" ++ operation ++
      " is neither a model nor a valid type: " ++ cause.message
  | .operationTwice operation first second =>
    "Operation \"" ++ operation ++ "\" is declared by both " ++ first ++ " and " ++ second

/-- Why a project file is refused. -/
inductive SchemaError where
  | invalid (fault : SchemaFault)
  | field (error : FieldError)
  | missingId (model : String)
deriving Repr

/-- The message shown to the user. -/
def SchemaError.message : SchemaError → String
  | .invalid _ => "Problem validating the nango.yaml file."
  | .field error => error.message
  | .missingId model =>
    "Model \"" ++ model ++ "\" doesn't have an id field. This is required to be " ++
      "able to uniquely identify the data record."

end IntegrationBuild
