import IntegrationBuild.Model.Basic

/-!
A loaded project: its integrations with their operations, and its models.
-/

namespace IntegrationBuild

/-- The kind of an operation. -/
inductive OperationKind where
  | sync
  | action
deriving DecidableEq, Repr, Inhabited

namespace OperationKind

/-- The word for a kind. -/
def name : OperationKind → String
  | .sync => "sync"
  | .action => "action"

/-- The word for a kind with its first letter in upper case. -/
def title : OperationKind → String
  | .sync => "Sync"
  | .action => "Action"

/-- The folder that holds the scripts of a kind. -/
def folder : OperationKind → String
  | .sync => "syncs"
  | .action => "actions"

end OperationKind

/-- The grammar a project file is written in: the first keys operations
directly under an integration, the second groups them by kind. -/
inductive Dialect where
  | v1
  | v2
deriving DecidableEq, Repr, Inhabited

/-- The word for a dialect. -/
def Dialect.name : Dialect → String
  | .v1 => "v1"
  | .v2 => "v2"

/-- An operation of an integration. -/
structure Operation where
  name : String
  kind : OperationKind
  integration : String
  output : List TypeRef := []
  input : Option TypeRef := none
  runs : Option String := none
  endpoints : List String := []
  webhooks : List String := []
  syncType : Option String := none
  trackDeletes : Bool := false
  autoStart : Bool := true
  scopes : List String := []
  description : Option String := none
  version : Option String := none
deriving Inhabited, Repr

namespace Operation

/-- Adds the names that are not yet listed, in order. -/
def addNames (known : List String) (names : List String) : List String :=
  names.foldl (fun known name => if known.contains name then known else known ++ [name]) known

/-- The models mentioned by the output, each once, in order. -/
def outputModels (op : Operation) : List String :=
  addNames [] (op.output.flatMap TypeRef.models)

/-- The models that are themselves an output, not part of a larger type. -/
def terminalModels (op : Operation) : List String :=
  op.output.filterMap fun
    | .model name => some name
    | _ => none

/-- The folder that holds the operation's script. -/
def folder (op : Operation) : String :=
  op.kind.folder

/-- The JSON form of an operation. -/
def toJson (op : Operation) : Json :=
  .obj [("name", .str op.name),
    ("type", .str op.kind.name),
    ("runs", Json.optional op.runs),
    ("endpoints", Json.strings op.endpoints),
    ("input", match op.input with | some ref => ref.toJson | none => .null),
    ("output", .arr (TypeRef.toJsonList op.output)),
    ("webhook_subscriptions", Json.strings op.webhooks),
    ("sync_type", Json.optional op.syncType),
    ("track_deletes", .bool op.trackDeletes),
    ("auto_start", .bool op.autoStart),
    ("scopes", Json.strings op.scopes),
    ("description", Json.optional op.description),
    ("version", Json.optional op.version)]

end Operation

/-- An integration with its operations in declaration order. -/
structure Integration where
  name : String
  operations : List Operation
deriving Inhabited, Repr

namespace Integration

/-- The operations of one kind. -/
def ofKind (integration : Integration) (kind : OperationKind) : List Operation :=
  integration.operations.filter fun op => op.kind == kind

/-- The syncs of an integration. -/
def syncs (integration : Integration) : List Operation :=
  integration.ofKind .sync

/-- The actions of an integration. -/
def actions (integration : Integration) : List Operation :=
  integration.ofKind .action

/-- The JSON form of an integration. -/
def toJson (integration : Integration) : Json :=
  .obj [("name", .str integration.name),
    ("operations", .arr (integration.operations.map Operation.toJson))]

end Integration

/-- The JSON form of a field. -/
def ModelField.toJson (field : ModelField) : Json :=
  .obj [("name", .str field.name), ("raw", .str field.raw), ("optional", .bool field.optional),
    ("type", field.type.toJson)]

/-- The JSON form of a model. -/
def Model.toJson (model : Model) : Json :=
  .obj [("name", .str model.name), ("extends", Json.strings model.bases),
    ("fields", .arr (model.fields.map ModelField.toJson))]

/-- A loaded project. -/
structure Project where
  dialect : Dialect
  integrations : List Integration
  models : List Model
deriving Inhabited, Repr

namespace Project

/-- The names of the models, in order. -/
def modelNames (project : Project) : List String :=
  project.models.map (·.name)

/-- The first model of a name. -/
def model? (project : Project) (name : String) : Option Model :=
  project.models.find? fun model => model.name == name

/-- All operations, integration by integration. -/
def operations (project : Project) : List Operation :=
  project.integrations.flatMap (·.operations)

/-- The first operation of a name. -/
def operation? (project : Project) (name : String) : Option Operation :=
  project.operations.find? fun op => op.name == name

/-- The JSON form of a project. -/
def toJson (project : Project) : Json :=
  .obj [("dialect", .str project.dialect.name),
    ("integrations", .arr (project.integrations.map Integration.toJson)),
    ("models", .arr (project.models.map Model.toJson))]

end Project

end IntegrationBuild
