import IntegrationBuild.Model.Inheritance
import IntegrationBuild.Schema.Document
import IntegrationBuild.Schema.Models

/-!
From a document to a project: the models are built, the operations of either
form are brought into one shape, and the rules that concern the whole project
are checked.
-/

namespace IntegrationBuild.Schema

/-- The types an operation mentions. -/
def operationTypes (integration operation : String) (models : List String)
    (texts : List String) : Except SchemaError (List TypeRef) :=
  texts.mapM fun text =>
    match TypeExpr.compileField text models (integration ++ "/" ++ operation) none with
    | .ok ref => .ok ref
    | .error cause => .error (.invalid (.operationType text integration operation cause))

/-- The texts of an optional list. -/
def textsOf (texts : Option TextOrList) : List String :=
  match texts with
  | some texts => texts.toList
  | none => []

/-- The output and the input of an operation. -/
def signature (integration operation : String) (models : List String)
    (output : Option TextOrList) (input : Option String) :
    Except SchemaError (List TypeRef × Option TypeRef) := do
  let output ← operationTypes integration operation models (textsOf output)
  let inputs ← operationTypes integration operation models input.toList
  .ok (output, inputs.head?)

/-- An operation of the flat form in common shape. -/
def ofFlat (models : List String) (integration name : String) (raw : FlatOperation) :
    Except SchemaError Operation := do
  let (output, input) ← signature integration name models raw.returns raw.input
  .ok
    { name := name, kind := raw.kind, integration := integration
      output := output, input := input, runs := raw.runs
      webhooks := textsOf raw.webhooks
      trackDeletes := raw.trackDeletes, autoStart := raw.autoStart
      scopes := textsOf raw.scopes
      description := raw.description, version := raw.version }

/-- A sync of the grouped form in common shape. -/
def ofSync (models : List String) (integration name : String) (raw : SyncEntry) :
    Except SchemaError Operation := do
  let (output, input) ← signature integration name models raw.output raw.input
  .ok
    { name := name, kind := .sync, integration := integration
      output := output, input := input, runs := raw.runs
      endpoints := raw.endpoint.toList
      webhooks := textsOf raw.webhooks
      syncType := raw.syncType
      trackDeletes := raw.trackDeletes, autoStart := raw.autoStart
      scopes := textsOf raw.scopes
      description := raw.description, version := raw.version }

/-- An action of the grouped form in common shape. -/
def ofAction (models : List String) (integration name : String) (raw : ActionEntry) :
    Except SchemaError Operation := do
  let (output, input) ← signature integration name models raw.output raw.input
  .ok
    { name := name, kind := .action, integration := integration
      output := output, input := input
      endpoints := textsOf raw.endpoint
      scopes := textsOf raw.scopes
      description := raw.description, version := raw.version }

/-- An integration of the flat form in common shape. -/
def flatIntegration (models : List String) (name : String)
    (operations : List (String × FlatOperation)) : Except SchemaError Integration := do
  let operations ← operations.mapM fun (op, raw) => ofFlat models name op raw
  .ok { name := name, operations := operations }

/-- An integration of the grouped form in common shape: syncs, then actions. -/
def groupedOperations (models : List String) (name : String) (body : GroupedIntegration) :
    Except SchemaError Integration := do
  let syncs ← body.syncs.mapM fun (op, raw) => ofSync models name op raw
  let actions ← body.actions.mapM fun (op, raw) => ofAction models name op raw
  .ok { name := name, operations := syncs ++ actions }

/-- The integrations of a document in common shape. -/
def normalize (models : List String) : Document → Except SchemaError (List Integration)
  | .flat integrations _ =>
    integrations.mapM fun (name, operations) => flatIntegration models name operations
  | .grouped integrations _ =>
    integrations.mapM fun (name, body) => groupedOperations models name body

/-- Checks that no two operations share a name.  `seen` holds the operations
met so far with their integrations. -/
def checkOperationNames : List Operation → List (String × String) → Except SchemaError Unit
  | [], _ => .ok ()
  | op :: rest, seen =>
    match seen.lookup op.name with
    | some first => .error (.invalid (.operationTwice op.name first op.integration))
    | none => checkOperationNames rest ((op.name, op.integration) :: seen)

/-- The models that the syncs of the project put out, in order. -/
def syncOutputModels (integrations : List Integration) : List String :=
  integrations.flatMap fun integration => integration.syncs.flatMap Operation.outputModels

/-- Whether a model is declared and its records have no `id`. -/
def lacksId (models : List Model) (name : String) : Bool :=
  match Model.byName? models name with
  | none => false
  | some model => !(Model.allFieldNames models model).contains "id"

/-- Checks that every record put out by a sync can be identified. -/
def checkSyncOutputs (integrations : List Integration) (models : List Model) :
    Except SchemaError Unit :=
  match (syncOutputModels integrations).find? (lacksId models) with
  | some name => .error (.missingId name)
  | none => .ok ()

/-- The project that the entries of a document describe; `path` is the file
they come from. -/
def projectOf (path : String) (entries : List (Value × Value)) :
    Except SchemaError Project := do
  let dialect := detectDialect entries
  match document dialect entries with
  | .bad problems => .error (.invalid (.malformed path dialect problems))
  | .ok document => do
    let models ← buildModels document.models
    let integrations ← normalize (models.map (·.name)) document
    checkOperationNames (integrations.flatMap (·.operations)) []
    checkSyncOutputs integrations models
    .ok { dialect := dialect, integrations := integrations, models := models }

end IntegrationBuild.Schema
