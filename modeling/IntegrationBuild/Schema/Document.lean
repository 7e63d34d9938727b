import IntegrationBuild.Project.Basic
import IntegrationBuild.Schema.Checked
import IntegrationBuild.Text.Blank

/-!
The two forms of a project document, with the checks of their keys and values.
In the flat form operations stand directly under an integration; in the
grouped form they stand under `syncs` and `actions`.
-/

namespace IntegrationBuild.Schema

/-- An operation of the flat form. -/
structure FlatOperation where
  kind : OperationKind
  runs : Option String
  returns : Option TextOrList
  input : Option String
  trackDeletes : Bool
  autoStart : Bool
  description : Option String
  scopes : Option TextOrList
  version : Option String
  webhooks : Option TextOrList
deriving Repr

/-- A sync of the grouped form. -/
structure SyncEntry where
  runs : Option String
  endpoint : TextOrList
  output : Option TextOrList
  input : Option String
  syncType : Option String
  trackDeletes : Bool
  autoStart : Bool
  description : Option String
  scopes : Option TextOrList
  version : Option String
  webhooks : Option TextOrList
deriving Repr

/-- An action of the grouped form. -/
structure ActionEntry where
  endpoint : Option TextOrList
  output : Option TextOrList
  input : Option String
  description : Option String
  scopes : Option TextOrList
  version : Option String
deriving Repr

/-- An integration of the grouped form. -/
structure GroupedIntegration where
  syncs : List (String × SyncEntry)
  actions : List (String × ActionEntry)
deriving Repr

/-- A checked document, its models section still as written. -/
inductive Document where
  | flat (integrations : List (String × List (String × FlatOperation)))
      (models : List (String × Value))
  | grouped (integrations : List (String × GroupedIntegration))
      (models : List (String × Value))

/-- The models section of a document. -/
def Document.models : Document → List (String × Value)
  | .flat _ models => models
  | .grouped _ models => models

/-- A version may be written as a number. -/
def version (value : Value) : Checked (Option String) :=
  match value with
  | .int _ => .ok (some value.describe)
  | .float _ => .ok (some value.describe)
  | value => nullable text value

/-- Whether an optional list of texts has content. -/
def hasContent (texts : Option TextOrList) : Bool :=
  match texts with
  | some texts => !texts.isEmpty
  | none => false

/-- The spellings of the key that lists webhook subscriptions. -/
def webhookSpellings : List String :=
  ["webhook-subscriptions", "webhook_subscriptions"]

/-- The fields of an operation of the flat form. -/
def flatFields : List (List String) :=
  [["type"], ["runs"], ["returns"], ["input"], ["track_deletes"], ["auto_start"],
    ["description"], ["scopes"], ["version"], webhookSpellings]

/-- An operation of the flat form. -/
def flatOperation (value : Value) : Checked FlatOperation :=
  (record "V1Operation" flatFields (fun entries =>
    FlatOperation.mk
      <$> field entries ["type"] .sync
        (oneOf [("sync", OperationKind.sync), ("action", OperationKind.action)])
      <*> field entries ["runs"] none (nullable text)
      <*> field entries ["returns"] none (nullable textOrList)
      <*> field entries ["input"] none (nullable text)
      <*> field entries ["track_deletes"] false truth
      <*> field entries ["auto_start"] true truth
      <*> field entries ["description"] none (nullable text)
      <*> field entries ["scopes"] none (nullable textOrList)
      <*> field entries ["version"] none version
      <*> field entries webhookSpellings none (nullable textOrList)) value).andThen fun op =>
  if op.kind == .action && hasContent op.webhooks then
    .fail "Value error, webhook-subscriptions are not allowed on an action"
  else .ok op

/-- Whether a text has only blanks. -/
def isBlankText (s : String) : Bool :=
  (Text.strip s).isEmpty

/-- The endpoints of a sync: at least one, and none of them blank. -/
def syncEndpoint (value : Value) : Checked TextOrList :=
  (textOrList value).andThen fun endpoints =>
    if endpoints.toList.isEmpty || endpoints.toList.any isBlankText then
      .fail "Value error, a sync must declare at least one non-empty endpoint"
    else .ok endpoints

/-- The fields of a sync. -/
def syncFields : List (List String) :=
  [["type"], ["runs"], ["endpoint"], ["output"], ["input"], ["sync_type"],
    ["track_deletes"], ["auto_start"], ["description"], ["scopes"], ["version"],
    webhookSpellings]

/-- A sync of the grouped form. -/
def syncEntry (value : Value) : Checked SyncEntry :=
  record "V2Sync" syncFields (fun entries =>
    (fun _ => SyncEntry.mk)
      <$> field entries ["type"] () (oneOf [("sync", ())])
      <*> field entries ["runs"] none (nullable text)
      <*> requiredField entries "endpoint" syncEndpoint
      <*> field entries ["output"] none (nullable textOrList)
      <*> field entries ["input"] none (nullable text)
      <*> field entries ["sync_type"] none
        (nullable (oneOf [("full", "full"), ("incremental", "incremental")]))
      <*> field entries ["track_deletes"] false truth
      <*> field entries ["auto_start"] true truth
      <*> field entries ["description"] none (nullable text)
      <*> field entries ["scopes"] none (nullable textOrList)
      <*> field entries ["version"] none version
      <*> field entries webhookSpellings none (nullable textOrList)) value

/-- The fields of an action. -/
def actionFields : List (List String) :=
  [["type"], ["endpoint"], ["output"], ["input"], ["description"], ["scopes"], ["version"]]

/-- An action of the grouped form. -/
def actionEntry (value : Value) : Checked ActionEntry :=
  (record "V2Action" actionFields (fun entries =>
    (fun _ => ActionEntry.mk)
      <$> field entries ["type"] () (oneOf [("action", ())])
      <*> field entries ["endpoint"] none (nullable textOrList)
      <*> field entries ["output"] none (nullable textOrList)
      <*> field entries ["input"] none (nullable text)
      <*> field entries ["description"] none (nullable text)
      <*> field entries ["scopes"] none (nullable textOrList)
      <*> field entries ["version"] none version) value).andThen fun action =>
  let declares := hasContent action.output || (action.input.getD "" != "")
  if declares && !hasContent action.endpoint then
    .fail "Value error, an action declaring input or output must declare an endpoint"
  else .ok action

/-- Null stands for an empty section. -/
def nullAsEmpty (value : Value) : Value :=
  match value with
  | .null => .mapping []
  | value => value

/-- An integration of the grouped form. -/
def groupedIntegration (value : Value) : Checked GroupedIntegration :=
  record "V2Integration" [["syncs"], ["actions"]] (fun entries =>
    GroupedIntegration.mk
      <$> field entries ["syncs"] [] (fun v => mappingOf syncEntry (nullAsEmpty v))
      <*> field entries ["actions"] [] (fun v => mappingOf actionEntry (nullAsEmpty v))) value

/-- The integrations section, where a null body is an empty one. -/
def integrations {α : Type} (check : Value → Checked α) (value : Value) :
    Checked (List (String × α)) :=
  mappingOf (fun body => check (nullAsEmpty body)) value

/-- The models section: any values under text keys. -/
def modelSection (value : Value) : Checked (List (String × Value)) :=
  mappingOf (fun v => .ok v) (nullAsEmpty value)

/-- The fields of a document. -/
def documentFields : List (List String) :=
  [["integrations"], ["models"]]

/-- Checks a document of the given dialect. -/
def document (dialect : Dialect) (entries : List (Value × Value)) : Checked Document :=
  let checked := match dialect with
    | .v1 =>
      Document.flat
        <$> requiredField entries "integrations" (integrations (mappingOf flatOperation))
        <*> field entries ["models"] [] modelSection
    | .v2 =>
      Document.grouped
        <$> requiredField entries "integrations" (integrations groupedIntegration)
        <*> field entries ["models"] [] modelSection
  checked.withProblems (extraProblems entries documentFields)

/-- Whether a body groups its operations by kind. -/
def isGroupedBody (body : Value) : Bool :=
  match body with
  | .mapping entries => Value.hasKey entries "syncs" || Value.hasKey entries "actions"
  | _ => false

/-- The dialect of a document: the grouped one as soon as one integration
groups its operations. -/
def detectDialect (entries : List (Value × Value)) : Dialect :=
  match Value.lookup entries "integrations" with
  | some (.mapping bodies) =>
    if bodies.any fun (_, body) => isGroupedBody body then .v2 else .v1
  | _ => .v1

end IntegrationBuild.Schema
