import IntegrationBuild.Project.Basic
import IntegrationBuild.Script.Source

/-!
The contract between scripts and the object `nango` they are given: which
methods have to be awaited, which name a model, which an action may not call,
and which are out of date.
-/

namespace IntegrationBuild.Usage

/-- The rules a script can break. -/
inductive Rule where
  | syntaxError
  | missingHandler
  | unawaitedCall
  | returnInSync
  | missingActionReturn
  | retryOnWithoutRetries
  | unknownModel
  | disallowedInAction
deriving DecidableEq, Repr, Inhabited

/-- The name of a rule. -/
def Rule.name : Rule → String
  | syntaxError => "syntax_error"
  | missingHandler => "missing_handler"
  | unawaitedCall => "unawaited_call"
  | returnInSync => "return_in_sync"
  | missingActionReturn => "missing_action_return"
  | retryOnWithoutRetries => "retry_on_without_retries"
  | unknownModel => "unknown_model"
  | disallowedInAction => "disallowed_in_action"

/-- Where a rule is broken: in the file as a whole, at a place that was not
found out, or at a place. -/
inductive Place where
  | file
  | unknown
  | point (position : Script.Position)
deriving DecidableEq, Repr, Inhabited

namespace Place

/-- The line, counted from one. -/
def line? : Place → Option Nat
  | .point p => some p.line
  | _ => none

/-- The column in bytes, counted from one. -/
def column? : Place → Option Nat
  | .point p => some (p.column + 1)
  | _ => none

/-- The place in the file of the given path. -/
def within (path : String) : Place → String
  | .file => path
  | .unknown => path ++ ":?"
  | .point p => path ++ ":" ++ toString p.line ++ ":" ++ toString (p.column + 1)

/-- The line that begins a message about the place. -/
def lead : Place → String
  | .file => ""
  | .unknown => "line ?: "
  | .point p => "line " ++ toString p.line ++ ": "

end Place

/-- A broken rule and its place. -/
structure Violation where
  rule : Rule
  message : String
  place : Place := .file
deriving DecidableEq, Repr, Inhabited

/-- The name of the object that scripts are given. -/
def receiver : String := "nango"

/-- The name of the function that a script of a kind defines. -/
def handlerName : OperationKind → String
  | .sync => "fetch_data"
  | .action => "run_action"

/-- The methods whose second argument, or `model`, names a model. -/
def modelMethods : List String :=
  ["batch_send", "batch_save", "batch_update", "batch_delete"]

/-- The methods whose result has to be awaited. -/
def asyncMethods : List String :=
  modelMethods ++
    ["log", "get_field_mapping", "set_field_mapping", "get_metadata", "set_metadata",
      "update_metadata", "get_connection", "get_token", "set_last_sync_date",
      "get_environment_variables", "trigger_action", "proxy", "get", "post", "put", "patch",
      "delete"]

/-- The method to use in place of one that is out of date. -/
def replacement? : String → Option String
  | "batch_send" => some "batch_save"
  | "get_field_mapping" => some "get_metadata"
  | "set_field_mapping" => some "set_metadata"
  | _ => none

/-- Whether scripts of a kind may not call a method. -/
def isDisallowed (method : String) (kind : OperationKind) : Bool :=
  kind == .action && modelMethods.contains method

/-- The option that says on which errors to try again. -/
def retryOnOption : String := "retry_on"

/-- The option that says how often to try again. -/
def retriesOption : String := "retries"

end IntegrationBuild.Usage
