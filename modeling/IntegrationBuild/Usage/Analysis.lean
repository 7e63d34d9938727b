import IntegrationBuild.Script.Read
import IntegrationBuild.Usage.Contract
import IntegrationBuild.Workspace.Change

/-!
Checks of a script against the contract.  The tree is walked from the top, and
every node is judged with the nodes above it at hand: a call is guarded when,
going up from it to the nearest function or class, an `await`, a `return` or a
`try` is met.
-/

namespace IntegrationBuild.Usage

open Script (Kind Tree)

/-- Whether a node has a scope of its own. -/
def isScope : Kind → Bool
  | .functionDefinition _ _ | .lambda | .classDefinition _ => true
  | _ => false

/-- Whether calls below a node count as awaited. -/
def isGuard : Kind → Bool
  | .await | .returnStatement | .tryStatement => true
  | _ => false

/-- Whether a node below the given ones, the nearest first, is guarded. -/
def isGuarded (ancestors : List Kind) : Bool :=
  (ancestors.takeWhile (!isScope ·)).any isGuard

/-- The text that a plain literal stands for. -/
def literal? (t : Tree) : Option String :=
  match t.kind with
  | .string value => value
  | _ => none

/-- Whether a node is only the note of a fault. -/
def isNote (t : Tree) : Bool :=
  match t.kind with
  | .fault _ => true
  | _ => false

/-- The argument nodes of a call. -/
def argumentNodes (call : Tree) : List Tree :=
  match call.children with
  | [_, .node .arguments _ items] => items
  | _ => []

/-- The positional arguments of a call, unpacked ones left out. -/
def positionalArguments (call : Tree) : List Tree :=
  (argumentNodes call).filter fun t =>
    match t.kind with
    | .keywordArgument _ | .splat | .mappingSplat | .fault _ => false
    | _ => true

/-- The keyword arguments of a call. -/
def keywordArguments (call : Tree) : List (String × Tree) :=
  (argumentNodes call).filterMap fun t =>
    match t with
    | .node (.keywordArgument name) _ (value :: _) => some (name, value)
    | _ => none

/-- The keys of a dictionary that are plain literals. -/
def dictionaryKeys (t : Tree) : List String :=
  if t.kind == .dictionary then
    t.children.filterMap fun entry =>
      match entry with
      | .node .pair _ (key :: _) => literal? key
      | _ => none
  else []

/-- The options given to a call: its keywords, and the keys of the dictionaries
among its arguments. -/
def optionNames (call : Tree) : List String :=
  (keywordArguments call).map Prod.fst ++ (positionalArguments call).flatMap dictionaryKeys

/-- The method of a call on the object itself. -/
def method? (call : Tree) : Option String :=
  match call.children with
  | .node (.attribute method) _ (.node (.identifier object) _ _ :: _) :: _ =>
    if object == receiver then some method else none
  | _ => none

/-- The model that a call names as a literal: its second argument, or the last
one given as `model`. -/
def modelName? (call : Tree) : Option String :=
  match positionalArguments call with
  | _ :: second :: _ => literal? second
  | _ => ((keywordArguments call).reverse.lookup "model").bind literal?

/-- What a walk finds in a script. -/
inductive Finding where
  | violation (v : Violation)
  | deprecated (line : Nat) (method replacement : String)
  | handler
  | valueReturn
deriving DecidableEq, Repr

/-- A violation at the start of a node. -/
def violationAt (rule : Rule) (message : String) (t : Tree) : Finding :=
  .violation { rule := rule, message := message, place := .point t.start }

/-- What a script is checked against. -/
structure Expectation where
  kind : OperationKind
  models : List String
deriving Repr, Inhabited

/-- The text of the models that a script may name. -/
def Expectation.modelsText (e : Expectation) : String :=
  let joined := String.intercalate ", " e.models
  if joined.isEmpty then "-" else joined

/-- Whether a call says on which errors to try again but not how often. -/
def checkRetries (call : Tree) : List Finding :=
  let options := optionNames call
  if options.contains retryOnOption && !options.contains retriesOption then
    [violationAt .retryOnWithoutRetries
      ("\"" ++ retryOnOption ++ "\" only takes effect together with \"" ++ retriesOption ++ "\".")
      call]
  else []

/-- What a call of a method breaks. -/
def checkMethod (e : Expectation) (ancestors : List Kind) (call : Tree) (method : String) :
    List Finding :=
  let outdated :=
    match replacement? method with
    | some other => [.deprecated call.start.line method other]
    | none => []
  let disallowed :=
    if isDisallowed method e.kind then
      [violationAt .disallowedInAction
        ("nango." ++ method ++ " is not allowed in an action script.") call]
    else []
  let unawaited :=
    if asyncMethods.contains method && !isGuarded ancestors then
      [violationAt .unawaitedCall
        ("nango." ++ method ++ " returns a coroutine and must be awaited.") call]
    else []
  let unknown :=
    match (if modelMethods.contains method then modelName? call else none) with
    | some model =>
      if e.models.contains model then []
      else
        [violationAt .unknownModel
          ("\"" ++ model ++ "\" is not a valid model name for this script. Expected one of: " ++
            e.modelsText ++ ".") call]
    | none => []
  outdated ++ disallowed ++ unawaited ++ unknown

/-- What a call breaks. -/
def checkCall (e : Expectation) (ancestors : List Kind) (call : Tree) : List Finding :=
  checkRetries call ++
    match method? call with
    | some method => checkMethod e ancestors call method
    | none => []

/-- Whether a `return` gives a value. -/
def returnsValue (t : Tree) : Bool :=
  match t.children.filter (!isNote ·) with
  | [] => false
  | value :: _ => value.kind != .none

/-- The scopes around a node. -/
inductive Scope where
  | module
  | handler
  | nested
deriving DecidableEq, Repr, Inhabited

/-- What a `return` in a scope means. -/
def checkReturn (e : Expectation) (scope : Scope) (t : Tree) : List Finding :=
  if scope == .handler && returnsValue t then
    match e.kind with
    | .action => [.valueReturn]
    | .sync =>
      [violationAt .returnInSync
        ("Return statements with a value are not allowed in a sync script (" ++
          handlerName e.kind ++ "); save records with nango.batch_save instead.") t]
  else []

/-- The scope that a node opens below the given ones: a function of the
handler's name right in the module is the handler. -/
def scopeOf (e : Expectation) (scopes : List Scope) : Kind → Scope
  | .functionDefinition _ name =>
    if scopes == [.module] && name == handlerName e.kind then .handler else .nested
  | _ => .nested

/-- The scopes inside a node. -/
def enter (e : Expectation) (scopes : List Scope) (kind : Kind) : List Scope :=
  if isScope kind then scopeOf e scopes kind :: scopes else scopes

/-- What is found at a node itself, given the scopes inside it and the nodes
above it. -/
def checkNode (e : Expectation) (scopes : List Scope) (ancestors : List Kind) (t : Tree) :
    List Finding :=
  let opened := if isScope t.kind && scopes.head? == some .handler then [.handler] else []
  opened ++
    match t.kind with
    | .call => checkCall e ancestors t
    | .returnStatement => checkReturn e (scopes.headD .module) t
    | _ => []

mutual

/-- What is found in a tree below the given scopes and nodes. -/
def walk (e : Expectation) (scopes : List Scope) (ancestors : List Kind) : Tree → List Finding
  | .node kind span children =>
    let inner := enter e scopes kind
    checkNode e inner ancestors (.node kind span children) ++
      walkAll e inner (kind :: ancestors) children

/-- What is found in some trees, one after the other. -/
def walkAll (e : Expectation) (scopes : List Scope) (ancestors : List Kind) :
    List Tree → List Finding
  | [] => []
  | t :: rest => walk e scopes ancestors t ++ walkAll e scopes ancestors rest

end

/-- What is missing in a script as a whole. -/
def checkWhole (e : Expectation) (requireHandler : Bool) (root : Script.Position)
    (findings : List Finding) : List Violation :=
  if !findings.contains .handler then
    if requireHandler then
      [{ rule := .missingHandler
         message := e.kind.title ++ " scripts must define the module-level handler " ++
          handlerName e.kind ++ "."
         place := .point root }]
    else []
  else if e.kind == .action && !e.models.isEmpty && !findings.contains .valueReturn then
    [{ rule := .missingActionReturn
       message := "The action handler " ++ handlerName e.kind ++ " must return its output."
       place := .point root }]
  else []

/-- The violations of a script and the calls that are out of date. -/
structure Report where
  violations : List Violation
  deprecated : List (Nat × String × String) := []
deriving Repr, Inhabited

/-- Whether a script keeps the contract. -/
def Report.ok (r : Report) : Bool :=
  r.violations.isEmpty

/-- The violations of a tree that begins at `root`. -/
def checkTree (e : Expectation) (requireHandler : Bool) (root : Script.Position) (tree : Tree) :
    Report :=
  let findings := walk e [.module] [] tree
  let direct := findings.filterMap fun
    | .violation v => some v
    | _ => none
  { violations := direct ++ checkWhole e requireHandler root findings
    deprecated := findings.filterMap fun
      | .deprecated line method other => some (line, method, other)
      | _ => none }

/-- The violations of a script. -/
def analyze (e : Expectation) (requireHandler : Bool) (content : ByteArray) : Report :=
  match Script.lenientTree? content with
  | some tree => checkTree e requireHandler (Script.rootStart content) tree
  | none =>
    { violations :=
        [{ rule := .syntaxError, message := "The script could not be parsed.", place := .unknown }] }

/-- The violations of the script a path leads to. -/
def analyzeFile (ws : Workspace) (e : Expectation) (requireHandler : Bool) (path : Path) :
    Report :=
  match ws.readFile path with
  | .ok content => analyze e requireHandler content
  | .error error =>
    { violations := [{ rule := .syntaxError, message := "Could not read file: " ++ error.message }] }

end IntegrationBuild.Usage
