import IntegrationBuild.Script.Tree

/-!
Names and scopes.  What a script does with names is listed in the order in
which it counts, scope by scope; from the list follow the declarations that
contradict each other and the names that are declared as those of an outer
function but are bound in none.
-/

namespace IntegrationBuild.Script

/-- Why the language refuses a tree, and where. -/
structure Refusal where
  span : Span
  text : String
deriving DecidableEq, Repr, Inhabited

/-- What a scope belongs to. -/
inductive ScopeKind where
  | module
  | function
  | classBody
  /-- A comprehension, with the words for its sort. -/
  | comprehension (sort : String)
deriving DecidableEq, Repr, Inhabited

/-- What a script does with names. -/
inductive NameEvent where
  | use (name : String)
  | bind (name : String)
  | naming (name : String) (span : Span)
  | refused (refusal : Refusal)
  | imported (name : String)
  | parameter (name : String) (span : Span)
  | annotate (name : String) (span : Span)
  | declareGlobal (name : String) (span : Span)
  | declareNonlocal (name : String) (span : Span)
  | wildcard (span : Span)
  | suspend (span : Span)
  | scope (kind : ScopeKind) (events : List NameEvent)
deriving Repr, Inhabited

namespace NameEvent

/-- Whether an event names the value of an expression. -/
def isNaming : NameEvent → Bool
  | .naming _ _ => true
  | _ => false

/-- The words for a comprehension. -/
def comprehensionSort? : Kind → Option String
  | .listComprehension => some "list comprehension"
  | .setComprehension => some "set comprehension"
  | .dictionaryComprehension => some "dict comprehension"
  | .generator => some "generator expression"
  | _ => none

/-- The first part of a dotted name. -/
def firstPart (dotted : String) : String :=
  String.ofList (dotted.toList.takeWhile (· != '.'))

/-- The last character of a stretch. -/
def lastCharacter (span : Span) : Span :=
  ⟨{ span.stop with column := span.stop.column - 1 }, span.stop⟩

/-- The names that an import binds. -/
def ofImport (span : Span) (names : List ImportedName) (part : String → String) :
    List NameEvent :=
  names.map fun n =>
    if n.name == "*" then .wildcard (lastCharacter span) else .imported (n.rename.getD (part n.name))

/-- The order in which parameters are bound: those before the mark `*`, those
after it, then the starred ones. -/
def ofParameters (params : Tree) : List NameEvent :=
  let bind (sort : ParameterSort) : List NameEvent :=
    params.children.filterMap fun t =>
      match t.kind with
      | .parameter name s => if s == sort then some (.parameter name t.span) else none
      | _ => none
  bind .single ++ bind .variadic ++ bind .keywords

/-- The trees of one kind below the parameters. -/
def parameterParts (params : Tree) (kind : Kind) : List Tree :=
  params.children.flatMap fun t => t.children.filter (·.kind == kind)

/-- What the values of a clause do with names; they may not be given names. -/
def ofClauseValues (events : List NameEvent) : List NameEvent :=
  events.map fun
    | .naming _ span => .refused
      ⟨span, "assignment expression cannot be used in a comprehension iterable expression"⟩
    | event => event

/-- The naming of values inside a comprehension, which may not concern the
names that its clauses bind. -/
def checkNaming (targets : List NameEvent) : NameEvent → NameEvent
  | .naming name span =>
    let taken := targets.any fun
      | .bind other => other == name
      | _ => false
    if taken then
      .refused ⟨span, "assignment expression cannot rebind comprehension iteration variable '" ++
        name ++ "'"⟩
    else .naming name span
  | event => event

/-- A comprehension: the values of its first clause belong to the scope around
it, as do the names it gives to values. -/
def ofComprehension (sort : String) (events targets : Tree → List NameEvent) (element : Tree) :
    List Tree → List NameEvent
  | .node (.forClause _) _ [target, values] :: rest =>
    let clause (t : Tree) : List NameEvent :=
      match t with
      | .node (.forClause _) _ [target, values] =>
        targets target ++ ofClauseValues (events values)
      | t => events t
    let bound := targets target ++ rest.flatMap clause
    let inner := (bound ++ events element).map (checkNaming bound)
    ofClauseValues (events values) ++ [.scope (.comprehension sort) (inner.filter (!·.isNaming))] ++
      inner.filter isNaming
  | clauses => clauses.flatMap events ++ events element

mutual

/-- What a tree does with names, down to a depth. -/
def ofTree : Nat → Tree → List NameEvent
  | 0, _ => []
  | depth + 1, .node kind span children =>
    let events := ofTree depth
    let targets := ofTarget depth
    match kind, children with
    | .identifier name, _ => [.use name]
    | .namedExpression, [.node (.identifier name) _ _, value] => events value ++ [.naming name span]
    | .lambda, [params, body] =>
      (parameterParts params .defaultValue).flatMap events ++
        [.scope .function (ofParameters params ++ events body)]
    | .yieldExpression, _ | .yieldFrom, _ => children.flatMap events ++ [.suspend span]
    | .conditional, [value, condition, other] => events condition ++ events value ++ events other
    | .assignment, _ =>
      children.dropLast.flatMap targets ++ (children.getLast?.toList).flatMap events
    | .augmentedAssignment, [target, value] => targets target ++ events value
    | .annotatedAssignment, target :: declared :: value =>
      let bound :=
        match target.kind with
        | .identifier name => [.annotate name span]
        | _ => if value.isEmpty then events target else targets target
      bound ++ events declared ++ value.flatMap events
    | .deletion, _ => children.flatMap targets
    | .forStatement _, target :: rest => targets target ++ rest.flatMap events
    | .withItem, value :: target => events value ++ target.flatMap targets
    | .tryStatement, body :: clauses =>
      let handler (t : Tree) : Bool :=
        match t.kind with
        | .exceptClause _ _ => true
        | _ => false
      let other := clauses.filter (·.kind == .elseClause)
      let last := clauses.filter (·.kind == .finallyClause)
      (body :: other ++ clauses.filter handler ++ last).flatMap events
    | .exceptClause _ bound, _ =>
      children.dropLast.flatMap events ++ bound.toList.map .bind ++
        (children.getLast?.toList).flatMap events
    | .importStatement names, _ => ofImport span names firstPart
    | .importFrom _ _ names, _ => ofImport span names id
    | .globalStatement names, _ => names.map (.declareGlobal · span)
    | .nonlocalStatement names, _ => names.map (.declareNonlocal · span)
    | .decoratedDefinition, _ =>
      let decorators := (children.dropLast).flatMap events
      match children.getLast? with
      | some (.node (.functionDefinition _ name) _ (params :: rest)) =>
        [.bind name] ++ functionHeader depth params rest ++ decorators ++
          [functionScope depth params rest]
      | some (.node (.classDefinition name) _ parts) =>
        [.bind name] ++ parts.dropLast.flatMap events ++ decorators ++
          [.scope .classBody ((parts.getLast?.toList).flatMap events)]
      | _ => decorators
    | .functionDefinition _ name, params :: rest =>
      [.bind name] ++ functionHeader depth params rest ++ [functionScope depth params rest]
    | .classDefinition name, parts =>
      [.bind name] ++ parts.dropLast.flatMap events ++
        [.scope .classBody ((parts.getLast?.toList).flatMap events)]
    | .capturePattern name, _ => if name == "_" then [] else [.bind name]
    | .starPattern name, _ => if name == "_" then [] else [.bind name]
    | .mappingRest name, _ => [.bind name]
    | .asPattern name, _ => children.flatMap events ++ [.bind name]
    | _, element :: clauses =>
      match comprehensionSort? kind with
      | some sort => ofComprehension sort events targets element clauses
      | none => children.flatMap events
    | _, [] => []

/-- What assigning to a tree does with names, down to a depth. -/
def ofTarget : Nat → Tree → List NameEvent
  | 0, _ => []
  | depth + 1, .node kind span children =>
    match kind with
    | .identifier name => [.bind name]
    | .tuple | .list | .splat | .parenthesized => children.flatMap (ofTarget depth)
    | _ => ofTree depth (.node kind span children)

/-- What the parts of a definition outside its body do with names: default
values, then declared types. -/
def functionHeader : Nat → Tree → List Tree → List NameEvent
  | 0, _, _ => []
  | depth + 1, params, rest =>
    (parameterParts params .defaultValue ++ parameterParts params .declaredType ++
      rest.dropLast).flatMap (ofTree depth)

/-- The scope of a function. -/
def functionScope : Nat → Tree → List Tree → NameEvent
  | 0, _, _ => .scope .function []
  | depth + 1, params, rest =>
    .scope .function (ofParameters params ++ (rest.getLast?.toList).flatMap (ofTree depth))

end

end NameEvent

/-- How a name is used in a scope. -/
structure NameUse where
  parameter : Bool := false
  bound : Bool := false
  imported : Bool := false
  used : Bool := false
  annotated : Bool := false
  isGlobal : Bool := false
  isNonlocal : Bool := false
deriving DecidableEq, Repr, Inhabited

/-- The names of a scope in the order in which they appear, the places of the
declarations, and the scopes inside. -/
inductive ScopeTable where
  | node (kind : ScopeKind) (names : List (String × NameUse))
      (declarations : List (String × Span)) (inner : List ScopeTable)
deriving Repr, Inhabited

namespace ScopeTable

/-- How a name is used. -/
def useOf (names : List (String × NameUse)) (name : String) : NameUse :=
  (names.lookup name).getD {}

/-- Changes how a name is used; a new name comes last. -/
def update (change : NameUse → NameUse) (name : String) :
    List (String × NameUse) → List (String × NameUse)
  | [] => [(name, change {})]
  | (other, use) :: rest =>
    if other == name then (other, change use) :: rest
    else (other, use) :: update change name rest

/-- Why a name may not be declared here as one of another scope. -/
def declarationFault? (use : NameUse) (name word : String) : Option String :=
  if use.parameter then some ("name '" ++ name ++ "' is parameter and " ++ word)
  else if use.used then some ("name '" ++ name ++ "' is used prior to " ++ word ++ " declaration")
  else if use.annotated then some ("annotated name '" ++ name ++ "' can't be " ++ word)
  else if use.bound then
    some ("name '" ++ name ++ "' is assigned to before " ++ word ++ " declaration")
  else none

/-- Takes a declaration of a name. -/
def declare (t : ScopeTable) (name word : String) (span : Span) (change : NameUse → NameUse) :
    Except Refusal ScopeTable :=
  match t with
  | .node kind names declarations inner =>
    match declarationFault? (useOf names name) name word with
    | some text => .error ⟨span, text⟩
    | none => .ok (.node kind (update change name names) (declarations ++ [(name, span)]) inner)

/-- Takes a change of how a name is used. -/
def record (t : ScopeTable) (name : String) (change : NameUse → NameUse) : ScopeTable :=
  match t with
  | .node kind names declarations inner =>
    .node kind (update change name names) declarations inner

mutual

/-- Takes what happens to names next. -/
def add (t : ScopeTable) : NameEvent → Except Refusal ScopeTable
  | .use name => .ok (t.record name fun u => { u with used := true })
  | .bind name | .naming name _ => .ok (t.record name fun u => { u with bound := true })
  | .refused refusal => .error refusal
  | .imported name => .ok (t.record name fun u => { u with imported := true })
  | .parameter name span =>
    match t with
    | .node _ names _ _ =>
      if (useOf names name).parameter then
        .error ⟨span, "duplicate argument '" ++ name ++ "' in function definition"⟩
      else .ok (t.record name fun u => { u with parameter := true })
  | .annotate name span =>
    match t with
    | .node kind names _ _ =>
      let use := useOf names name
      if kind != .module && (use.isGlobal || use.isNonlocal) then
        let word := if use.isGlobal then "global" else "nonlocal"
        .error ⟨span, "annotated name '" ++ name ++ "' can't be " ++ word⟩
      else .ok (t.record name fun u => { u with bound := true, annotated := true })
  | .declareGlobal name span => t.declare name "global" span fun u => { u with isGlobal := true }
  | .declareNonlocal name span =>
    t.declare name "nonlocal" span fun u => { u with isNonlocal := true }
  | .wildcard span =>
    match t with
    | .node kind _ _ _ =>
      if kind == .module then .ok t else .error ⟨span, "import * only allowed at module level"⟩
  | .suspend span =>
    match t with
    | .node (.comprehension sort) _ _ _ => .error ⟨span, "'yield' inside " ++ sort⟩
    | _ => .ok t
  | .scope kind events =>
    match addAll (.node kind [] [] []) events with
    | .error refusal => .error refusal
    | .ok child =>
      match t with
      | .node kind names declarations inner =>
        .ok (.node kind names declarations (inner ++ [child]))

/-- Takes all that happens to names, one after the other. -/
def addAll (t : ScopeTable) : List NameEvent → Except Refusal ScopeTable
  | [] => .ok t
  | event :: rest =>
    match add t event with
    | .error refusal => .error refusal
    | .ok t => addAll t rest

end

/-- The place of a declaration of a name. -/
def placeOf (declarations : List (String × Span)) (name : String) : Span :=
  (declarations.lookup name).getD default

/-- What is wrong with a name that is declared as one of an outer function, of
which `outer` lists the names; outside of all functions it is `none`. -/
def nonlocalFault? (outer : Option (List String)) (name : String) (use : NameUse) :
    Option String :=
  if use.isGlobal && use.isNonlocal then some ("name '" ++ name ++ "' is nonlocal and global")
  else if use.isNonlocal then
    match outer with
    | none => some "nonlocal declaration not allowed at module level"
    | some known =>
      if known.contains name then none else some ("no binding for nonlocal '" ++ name ++ "' found")
  else none

/-- The names that a scope binds itself. -/
def ownNames (names : List (String × NameUse)) : List String :=
  names.filterMap fun (name, use) =>
    if (use.parameter || use.bound || use.imported) && !use.isGlobal && !use.isNonlocal then some name else none

/-- The names of outer functions that the scopes inside a scope see. -/
def visible (kind : ScopeKind) (names : List (String × NameUse)) (outer : Option (List String)) :
    List String :=
  let known := (outer.getD []).filter fun name => !(useOf names name).isGlobal
  match kind with
  | .module => []
  | .classBody => "__class__" :: known
  | .function | .comprehension _ => ownNames names ++ known

mutual

/-- What is wrong with the names that are declared as those of outer functions. -/
def unbound (outer : Option (List String)) : ScopeTable → List Refusal
  | .node kind names declarations inner =>
    let own := names.filterMap fun (name, use) =>
      (nonlocalFault? outer name use).map fun text => ⟨placeOf declarations name, text⟩
    own ++ unboundAll (some (visible kind names outer)) inner

/-- What is wrong in some scopes, one after the other. -/
def unboundAll (outer : Option (List String)) : List ScopeTable → List Refusal
  | [] => []
  | t :: rest => unbound outer t ++ unboundAll outer rest

end

end ScopeTable

/-- Why the names of a script contradict each other, if they do. -/
def scopeRefusal? (t : Tree) : Option Refusal :=
  match (ScopeTable.node .module [] [] []).addAll (NameEvent.ofTree (2 * t.depth + 2) t) with
  | .error refusal => some refusal
  | .ok table => (table.unbound none).head?

end IntegrationBuild.Script
