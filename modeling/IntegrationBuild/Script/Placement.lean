import IntegrationBuild.Script.Scope

/-!
Statements and expressions in places where the language does not allow them,
such as a `return` outside of a function, and names that may not be bound.
They are listed in the order in which a script is compiled.
-/

namespace IntegrationBuild.Script

/-- The unit of code that a tree stands in. -/
inductive CodeUnit where
  | module
  | classBody
  | function
  | asyncFunction
  | lambda
  | comprehension
deriving DecidableEq, Repr, Inhabited

namespace CodeUnit

/-- Whether a unit is called and returns. -/
def isFunction : CodeUnit → Bool
  | .module | .classBody => false
  | _ => true

/-- Whether a unit may wait. -/
def mayWait : CodeUnit → Bool
  | .asyncFunction | .comprehension => true
  | _ => false

end CodeUnit

/-- What stands around a tree: its unit, whether it is in a loop or in the
handler of a group, whether the unit is a generator that waits, and the last
line of the imports that change the language. -/
structure Setting where
  unit : CodeUnit := .module
  inLoop : Bool := false
  inGroup : Bool := false
  waitingGenerator : Bool := false
  futureLine : Nat := 0
deriving Repr, Inhabited

/-- The name that may not be bound. -/
def fixedName : String := "__debug__"

/-- The refusal to bind a name, if it may not be bound. -/
def bindingRefusals (name : String) (span : Span) : List Refusal :=
  if name == fixedName then [⟨span, "cannot assign to " ++ fixedName⟩] else []

mutual

/-- Whether a node of the given kind stands in a tree, outside of functions,
classes and generators inside it. -/
def holds (wanted : Kind → Bool) : Tree → Bool
  | .node kind _ children =>
    wanted kind ||
      match kind with
      | .functionDefinition _ _ | .lambda | .classDefinition _ | .generator => false
      | _ => holdsAny wanted children

/-- Whether a node of the given kind stands in one of the trees. -/
def holdsAny (wanted : Kind → Bool) : List Tree → Bool
  | [] => false
  | t :: rest => holds wanted t || holdsAny wanted rest

end

/-- Whether a node gives a value to the caller of a generator. -/
def isYield (kind : Kind) : Bool :=
  kind == .yieldExpression || kind == .yieldFrom

/-- Whether a node waits. -/
def isWaiting : Kind → Bool
  | .await | .forClause true => true
  | _ => false

/-- The keyword arguments that are given twice. -/
def repeatedKeywords : List String → List Tree → List Refusal
  | _, [] => []
  | seen, t :: rest =>
    match t.kind with
    | .keywordArgument name =>
      bindingRefusals name t.span ++
        (if seen.contains name then [⟨t.span, "keyword argument repeated: " ++ name⟩] else []) ++
        repeatedKeywords (name :: seen) rest
    | _ => repeatedKeywords seen rest

/-- Whether a clause catches everything. -/
def catchesAll (t : Tree) : Bool :=
  match t with
  | .node (.exceptClause _ _) _ [_] => true
  | _ => false

/-- The clauses that catch everything although others follow. -/
def earlyCatchAll : List Tree → List Refusal
  | [] => []
  | t :: rest =>
    (if catchesAll t && !rest.isEmpty then [⟨t.span, "default 'except:' must be last"⟩] else []) ++
      earlyCatchAll rest

/-- The refusals of patterns that always match where others follow; `last` says
that none follows the tree. -/
def unreachable : Nat → Bool → Tree → List Refusal
  | 0, _, _ => []
  | depth + 1, last, .node kind span children =>
    match kind with
    | .capturePattern name =>
      if last then []
      else if name == "_" then [⟨span, "wildcard makes remaining patterns unreachable"⟩]
      else [⟨span, "name capture '" ++ name ++ "' makes remaining patterns unreachable"⟩]
    | .groupPattern | .asPattern _ => children.flatMap (unreachable depth last)
    | .orPattern =>
      children.dropLast.flatMap (unreachable depth false) ++
        (children.getLast?.toList).flatMap (unreachable depth last)
    | _ => children.flatMap (unreachable depth true)

/-- The names of a tree's patterns, in order. -/
def patternNames (t : Tree) : List (String × Span) :=
  t.preorder.filterMap fun u =>
    match u.kind with
    | .capturePattern name | .starPattern name =>
      if name == "_" then none else some (name, u.span)
    | .mappingRest name | .asPattern name => some (name, u.span)
    | _ => none

/-- The refusals of a pattern without choices that gives a name twice. -/
def repeatedNames : List String → List (String × Span) → List Refusal
  | _, [] => []
  | seen, (name, span) :: rest =>
    (if seen.contains name then
      [⟨span, "multiple assignments to name '" ++ name ++ "' in pattern"⟩] else []) ++
      repeatedNames (name :: seen) rest

/-- The refusals of a pattern, given whether no case follows it. -/
def patternRefusals (last : Bool) (t : Tree) : List Refusal :=
  let choices := t.preorder.filter (·.kind == .orPattern)
  let fixed := (patternNames t).flatMap fun (name, span) => bindingRefusals name span
  let hidden := unreachable t.depth last t
  let sets := choices.flatMap fun c =>
    let names (p : Tree) : List String := (patternNames p).map Prod.fst
    let first := (c.children.head?.map names).getD []
    if c.children.all fun p =>
        (names p).all first.contains && first.all (names p).contains then []
    else [⟨c.span, "alternative patterns bind different names"⟩]
  let twice := if choices.isEmpty then repeatedNames [] (patternNames t) else []
  fixed ++ hidden ++ sets ++ twice

/-- The default values of parameters, in the order in which they are computed. -/
def parameterDefaults (params : Tree) : List Tree :=
  NameEvent.parameterParts params .defaultValue

/-- The refusals of the names of parameters. -/
def parameterRefusals (params : Tree) (span : Span) : List Refusal :=
  params.children.flatMap fun t =>
    match t.kind with
    | .parameter name _ => bindingRefusals name span
    | _ => []

/-- The trees that stand for values where unpacking is allowed. -/
def unpacked (items : List Tree) : List Tree :=
  items.flatMap fun t => if t.kind == .splat then t.children else [t]

/-- The refusal of a second starred target. -/
def starredTargets (t : Tree) : List Refusal :=
  if 1 < (t.children.filter (·.kind == .splat)).length then
    [⟨t.span, "multiple starred expressions in assignment"⟩]
  else []

/-- The refusal to leave the handler of a group. -/
def leavesGroup (s : Setting) (span : Span) : List Refusal :=
  if s.inGroup then
    [⟨span, "'break', 'continue' and 'return' cannot appear in an except* block"⟩]
  else []

mutual

/-- What is out of place in a tree, down to a depth. -/
def misplaced : Nat → Setting → Tree → List Refusal
  | 0, _, _ => []
  | depth + 1, s, .node kind span children =>
    let here := misplaced depth s
    let all (trees : List Tree) : List Refusal := trees.flatMap here
    let targets := misplacedTarget depth s
    let body (t : Tree) : List Refusal :=
      misplaced depth { s with inLoop := true, inGroup := false } t
    let function (isAsync : Bool) (t : Tree) : List Refusal :=
      let unit := if isAsync then CodeUnit.asyncFunction else .function
      misplaced depth
        { unit := unit, waitingGenerator := isAsync && holds isYield t, futureLine := s.futureLine } t
    match kind, children with
    | .splat, _ => ⟨span, "can't use starred expression here"⟩ :: all children
    | .tuple, _ | .list, _ | .set, _ | .subscript, _ => all (unpacked children)
    | .call, [callee, .node .arguments _ items] =>
      here callee ++ repeatedKeywords [] items ++ all (unpacked items)
    | .await, _ =>
      (if !s.unit.isFunction then [⟨span, "'await' outside function"⟩]
        else if !s.unit.mayWait then [⟨span, "'await' outside async function"⟩] else []) ++
        all children
    | .yieldExpression, _ =>
      (if s.unit.isFunction then [] else [⟨span, "'yield' outside function"⟩]) ++ all children
    | .yieldFrom, _ =>
      (if !s.unit.isFunction then [⟨span, "'yield' outside function"⟩]
        else if s.unit == .asyncFunction then [⟨span, "'yield from' inside async function"⟩]
        else []) ++ all children
    | .namedExpression, [target, value] => here value ++ targets target
    | .lambda, [params, value] =>
      parameterRefusals params span ++ all (parameterDefaults params) ++
        misplaced depth { unit := .lambda, futureLine := s.futureLine } value
    | .conditional, [value, condition, other] => here condition ++ here value ++ here other
    | .returnStatement, _ =>
      let value := children.filter fun t => t.kind != .fault .invalidSyntax
      (if !s.unit.isFunction then [⟨span, "'return' outside function"⟩]
        else if s.waitingGenerator && !value.isEmpty then
          [⟨span, "'return' with value in async generator"⟩]
        else []) ++ all children ++ leavesGroup s span
    | .breakStatement, _ =>
      leavesGroup s span ++ (if s.inLoop then [] else [⟨span, "'break' outside loop"⟩])
    | .continueStatement, _ =>
      leavesGroup s span ++
        (if s.inLoop then [] else [⟨span, "'continue' not properly in loop"⟩])
    | .assignment, _ => (children.getLast?.toList).flatMap here ++ children.dropLast.flatMap targets
    | .augmentedAssignment, [target, value] => here value ++ targets target
    | .annotatedAssignment, [target, declared] =>
      let typed := if s.unit.isFunction then [] else here declared
      match target.kind with
      | .identifier name => bindingRefusals name span ++ typed
      | _ => here target ++ typed
    | .annotatedAssignment, [target, declared, value] =>
      here value ++ targets target ++ (if s.unit.isFunction then [] else here declared)
    | .deletion, _ =>
      children.flatMap fun t =>
        match t.kind with
        | .identifier name =>
          if name == fixedName then [⟨t.span, "cannot delete " ++ fixedName⟩] else []
        | _ => all t.children
    | .importStatement names, _ =>
      names.flatMap fun n =>
        bindingRefusals (n.rename.getD (NameEvent.firstPart n.name)) span
    | .importFrom _ source names, _ =>
      (if source == "__future__" && s.futureLine < span.start.line then
        [⟨span, "from __future__ imports must occur at the beginning of the file"⟩]
        else []) ++
        names.flatMap fun n => bindingRefusals (n.rename.getD n.name) span
    | .whileStatement, condition :: block :: other => here condition ++ body block ++ all other
    | .forStatement isAsync, target :: values :: block :: other =>
      (if isAsync && !s.unit.mayWait then [⟨span, "'async for' outside async function"⟩] else []) ++
        here values ++ targets target ++ body block ++ all other
    | .withStatement isAsync, _ =>
      (if isAsync && !s.unit.mayWait then [⟨span, "'async with' outside async function"⟩] else []) ++
        all children
    | .withItem, value :: target => here value ++ target.flatMap targets
    | .tryStatement, block :: clauses =>
      let handler (t : Tree) : Bool :=
        match t.kind with
        | .exceptClause _ _ => true
        | _ => false
      let handlers := clauses.filter handler
      here block ++ all (clauses.filter (·.kind == .elseClause)) ++ earlyCatchAll handlers ++
        all handlers ++ all (clauses.filter (·.kind == .finallyClause))
    | .exceptClause group bound, _ =>
      let inner := if group then { s with inGroup := true, inLoop := false } else s
      children.dropLast.flatMap here ++
        (bound.toList.flatMap fun name => bindingRefusals name span) ++
        (children.getLast?.toList).flatMap (misplaced depth inner)
    | .matchStatement, subject :: cases =>
      let ofCase (last : Bool) (t : Tree) : List Refusal :=
        match t.children with
        | [tested, block] => patternRefusals last tested ++ here block
        | tested :: rest => patternRefusals true tested ++ all rest
        | [] => []
      here subject ++ cases.dropLast.flatMap (ofCase false) ++
        (cases.getLast?.toList).flatMap (ofCase true)
    | .decoratedDefinition, _ =>
      children.dropLast.flatMap here ++ (children.getLast?.toList).flatMap here
    | .functionDefinition isAsync name, params :: rest =>
      parameterRefusals params span ++ all (parameterDefaults params) ++
        all (NameEvent.parameterParts params .declaredType ++ rest.dropLast) ++
        (rest.getLast?.toList).flatMap (function isAsync) ++ bindingRefusals name span
    | .classDefinition name, _ =>
      (children.getLast?.toList).flatMap
          (misplaced depth { unit := .classBody, futureLine := s.futureLine }) ++
        children.dropLast.flatMap here ++ bindingRefusals name span
    | .arguments, _ => repeatedKeywords [] children ++ all (unpacked children)
    | _, element :: clauses =>
      if (NameEvent.comprehensionSort? kind).isSome then
        misplacedComprehension depth s kind span element clauses
      else all children
    | _, [] => []

/-- What is out of place in a tree that is assigned to, down to a depth. -/
def misplacedTarget : Nat → Setting → Tree → List Refusal
  | 0, _, _ => []
  | depth + 1, s, .node kind span children =>
    match kind with
    | .identifier name => bindingRefusals name span
    | .attribute name =>
      children.flatMap (misplaced depth s) ++ bindingRefusals name span
    | .tuple | .list =>
      starredTargets (.node kind span children) ++
        (unpacked children).flatMap (misplacedTarget depth s)
    | .parenthesized => children.flatMap (misplacedTarget depth s)
    | .splat => [⟨span, "starred assignment target must be in a list or tuple"⟩]
    | _ => misplaced depth s (.node kind span children)

/-- What is out of place in a comprehension: its parts make a unit of their
own, but for the values of the first clause, which come last. -/
def misplacedComprehension : Nat → Setting → Kind → Span → Tree → List Tree → List Refusal
  | 0, _, _, _, _, _ => []
  | depth + 1, s, kind, span, element, clauses =>
    let inner : Setting := { unit := .comprehension, futureLine := s.futureLine }
    let clause (t : Tree) : List Refusal :=
      match t with
      | .node (.forClause _) _ [target, values] =>
        misplaced depth inner values ++ misplacedTarget depth inner target
      | t => misplaced depth inner t
    match clauses with
    | .node (.forClause isAsync) _ [target, values] :: rest =>
      let waits := isAsync || holds isWaiting element || holds isWaiting target ||
        rest.any (holds isWaiting)
      (if waits && kind != .generator && !s.unit.mayWait then
        [⟨span, "asynchronous comprehension outside of an asynchronous function"⟩] else []) ++
        misplacedTarget depth inner target ++ rest.flatMap clause ++
        misplaced depth inner element ++ misplaced depth s values
    | _ => []

end

/-! ### Imports that change the language -/

/-- The features that may be asked for. -/
def languageFeatures : List String :=
  ["nested_scopes", "generators", "division", "absolute_import", "with_statement",
    "print_function", "unicode_literals", "barry_as_FLUFL", "generator_stop", "annotations"]

/-- Whether a statement is a literal that may come before such imports. -/
def isLiteralStatement (t : Tree) : Bool :=
  match t.children with
  | [value] =>
    t.kind == .expressionStatement &&
      match value.kind with
      | .string _ => value.children.isEmpty
      | .number | .constant | .none => true
      | _ => false
  | _ => false

/-- The refusal of a feature that there is not. -/
def unknownFeature? (t : Tree) (names : List ImportedName) : Option Refusal :=
  (names.find? fun n => !languageFeatures.contains n.name).map fun n =>
    ⟨t.span, if n.name == "braces" then "not a chance"
      else "future feature " ++ n.name ++ " is not defined"⟩

/-- The last line of the imports that change the language at the start of a
script, or the refusal of one of them; `line` is the last so far, and `done` the
line of the first other statement. -/
def futureImports (line : Nat) (done : Option Nat) : List Tree → Except Refusal Nat
  | [] => .ok line
  | t :: rest =>
    let later : Bool :=
      match done with
      | some first => decide (first < t.start.line)
      | none => false
    if later then .ok line
    else
      match t.kind with
      | .importFrom _ "__future__" names =>
        if done.isSome then
          .error ⟨t.span, "from __future__ imports must occur at the beginning of the file"⟩
        else
          match unknownFeature? t names with
          | some refusal => .error refusal
          | none => futureImports t.start.line none rest
      | _ =>
        if done.isNone && isLiteralStatement t then futureImports line none rest
        else futureImports line (some t.start.line) rest

/-- Why the language refuses a tree that it can read, if it does. -/
def refusal? (t : Tree) : Option Refusal :=
  match futureImports 0 none t.children with
  | .error refusal => some refusal
  | .ok line =>
    match scopeRefusal? t with
    | some refusal => some refusal
    | none => (misplaced (2 * t.depth + 2) { futureLine := line } t).head?

end IntegrationBuild.Script
