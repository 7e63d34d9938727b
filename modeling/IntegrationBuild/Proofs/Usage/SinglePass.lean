import IntegrationBuild.Proofs.Usage.Walk

/-!
The violations of a script in one pass.  The walk judges a call by the nodes
above it and a `return` by a stack of scopes.  A pass from the top needs
neither: it is enough to carry the present scope and whether calls are guarded,
and to change both at the nodes on the way down.
-/

namespace IntegrationBuild.Usage

open Script (Kind Tree)

/-- What a pass carries: the scope it is in, and whether calls are guarded. -/
structure Context where
  scope : Scope
  guarded : Bool
deriving DecidableEq, Repr

namespace Context

/-- The context of a whole script. -/
def top : Context :=
  ⟨.module, false⟩

/-- The context below a node.  A scope ends what guards calls from outside. -/
def below (e : Expectation) (context : Context) : Kind → Context
  | .functionDefinition _ name =>
    ⟨if context.scope = .module ∧ name = handlerName e.kind then .handler else .nested, false⟩
  | .lambda | .classDefinition _ => ⟨.nested, false⟩
  | .await | .returnStatement | .tryStatement => { context with guarded := true }
  | _ => context

end Context

/-- The violation of a rule at the start of a node. -/
def brokenAt (node : Tree) (rule : Rule) (message : String) : Violation :=
  ⟨rule, message, .point node.start⟩

/-- The rules that a call of a method breaks, in the order of the report. -/
def methodViolations (e : Expectation) (guarded : Bool) (call : Tree) (method : String) :
    List Violation :=
  (if e.kind = .action ∧ method ∈ modelMethods then
    [brokenAt call .disallowedInAction
      ("nango." ++ method ++ " is not allowed in an action script.")] else []) ++
  (if method ∈ asyncMethods ∧ guarded = false then
    [brokenAt call .unawaitedCall
      ("nango." ++ method ++ " returns a coroutine and must be awaited.")] else []) ++
  if method ∈ modelMethods then
    ((modelName? call).filter (· ∉ e.models)).toList.map fun model =>
      brokenAt call .unknownModel
        ("\"" ++ model ++ "\" is not a valid model name for this script. Expected one of: " ++
          e.modelsText ++ ".")
  else []

/-- The rules that a call breaks, in the order of the report. -/
def callViolations (e : Expectation) (guarded : Bool) (call : Tree) : List Violation :=
  (if retryOnOption ∈ optionNames call ∧ retriesOption ∉ optionNames call then
    [brokenAt call .retryOnWithoutRetries
      ("\"" ++ retryOnOption ++ "\" only takes effect together with \"" ++ retriesOption ++ "\".")]
    else []) ++
  (method? call).elim [] (methodViolations e guarded call)

/-- The rule that a `return` breaks. -/
def returnViolations (e : Expectation) (scope : Scope) (node : Tree) : List Violation :=
  if e.kind = .sync ∧ scope = .handler ∧ returnsValue node = true then
    [brokenAt node .returnInSync
      ("Return statements with a value are not allowed in a sync script (" ++
        handlerName e.kind ++ "); save records with nango.batch_save instead.")]
  else []

/-- The rules broken at a node itself. -/
def Context.violations (e : Expectation) (context : Context) (node : Tree) : List Violation :=
  match node.kind with
  | .call => callViolations e context.guarded node
  | .returnStatement => returnViolations e context.scope node
  | _ => []

mutual

/-- The violations of a tree in a context, each node before those below it. -/
def pass (e : Expectation) (context : Context) : Tree → List Violation
  | .node kind span children =>
    context.violations e (.node kind span children) ++
      passAll e (context.below e kind) children

/-- The violations of some trees, one after the other. -/
def passAll (e : Expectation) (context : Context) : List Tree → List Violation
  | [] => []
  | tree :: rest => pass e context tree ++ passAll e context rest

end

/-- A context says what the walk reads off its scopes and ancestors. -/
structure Context.Sums (context : Context) (scopes : List Scope) (ancestors : List Kind) :
    Prop where
  scope : scopes.head? = some context.scope
  module_iff : scopes = [.module] ↔ context.scope = .module
  guarded : context.guarded = isGuarded ancestors

theorem isGuarded_cons (kind : Kind) (ancestors : List Kind) :
    isGuarded (kind :: ancestors) =
      if isScope kind then false else isGuard kind || isGuarded ancestors := by
  rw [isGuarded, List.takeWhile_cons]
  cases isScope kind <;> simp [isGuarded]

namespace Context.Sums

variable {e : Expectation} {context : Context} {scopes : List Scope} {ancestors : List Kind}

theorem top : Context.top.Sums [.module] [] :=
  ⟨rfl, by simp [Context.top], rfl⟩

/-- Below a node that is no scope only guards matter. -/
theorem keep (hsums : context.Sums scopes ancestors) {kind : Kind} {guarded : Bool}
    (hkind : isScope kind = false) (hguarded : guarded = (isGuard kind || context.guarded)) :
    Context.Sums ⟨context.scope, guarded⟩ (enter e scopes kind) (kind :: ancestors) := by
  rw [enter, if_neg (by simp [hkind])]
  refine ⟨hsums.scope, hsums.module_iff, ?_⟩
  rw [isGuarded_cons, if_neg (by simp [hkind]), hguarded, hsums.guarded]

/-- Below a node that is a scope nothing is guarded. -/
theorem opened {kind : Kind} {scope : Scope} (hkind : isScope kind = true)
    (hscope : scopeOf e scopes kind = scope) (hinner : scope ≠ .module) :
    Context.Sums ⟨scope, false⟩ (enter e scopes kind) (kind :: ancestors) := by
  rw [enter, if_pos hkind, hscope]
  refine ⟨rfl, ?_, ?_⟩
  · simp [hinner]
  · rw [isGuarded_cons, if_pos hkind]

/-- What a context sums up, the context below a node sums up there. -/
theorem below (hsums : context.Sums scopes ancestors) (kind : Kind) :
    (context.below e kind).Sums (enter e scopes kind) (kind :: ancestors) := by
  fun_cases Context.below e context kind with
  | case1 isAsync name =>
      apply opened rfl
      · simp only [scopeOf, Bool.and_eq_true, beq_iff_eq, hsums.module_iff]
      · split <;> simp
  | case2 => exact opened rfl rfl (by simp)
  | case3 name => exact opened rfl rfl (by simp)
  | case4 => exact hsums.keep rfl rfl
  | case5 => exact hsums.keep rfl rfl
  | case6 => exact hsums.keep rfl rfl
  | case7 _ hfunction hlambda hclass hawait hreturn htry =>
      have hscope : isScope kind = false := by
        fun_cases isScope kind <;> simp_all
      have hguard : isGuard kind = false := by
        fun_cases isGuard kind <;> simp_all
      exact hsums.keep hscope (by rw [hguard, Bool.false_or])

end Context.Sums

theorem filterMap_violationAt {condition : Bool} {p : Prop} [Decidable p]
    (hcondition : condition = true ↔ p) (node : Tree) (rule : Rule) (message : String) :
    (if condition then [violationAt rule message node] else []).filterMap
        Finding.violation? =
      if p then [brokenAt node rule message] else [] := by
  by_cases hp : p
  · rw [if_pos (hcondition.mpr hp), if_pos hp]
    rfl
  · rw [if_neg (mt hcondition.mp hp), if_neg hp]
    rfl

theorem filterMap_checkMethod (e : Expectation) (ancestors : List Kind) (call : Tree)
    (method : String) :
    (checkMethod e ancestors call method).filterMap Finding.violation? =
      methodViolations e (isGuarded ancestors) call method := by
  rw [checkMethod, methodViolations, List.filterMap_append, List.filterMap_append,
    List.filterMap_append]
  congr 1
  · congr 1
    · -- A method that is out of date is noted, but it breaks no rule.
      have hdisallowed : isDisallowed method e.kind = true ↔
          e.kind = .action ∧ method ∈ modelMethods := by
        simp [isDisallowed]
      cases replacement? method with
      | none => exact filterMap_violationAt hdisallowed call _ _
      | some other => exact filterMap_violationAt hdisallowed call _ _
    · apply filterMap_violationAt
      simp
  · by_cases hmethod : method ∈ modelMethods
    · rw [if_pos (List.contains_iff_mem.mpr hmethod), if_pos hmethod]
      cases modelName? call with
      | none => rfl
      | some model =>
          by_cases hmodel : model ∈ e.models
          · simp [hmodel, Option.filter]
          · simp [hmodel, Option.filter, violationAt, brokenAt, Finding.violation?]
    · rw [if_neg (mt List.contains_iff_mem.mp hmethod), if_neg hmethod]
      rfl

theorem filterMap_checkCall (e : Expectation) (ancestors : List Kind) (call : Tree) :
    (checkCall e ancestors call).filterMap Finding.violation? =
      callViolations e (isGuarded ancestors) call := by
  rw [checkCall, callViolations, List.filterMap_append]
  congr 1
  · apply filterMap_violationAt
    simp
  · cases method? call with
    | none => rfl
    | some method => exact filterMap_checkMethod e ancestors call method

theorem filterMap_checkReturn (e : Expectation) (scope : Scope) (node : Tree) :
    (checkReturn e scope node).filterMap Finding.violation? =
      returnViolations e scope node := by
  rw [checkReturn, returnViolations]
  by_cases hvalue : scope = .handler ∧ returnsValue node = true
  · rw [if_pos (by simp [hvalue])]
    cases hkind : e.kind with
    | action => simp [Finding.violation?]
    | sync =>
        rw [if_pos ⟨rfl, hvalue⟩]
        rfl
  · rw [if_neg (by simpa using hvalue), if_neg (fun hall => hvalue hall.2)]
    rfl

/-- A node breaks the same rules in the walk and in the pass. -/
theorem filterMap_checkNode {e : Expectation} {context : Context} {scopes : List Scope}
    {ancestors : List Kind} (hsums : context.Sums scopes ancestors) (node : Tree) :
    (checkNode e (enter e scopes node.kind) ancestors node).filterMap Finding.violation? =
      context.violations e node := by
  have hopened : ∀ condition : Bool,
      (if condition then [Finding.handler] else []).filterMap Finding.violation? = [] := by
    intro condition
    cases condition <;> rfl
  rw [checkNode, List.filterMap_append, hopened, List.nil_append]
  fun_cases Context.violations e context node with
  | case1 hkind => rw [hkind, filterMap_checkCall, hsums.guarded]
  | case2 hkind =>
      have hscope : (enter e scopes node.kind).headD .module = context.scope := by
        rw [hkind, enter, if_neg (by simp [isScope]), List.headD_eq_head?_getD, hsums.scope]
        rfl
      rw [hscope, hkind, filterMap_checkReturn]
  | case3 hcall hreturn =>
      split
      · next hkind => exact absurd hkind hcall
      · next hkind => exact absurd hkind hreturn
      · rfl

/-- Below a context that sums up the nodes above, the walk reports what the pass
reports. -/
theorem filterMap_walk_and_walkAll (e : Expectation) :
    (∀ scopes ancestors tree, ∀ context : Context, context.Sums scopes ancestors →
      (walk e scopes ancestors tree).filterMap Finding.violation? = pass e context tree) ∧
    ∀ scopes ancestors trees, ∀ context : Context, context.Sums scopes ancestors →
      (walkAll e scopes ancestors trees).filterMap Finding.violation? =
        passAll e context trees := by
  apply walk.mutual_induct
  case case1 =>
    intro scopes ancestors kind span children inner ih context hsums
    rw [walk, pass, List.filterMap_append]
    congr 1
    · exact filterMap_checkNode hsums (.node kind span children)
    · exact ih _ (hsums.below kind)
  case case2 =>
    intro scopes ancestors context hsums
    rfl
  case case3 =>
    intro scopes ancestors tree rest ihTree ihRest context hsums
    rw [walkAll, passAll, List.filterMap_append, ihTree context hsums, ihRest context hsums]

/-- The walk reports the same violations as one pass, in the same order, and the
report on a script begins with them. -/
theorem violations_walk_eq_pass (e : Expectation) (tree : Tree) :
    (walk e [.module] [] tree).filterMap Finding.violation? = pass e .top tree ∧
      ∀ requireHandler root,
        (checkTree e requireHandler root tree).violations =
          pass e .top tree ++ checkWhole e requireHandler root (walk e [.module] [] tree) := by
  have hwalk := (filterMap_walk_and_walkAll e).1 [.module] [] tree .top .top
  refine ⟨hwalk, ?_⟩
  intro requireHandler root
  rw [violations_checkTree, hwalk]

end IntegrationBuild.Usage
