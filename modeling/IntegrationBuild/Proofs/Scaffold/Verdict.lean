import IntegrationBuild.Import.Reference
import IntegrationBuild.Proofs.Scaffold.Tree
import IntegrationBuild.Proofs.Script.Scope
import IntegrationBuild.Proofs.Usage.Walk
import IntegrationBuild.Script.Placement

/-!
What is said of the trees of starter scripts: they are without faults, keep the
contract, make one import at most, and are not refused.
-/

namespace IntegrationBuild.Scaffold

open Script Usage

variable (places : Places)

theorem faults_tree (source : String) (starter : Starter) :
    (starter.tree places source).faults = [] := by
  cases starter <;> rfl

/-- The imports that a starter script makes. -/
def Starter.imports (source : String) (starter : Starter) : List ImportRef :=
  starter.model?.toList.map fun model =>
    { line := (places 1).1.start.line, source := source, names := [model] }

theorem imports_tree (source : String) (starter : Starter) :
    Script.imports (starter.tree places source) = starter.imports places source := by
  have hfound : (starter.tree places source).breadthFirst.flatMap importsAt =
      starter.imports places source := by
    cases starter <;> cbv
  rw [Script.imports, hfound, Starter.imports]
  cases starter.model? with
  | none => exact List.mergeSort_nil
  | some model => exact List.mergeSort_singleton _

/-! ### The contract -/

section Contract

/-- The kind of operation that a starter script is for. -/
def Starter.kind : Starter → OperationKind
  | saving _ | logging _ => .sync
  | returning _ | importing _ | answering => .action

/-- What a walk finds in a starter script. -/
def Starter.findings : Starter → List Finding
  | saving _ | logging _ => [.handler]
  | returning _ | importing _ | answering => [.handler, .valueReturn]

/-- Whether the contract says something of the nodes of a kind. -/
def isJudged : Kind → Bool
  | .functionDefinition _ _ | .lambda | .classDefinition _ | .call | .returnStatement => true
  | _ => false

variable {e : Expectation} {ancestors : List Kind}

theorem walk_nodeAt {scopes : List Scope} {kind : Kind} (hkind : isJudged kind = false)
    (first last : Nat) (children : List Tree) :
    walk e scopes ancestors (nodeAt places kind first last children) =
      walkAll e scopes (kind :: ancestors) children := by
  have hscope : isScope kind = false := by
    cases kind <;> first | rfl | cases hkind
  have hnode : checkNode e scopes ancestors (nodeAt places kind first last children) = [] := by
    rw [checkNode, nodeAt, Tree.kind, hscope]
    cases kind <;> first | rfl | cases hkind
  rw [nodeAt, walk, enter, hscope]
  exact (congrArg (· ++ _) hnode).trans (List.nil_append _)

theorem walkAll_singleton (scopes : List Scope) (t : Tree) :
    walkAll e scopes ancestors [t] = walk e scopes ancestors t := by
  rw [walkAll, walkAll, List.append_nil]

theorem walkAll_append (scopes : List Scope) (first second : List Tree) :
    walkAll e scopes ancestors (first ++ second) =
      walkAll e scopes ancestors first ++ walkAll e scopes ancestors second := by
  induction first with
  | nil => rw [List.nil_append, walkAll, List.nil_append]
  | cons t rest ih => rw [List.cons_append, walkAll, walkAll, ih, List.append_assoc]

theorem walk_nameAt (scopes : List Scope) (name : String) (i : Nat) :
    walk e scopes ancestors (nameAt places name i) = [] :=
  walk_nodeAt places rfl i i []

theorem walk_callTree (scopes : List Scope) (object method : String) (first last : Nat)
    (arguments : List Tree) :
    walk e scopes ancestors (callTree places object method first last arguments) =
      checkCall e ancestors (callTree places object method first last arguments) ++
        walkAll e scopes (.arguments :: .call :: ancestors) arguments := by
  simp [callTree, nameAt, nodeAt, walk, walkAll, checkNode, enter, isScope, Tree.kind]

/-- A call that is waited for breaks nothing where its method is in date and
allowed, it asks for no other try, and it names a model of the operation. -/
theorem walk_awaitTree {scopes : List Scope} {method : String} {first last : Nat}
    {arguments : List Tree} (hmethod : replacement? method = none)
    (hallowed : isDisallowed method e.kind = false)
    (hoptions : retryOnOption ∉
      optionNames (callTree places "nango" method (first + 1) last arguments))
    (hmodel : ∀ model, modelMethods.contains method = true →
      modelName? (callTree places "nango" method (first + 1) last arguments) = some model →
      model ∈ e.models) :
    walk e scopes ancestors (awaitTree places method first last arguments) =
      walkAll e scopes (.arguments :: .call :: .await :: ancestors) arguments := by
  have hretries :
      checkRetries (callTree places "nango" method (first + 1) last arguments) = [] := by
    rw [checkRetries, if_neg (by simp [hoptions])]
  have hknown : checkMethod e (.await :: ancestors)
      (callTree places "nango" method (first + 1) last arguments) method = [] := by
    have hguarded : isGuarded (.await :: ancestors) = true := rfl
    simp only [checkMethod, hmethod, hallowed, hguarded, Bool.not_true, Bool.and_false,
      Bool.false_eq_true, ↓reduceIte, List.nil_append]
    split
    · next model hmodel' =>
      obtain ⟨hnames, hmodel'⟩ := Option.ite_none_right_eq_some.mp hmodel'
      rw [if_pos (List.contains_iff_mem.mpr (hmodel model hnames hmodel'))]
    · rfl
  have hcall : checkCall e (.await :: ancestors)
      (callTree places "nango" method (first + 1) last arguments) = [] := by
    rw [checkCall, hretries, List.nil_append]
    exact hknown
  rw [awaitTree, walk_nodeAt places rfl, walkAll_singleton, walk_callTree, hcall,
    List.nil_append]

/-- The function that an operation runs is its handler. -/
theorem walk_handler {isAsync : Bool} {name : String} (hname : name = handlerName e.kind)
    (first last : Nat) (children : List Tree) :
    walk e [.module] ancestors
        (nodeAt places (.functionDefinition isAsync name) first last children) =
      .handler ::
        walkAll e [.handler, .module] (.functionDefinition isAsync name :: ancestors) children := by
  simp [nodeAt, walk, checkNode, enter, isScope, scopeOf, hname, Tree.kind]

theorem walk_fetchTree (hkind : e.kind = .sync) (first last : Nat) {body : List Tree}
    (hbody : ∀ ancestors, walkAll e [.handler, .module] ancestors body = []) :
    walk e [.module] ancestors (fetchTree places first last body) = [.handler] := by
  rw [fetchTree, walk_handler places (by rw [hkind]; rfl), walkAll, walk_nodeAt places rfl,
    walkAll_singleton, walk_nodeAt places rfl, walkAll_singleton, walk_nodeAt places rfl, hbody]
  rfl

/-- Saving records of a model of the operation breaks nothing. -/
theorem walkAll_saveTrees {scopes : List Scope} {model : String} (hmodel : model ∈ e.models)
    (hkind : e.kind = .sync) : walkAll e scopes ancestors (saveTrees places model) = [] := by
  have hrecords : walk e scopes ancestors
      (nodeAt places .annotatedAssignment 14 22
        [nameAt places "records" 14,
          nodeAt places .subscript 16 19 [nameAt places "list" 16, nameAt places model 18],
          nodeAt places .list 21 22 []]) = [] := by
    rw [walk_nodeAt places rfl, walkAll, walkAll, walkAll, walk_nameAt, walk_nodeAt places rfl,
      walk_nodeAt places rfl]
    simp only [walkAll, walk_nameAt, List.append_nil]
  have hcall : ∀ ancestors, walk e scopes ancestors (awaitTree places "batch_save" 24 32
      [nameAt places "records" 29, nodeAt places (.string (some model)) 31 31 []]) = [] := by
    intro ancestors
    rw [walk_awaitTree places (by decide) (by rw [hkind]; rfl)]
    · rw [walkAll, walk_nameAt, walkAll_singleton, walk_nodeAt places rfl]
      rfl
    · exact List.not_mem_nil
    · rintro other - hother
      cases hother
      exact hmodel
  rw [saveTrees, walkAll, hrecords, walkAll_singleton, walk_nodeAt places rfl, walkAll_singleton,
    hcall]
  rfl

/-- Logging a text breaks nothing. -/
theorem walk_logTree (scopes : List Scope) (text : Option String) :
    walk e scopes ancestors (logTree places text) = [] := by
  rw [logTree, walk_nodeAt places rfl, walkAll_singleton,
    walk_awaitTree places (by decide) (Bool.and_eq_false_imp.mpr fun _ => rfl)]
  · rw [walkAll_singleton, walk_nodeAt places rfl]
    rfl
  · exact List.not_mem_nil
  · intro other hnames
    cases hnames

/-- Asking for a response breaks nothing. -/
theorem walk_askTree (hkind : e.kind = .action) (scopes : List Scope) (block : Nat) :
    walk e scopes ancestors (askTree places block) = [] := by
  rw [askTree, walk_nodeAt places rfl, walkAll, walk_nameAt, walkAll_singleton,
    walk_awaitTree places (by decide) (by rw [hkind]; rfl)]
  · rw [walkAll_singleton, walk_nodeAt places rfl, walkAll_singleton, walk_nodeAt places rfl]
    rfl
  · have hoptions : optionNames (callTree places "nango" "get" (block + 3 + 1) (block + 11)
        [nodeAt places (.keywordArgument "endpoint") (block + 8) (block + 10)
          [nodeAt places (.string (some "/")) (block + 10) (block + 10) []]]) = ["endpoint"] := by
      rfl
    rw [hoptions]
    decide
  · intro model hnames
    cases hnames

/-- Returning what a response says gives a value back. -/
theorem walk_answerTree (hkind : e.kind = .action) (scopes : List Scope) (block : Nat) :
    walk e (.handler :: scopes) ancestors (answerTree places block) = [.valueReturn] := by
  have hcall : checkCall e (.returnStatement :: ancestors)
      (callTree places "response" "json" (block + 14) (block + 18) []) = [] := by
    rfl
  have hreturn : checkNode e (.handler :: scopes) ancestors (answerTree places block) =
      [.valueReturn] := by
    simp [checkNode, answerTree, nodeAt, isScope, checkReturn, returnsValue, callTree, isNote,
      hkind, Tree.kind, Tree.children]
  have hnode : walk e (.handler :: scopes) ancestors (answerTree places block) =
      checkNode e (.handler :: scopes) ancestors (answerTree places block) ++
        walk e (.handler :: scopes) (.returnStatement :: ancestors)
          (callTree places "response" "json" (block + 14) (block + 18) []) := by
    rw [answerTree, nodeAt, walk, walkAll_singleton]
    rfl
  rw [hnode, hreturn, walk_callTree, hcall, walkAll]
  rfl

/-- The function that an action runs gives a value back. -/
theorem walk_runTree (hkind : e.kind = .action) (first block : Nat) {result : List Tree}
    (hresult : ∀ ancestors, walkAll e [.handler, .module] ancestors result = []) :
    walk e [.module] ancestors (runTree places first block result) = [.handler, .valueReturn] := by
  have hparameters : ∀ ancestors, walk e [.handler, .module] ancestors
      (nodeAt places .parameters (first + 5) (first + 9)
        [nodeAt places (.parameter "nango" .single) (first + 5) (first + 5) [],
          nodeAt places (.parameter "input" .single) (first + 7) (first + 7)
            [nodeAt places .defaultValue (first + 9) (first + 9)
              [nodeAt places .none (first + 9) (first + 9) []]]]) = [] := by
    intro ancestors
    rfl
  rw [runTree, walk_handler places (by rw [hkind]; rfl), walkAll, hparameters, walkAll_append,
    hresult, walkAll_singleton, walk_nodeAt places rfl, walkAll, walk_askTree places hkind,
    walkAll_singleton, walk_answerTree places hkind]
  rfl

theorem walk_function {starter : Starter} (hkind : e.kind = starter.kind)
    (hmodel : ∀ model, starter.model? = some model → model ∈ e.models) :
    walk e [.module] ancestors (starter.function places) = starter.findings := by
  cases starter with
  | saving model =>
    exact walk_fetchTree places hkind 5 32 fun _ =>
      walkAll_saveTrees places (hmodel model rfl) hkind
  | logging letters =>
    exact walk_fetchTree places hkind 0 15 fun _ =>
      (walkAll_singleton _ _).trans (walk_logTree places _ _)
  | returning model =>
    refine walk_runTree places hkind 5 19 fun ancestors => ?_
    rw [walkAll_singleton, walk_nodeAt places rfl, walkAll_singleton, walk_nameAt]
  | importing model => exact walk_runTree places hkind 5 17 fun _ => by rw [walkAll]
  | answering => exact walk_runTree places hkind 0 12 fun _ => by rw [walkAll]

/-- The starter script of an operation keeps the contract. -/
theorem violations_checkTree_tree (source : String) {starter : Starter}
    (hkind : e.kind = starter.kind)
    (hmodel : ∀ model, starter.model? = some model → model ∈ e.models) (root : Position) :
    (checkTree e true root (starter.tree places source)).violations = [] := by
  have himport : walkAll e [.module] [.module]
      (starter.model?.toList.map (importTree places source)) = [] := by
    cases starter.model? with
    | none => rw [Option.toList_none, List.map_nil, walkAll]
    | some model => exact (walkAll_singleton _ _).trans (walk_nodeAt places rfl 1 4 [])
  have hwalk : walk e [.module] [] (starter.tree places source) = starter.findings := by
    rw [Starter.tree, walk_nodeAt places rfl, walkAll_append, himport, walkAll_singleton,
      walk_function places hkind hmodel, List.nil_append]
  rw [violations_checkTree, hwalk]
  cases starter <;> simp [Starter.findings, Finding.violation?, checkWhole, hkind, Starter.kind]

end Contract

/-! ### Refusals -/

section Refusal

/-- Without imports that change the language, nothing is wrong with them. -/
theorem futureImports_eq_ok {trees : List Tree} (line : Nat) (done : Option Nat)
    (htrees : ∀ t ∈ trees, ∀ level names, t.kind ≠ .importFrom level "__future__" names) :
    futureImports line done trees = .ok line := by
  induction trees generalizing done with
  | nil => rw [futureImports.eq_def]
  | cons t rest ih =>
    obtain ⟨ht, hrest⟩ := List.forall_mem_cons.mp htrees
    rw [futureImports.eq_def]
    cases done with
    | none =>
      simp only [Bool.false_eq_true, ↓reduceIte]
      split
      · exact ih none hrest
      · exact ih _ hrest
    | some first =>
      simp only [Option.isNone_some, Bool.false_and, Bool.false_eq_true, ↓reduceIte]
      split
      · rfl
      · exact ih _ hrest

theorem ofTree_module (depth first last : Nat) (statements : List Tree) :
    NameEvent.ofTree (depth + 1) (nodeAt places .module first last statements) =
      statements.flatMap (NameEvent.ofTree depth) := by
  cases statements with
  | nil => rfl
  | cons t rest => rfl

theorem ofTree_importTree (depth : Nat) (source : String) {model : String} (hmodel : model ≠ "*") :
    NameEvent.ofTree (depth + 1) (importTree places source model) = [.imported model] := by
  simp [NameEvent.ofTree, NameEvent.ofImport, importTree, nodeAt, hmodel]

theorem arePlain_function (source : String) (starter : Starter) :
    NameEvent.arePlain [] (NameEvent.ofTree (2 * (starter.tree places source).depth + 1)
      (starter.function places)) = true := by
  cases starter <;> cbv

/-- The names of a starter script do not contradict each other. -/
theorem scopeRefusal?_tree (source : String) {starter : Starter}
    (hmodel : starter.model? ≠ some "*") : scopeRefusal? (starter.tree places source) = none := by
  have hfunction := arePlain_function places source starter
  refine scopeRefusal?_eq_none ?_
  generalize 2 * (starter.tree places source).depth = depth at hfunction ⊢
  rw [Starter.tree, ofTree_module, List.flatMap_append, List.flatMap_singleton]
  cases hfound : starter.model? with
  | none => exact hfunction
  | some model =>
    have hstar : model ≠ "*" := fun h => hmodel (h ▸ hfound)
    rw [Option.toList_some, List.map_singleton, List.flatMap_singleton,
      ofTree_importTree places depth source hstar]
    exact hfunction

theorem misplaced_importTree {source model : String} (hsource : source ≠ "__future__")
    (hmodel : model ≠ fixedName) (depth : Nat) (s : Setting) :
    misplaced (depth + 1) s (importTree places source model) = [] := by
  simp [misplaced, importTree, nodeAt, bindingRefusals, hsource, hmodel]

theorem misplaced_function (source : String) (starter : Starter) :
    misplaced (2 * (starter.tree places source).depth + 1) {} (starter.function places) = [] := by
  cases starter <;> cbv

theorem misplaced_module (depth : Nat) (s : Setting) (first last : Nat) (statements : List Tree) :
    misplaced (depth + 1) s (nodeAt places .module first last statements) =
      statements.flatMap (misplaced depth s) := by
  cases statements with
  | nil => rfl
  | cons t rest => rfl

/-- Nothing in a starter script is out of place. -/
theorem misplaced_tree {source : String} {starter : Starter} (hsource : source ≠ "__future__")
    (hmodel : starter.model? ≠ some fixedName) :
    misplaced (2 * (starter.tree places source).depth + 2) {} (starter.tree places source) =
      [] := by
  have hfunction := misplaced_function places source starter
  have himport : (starter.model?.toList.map (importTree places source)).flatMap
      (misplaced (2 * (starter.tree places source).depth + 1) {}) = [] := by
    cases hfound : starter.model? with
    | none => rfl
    | some model =>
      have hname : model ≠ fixedName := fun h => hmodel (h ▸ hfound)
      exact (List.flatMap_singleton _ _).trans (misplaced_importTree places hsource hname _ _)
  generalize 2 * (starter.tree places source).depth = depth at hfunction himport ⊢
  rw [Starter.tree, misplaced_module, List.flatMap_append, himport, List.flatMap_singleton,
    hfunction, List.nil_append]

/-- A starter script is not refused. -/
theorem refusal?_tree {source : String} {starter : Starter} (hsource : source ≠ "__future__")
    (hmodel : ∀ model, starter.model? = some model → model ≠ "*" ∧ model ≠ fixedName) :
    refusal? (starter.tree places source) = none := by
  have hfuture : futureImports 0 none (starter.tree places source).children = .ok 0 := by
    refine futureImports_eq_ok 0 none fun t ht level names hkind => ?_
    rw [Starter.tree, nodeAt, Tree.children] at ht
    rcases List.mem_append.mp ht with himport | hfunction
    · obtain ⟨model, -, rfl⟩ := List.mem_map.mp himport
      cases hkind
      exact hsource rfl
    · rw [List.mem_singleton.mp hfunction] at hkind
      cases starter <;> cases hkind
  have hscope := scopeRefusal?_tree places source fun h => (hmodel _ h).1 rfl
  rw [refusal?, hfuture]
  simp only [hscope]
  rw [misplaced_tree places hsource fun h => (hmodel _ h).2 rfl]
  rfl

end Refusal

end IntegrationBuild.Scaffold
