import Mathlib.Data.List.Induction
import IntegrationBuild.Proofs.Usage.Walk

/-!
The handler of a script.  A function is the handler when it has the handler's
name and no function, lambda or class is around it; a `return` belongs to the
nearest scope around it.  The rules about handlers are broken exactly where
these two notions say so, however the scopes of a script are nested.
-/

namespace IntegrationBuild.Usage

open Script (IsAbove Kind Tree)

/-- A function, a lambda or a class stands at the place. -/
def ScopeAt (tree : Tree) (place : List Nat) : Prop :=
  ∃ node, tree.at? place = some node ∧ isScope node.kind = true

/-- No scope is around the place. -/
def Outermost (tree : Tree) (place : List Nat) : Prop :=
  ∀ upper, IsAbove upper place → ¬ScopeAt tree upper

/-- A function of the handler's name stands at the place, and no scope is around
it. -/
structure HandlerAt (e : Expectation) (tree : Tree) (place : List Nat) : Prop where
  named : ∃ node isAsync, tree.at? place = some node ∧
    node.kind = .functionDefinition isAsync (handlerName e.kind)
  outermost : Outermost tree place

/-- The nearest scope around a place. -/
structure NearestScope (tree : Tree) (place scope : List Nat) : Prop where
  above : IsAbove scope place
  isScope : ScopeAt tree scope
  nearest : ∀ between, IsAbove scope between → IsAbove between place → ¬ScopeAt tree between

/-- The nearest scope around a place is the handler. -/
def InHandler (e : Expectation) (tree : Tree) (place : List Nat) : Prop :=
  ∃ scope, NearestScope tree place scope ∧ HandlerAt e tree scope

/-- The first thing below a node, notes of faults left out, is a value other
than `None`. -/
def GivesValue (node : Tree) : Prop :=
  ∃ value, (node.children.filter (!isNote ·)).head? = some value ∧ value.kind ≠ .none

/-- A `return` with a value that belongs to the handler stands at the place. -/
structure ValueReturnAt (e : Expectation) (tree : Tree) (place : List Nat) : Prop where
  statement : ∃ node, tree.at? place = some node ∧ node.kind = .returnStatement ∧
    GivesValue node
  inHandler : InHandler e tree place

section Scopes

variable {e : Expectation} {tree : Tree} {place : List Nat} {i : Nat}

theorem outermost_concat_iff :
    Outermost tree (place ++ [i]) ↔ ¬ScopeAt tree place ∧ Outermost tree place := by
  simp only [Outermost, Script.isAbove_concat_iff, forall_eq_or_imp]

theorem nearestScope_concat_iff {scope : List Nat} :
    NearestScope tree (place ++ [i]) scope ↔
      (ScopeAt tree place ∧ scope = place) ∨
        (¬ScopeAt tree place ∧ NearestScope tree place scope) := by
  constructor
  · intro hscope
    rcases Script.isAbove_concat_iff.mp hscope.above with rfl | habove
    · exact Or.inl ⟨hscope.isScope, rfl⟩
    · right
      refine ⟨hscope.nearest place habove (Script.isAbove_concat_iff.mpr (Or.inl rfl)),
        habove, hscope.isScope, ?_⟩
      intro between hupper hlower
      exact hscope.nearest between hupper (Script.isAbove_concat_iff.mpr (Or.inr hlower))
  · rintro (⟨hself, rfl⟩ | ⟨hself, hscope⟩)
    · refine ⟨Script.isAbove_concat_iff.mpr (Or.inl rfl), hself, ?_⟩
      intro between hupper hlower
      rcases Script.isAbove_concat_iff.mp hlower with rfl | hlower
      · exact absurd rfl hupper.2
      · exact absurd (hupper.1.eq_of_length_le hlower.1.length_le) hupper.2
    · refine ⟨Script.isAbove_concat_iff.mpr (Or.inr hscope.above), hscope.isScope, ?_⟩
      intro between hupper hlower
      rcases Script.isAbove_concat_iff.mp hlower with rfl | hlower
      · exact hself
      · exact hscope.nearest between hupper hlower

theorem inHandler_concat_iff :
    InHandler e tree (place ++ [i]) ↔
      (ScopeAt tree place ∧ HandlerAt e tree place) ∨
        (¬ScopeAt tree place ∧ InHandler e tree place) := by
  simp only [InHandler, nearestScope_concat_iff]
  constructor
  · rintro ⟨scope, ⟨hself, rfl⟩ | ⟨hself, hscope⟩, hhandler⟩
    · exact Or.inl ⟨hself, hhandler⟩
    · exact Or.inr ⟨hself, scope, hscope, hhandler⟩
  · rintro (⟨hself, hhandler⟩ | ⟨hself, scope, hscope, hhandler⟩)
    · exact ⟨place, Or.inl ⟨hself, rfl⟩, hhandler⟩
    · exact ⟨scope, Or.inr ⟨hself, hscope⟩, hhandler⟩

theorem scopeAt_iff {node : Tree} (hnode : tree.at? place = some node) :
    ScopeAt tree place ↔ isScope node.kind = true := by
  simp only [ScopeAt, hnode, Option.some.injEq, exists_eq_left']

theorem handlerAt_iff {node : Tree} (hnode : tree.at? place = some node) :
    HandlerAt e tree place ↔
      (∃ isAsync, node.kind = .functionDefinition isAsync (handlerName e.kind)) ∧
        Outermost tree place := by
  constructor
  · rintro ⟨⟨other, isAsync, hother, hkind⟩, houtermost⟩
    cases hnode.symm.trans hother
    exact ⟨⟨isAsync, hkind⟩, houtermost⟩
  · rintro ⟨⟨isAsync, hkind⟩, houtermost⟩
    exact ⟨⟨node, isAsync, hnode, hkind⟩, houtermost⟩

/-- The scope that a node opens is the handler's only for a function of that
name right in the module. -/
theorem scopeOf_eq_handler_iff {scopes : List Scope} {kind : Kind} :
    scopeOf e scopes kind = .handler ↔
      (∃ isAsync, kind = .functionDefinition isAsync (handlerName e.kind)) ∧
        scopes = [.module] := by
  fun_cases scopeOf e scopes kind with
  | case1 isAsync name hcondition =>
      simp only [Bool.and_eq_true, beq_iff_eq] at hcondition
      simp [hcondition]
  | case2 isAsync name hcondition =>
      simp only [Bool.and_eq_true, beq_iff_eq, not_and] at hcondition
      simp only [reduceCtorEq, false_iff, Kind.functionDefinition.injEq]
      rintro ⟨⟨_, rfl, rfl⟩, hscopes⟩
      exact hcondition hscopes rfl
  | case3 _ hfunction =>
      simp only [reduceCtorEq, false_iff]
      rintro ⟨⟨isAsync, rfl⟩, -⟩
      exact hfunction _ _ rfl

theorem scopeOf_ne_module (e : Expectation) (scopes : List Scope) (kind : Kind) :
    scopeOf e scopes kind ≠ .module := by
  fun_cases scopeOf e scopes kind <;> simp

/-- The scopes that the walk has at a place. -/
def scopesAt (e : Expectation) (tree : Tree) (place : List Nat) : List Scope :=
  scopesBelow e [.module] (tree.kindsAbove place)

/-- The scopes at a place say whether it is outermost and whether the handler is
the nearest scope. -/
theorem scopesAt_iff (e : Expectation) {node : Tree} (hnode : tree.at? place = some node) :
    (scopesAt e tree place = [.module] ↔ Outermost tree place) ∧
      ((scopesAt e tree place).head? = some .handler ↔ InHandler e tree place) := by
  -- From one place to the next below it, one node enters.
  induction place using List.reverseRecOn generalizing node with
  | nil =>
      constructor
      · simp [scopesAt, scopesBelow, Tree.kindsAbove, Outermost, Script.not_isAbove_nil]
      · simp only [scopesAt, scopesBelow, Tree.kindsAbove, List.foldr_nil, List.head?_cons,
          Option.some.injEq, reduceCtorEq, false_iff]
        rintro ⟨scope, hscope, -⟩
        exact Script.not_isAbove_nil scope hscope.above
  | append_singleton place i ih =>
      obtain ⟨parent, hparent, hchild⟩ := Tree.exists_parent_of_at?_concat hnode
      obtain ⟨houtermost, hinHandler⟩ := ih hparent
      have hstep : scopesAt e tree (place ++ [i]) =
          enter e (scopesAt e tree place) parent.kind := by
        rw [scopesAt, Tree.kindsAbove_concat hparent hchild]
        rfl
      have hscope := scopeAt_iff hparent
      rw [hstep, enter, outermost_concat_iff, inHandler_concat_iff]
      by_cases hkind : isScope parent.kind = true
      · have hself : ScopeAt tree place := hscope.mpr hkind
        rw [if_pos hkind, List.head?_cons, Option.some.injEq, scopeOf_eq_handler_iff,
          houtermost, ← handlerAt_iff hparent]
        simp [hself, scopeOf_ne_module]
      · have hself : ¬ScopeAt tree place := fun hself => hkind (hscope.mp hself)
        rw [if_neg hkind, houtermost, hinHandler]
        simp [hself]

end Scopes

section Findings

/-- Whether a finding is about the handler of a script. -/
def Finding.concernsHandler : Finding → Bool
  | .handler | .valueReturn => true
  | .violation v => [.returnInSync, .missingHandler, .missingActionReturn].contains v.rule
  | .deprecated _ _ _ => false

/-- Nothing that is found at a call is about the handler. -/
theorem concernsHandler_of_mem_checkCall {e : Expectation} {ancestors : List Kind}
    {call : Tree} {finding : Finding} (hfinding : finding ∈ checkCall e ancestors call) :
    finding.concernsHandler = false := by
  have hcall : ∀ {condition : Bool} {rule : Rule} {message : String},
      [Rule.returnInSync, .missingHandler, .missingActionReturn].contains rule = false →
      finding ∈ (if condition then [violationAt rule message call] else []) →
        finding.concernsHandler = false := by
    intro condition rule message hrule hmem
    cases condition with
    | false => simp at hmem
    | true =>
        cases List.mem_singleton.mp hmem
        exact hrule
  rw [checkCall, List.mem_append] at hfinding
  rcases hfinding with hretries | hmethod
  · exact hcall rfl hretries
  · cases hname : method? call with
    | none => simp [hname] at hmethod
    | some method =>
        simp only [hname, checkMethod, List.mem_append] at hmethod
        rcases hmethod with ((houtdated | hdisallowed) | hunawaited) | hunknown
        · cases hother : replacement? method with
          | none => simp [hother] at houtdated
          | some other =>
              simp only [hother, List.mem_singleton] at houtdated
              rw [houtdated]
              rfl
        · exact hcall rfl hdisallowed
        · exact hcall rfl hunawaited
        · split at hunknown
          · split at hunknown
            · simp at hunknown
            · cases List.mem_singleton.mp hunknown
              rfl
          · simp at hunknown

theorem filter_checkCall (e : Expectation) (ancestors : List Kind) (call : Tree) :
    (checkCall e ancestors call).filter Finding.concernsHandler = [] := by
  rw [List.filter_eq_nil_iff]
  intro finding hfinding
  simp [concernsHandler_of_mem_checkCall hfinding]

/-- What the walk notes of a `return` with a value that belongs to the handler. -/
def returnFinding (e : Expectation) (node : Tree) : Finding :=
  match e.kind with
  | .action => .valueReturn
  | .sync =>
    violationAt .returnInSync
      ("Return statements with a value are not allowed in a sync script (" ++
        handlerName e.kind ++ "); save records with nango.batch_save instead.") node

theorem concernsHandler_returnFinding (e : Expectation) (node : Tree) :
    (returnFinding e node).concernsHandler = true := by
  rw [returnFinding]
  cases e.kind <;> rfl

theorem returnsValue_iff {node : Tree} : returnsValue node = true ↔ GivesValue node := by
  rw [returnsValue, GivesValue]
  cases node.children.filter (!isNote ·) with
  | nil => simp
  | cons value rest => simp

theorem checkReturn_eq (e : Expectation) (scope : Scope) (node : Tree) :
    checkReturn e scope node =
      if scope = .handler ∧ returnsValue node = true then [returnFinding e node] else [] := by
  rw [checkReturn, returnFinding]
  simp only [Bool.and_eq_true, beq_iff_eq]
  congr 1
  cases e.kind <;> rfl

variable {e : Expectation} {tree node : Tree} {place : List Nat}

/-- A node enters the scope of the handler exactly when it is the handler. -/
theorem enters_handler_iff (hnode : tree.at? place = some node) :
    (isScope node.kind && (enter e (scopesAt e tree place) node.kind).head? == some .handler) =
        true ↔ HandlerAt e tree place := by
  rw [handlerAt_iff hnode, ← (scopesAt_iff e hnode).1, ← scopeOf_eq_handler_iff]
  by_cases hkind : isScope node.kind = true
  · simp [enter, hkind]
  · have hother : ∀ isAsync name, node.kind ≠ .functionDefinition isAsync name := by
      intro isAsync name hfunction
      rw [hfunction] at hkind
      exact hkind rfl
    simp [hkind, scopeOf_eq_handler_iff, hother]

theorem headD_scopesAt_iff (hnode : tree.at? place = some node) :
    (scopesAt e tree place).headD .module = .handler ↔ InHandler e tree place := by
  rw [← (scopesAt_iff e hnode).2, List.headD_eq_head?_getD]
  cases (scopesAt e tree place).head? <;> simp

theorem valueReturnAt_iff (hnode : tree.at? place = some node) :
    ValueReturnAt e tree place ↔ node.kind = .returnStatement ∧
      InHandler e tree place ∧ returnsValue node = true := by
  constructor
  · rintro ⟨⟨other, hother, hkind, hgives⟩, hin⟩
    cases hnode.symm.trans hother
    exact ⟨hkind, hin, returnsValue_iff.mpr hgives⟩
  · rintro ⟨hkind, hin, hgives⟩
    exact ⟨⟨node, hnode, hkind, returnsValue_iff.mp hgives⟩, hin⟩

open Classical in
/-- What is found about the handler at a place. -/
theorem filter_findingsAt (hnode : tree.at? place = some node) :
    (findingsAt e [.module] [] tree place).filter Finding.concernsHandler =
      (if HandlerAt e tree place then [.handler] else []) ++
        if ValueReturnAt e tree place then [returnFinding e node] else [] := by
  rw [findingsAt, hnode]
  dsimp only
  rw [checkNode, List.filter_append, ← scopesAt]
  congr 1
  · by_cases hhandler : HandlerAt e tree place
    · rw [if_pos ((enters_handler_iff hnode).mpr hhandler), if_pos hhandler]
      rfl
    · rw [if_neg (mt (enters_handler_iff hnode).mp hhandler), if_neg hhandler]
      rfl
  · rw [valueReturnAt_iff hnode]
    split
    · next hkind => simp [filter_checkCall, hkind]
    · next hkind =>
      rw [hkind, enter, if_neg (by simp [isScope]), checkReturn_eq]
      by_cases hvalue : InHandler e tree place ∧ returnsValue node = true
      · rw [if_pos ⟨(headD_scopesAt_iff hnode).mpr hvalue.1, hvalue.2⟩, if_pos ⟨rfl, hvalue⟩]
        exact List.filter_cons_of_pos (concernsHandler_returnFinding e node)
      · rw [if_neg (fun hboth => hvalue ⟨(headD_scopesAt_iff hnode).mp hboth.1, hboth.2⟩),
          if_neg (fun hall => hvalue hall.2)]
        rfl
    · next hkind => rw [if_neg (fun hall => hkind hall.1), List.filter_nil]

/-- Whatever the walk finds about the handler, it finds at the handlers and at
the `return`s with a value that belong to them. -/
theorem mem_walk_iff {finding : Finding} (hconcerns : finding.concernsHandler = true) :
    finding ∈ walk e [.module] [] tree ↔
      (∃ place, HandlerAt e tree place ∧ finding = .handler) ∨
        ∃ place node, tree.at? place = some node ∧ ValueReturnAt e tree place ∧
          finding = returnFinding e node := by
  classical
  have hat : ∀ {place node}, tree.at? place = some node →
      (finding ∈ findingsAt e [.module] [] tree place ↔
        (HandlerAt e tree place ∧ finding = .handler) ∨
          (ValueReturnAt e tree place ∧ finding = returnFinding e node)) := by
    intro place node hnode
    have hmem : finding ∈ findingsAt e [.module] [] tree place ↔
        finding ∈ (findingsAt e [.module] [] tree place).filter Finding.concernsHandler := by
      rw [List.mem_filter, and_iff_left hconcerns]
    rw [hmem, filter_findingsAt hnode, List.mem_append]
    simp only [List.mem_ite_nil_right, List.mem_singleton]
  rw [walk_eq_flatMap, List.mem_flatMap]
  constructor
  · rintro ⟨place, hplace, hfinding⟩
    obtain ⟨node, hnode⟩ := Tree.mem_places_iff.mp hplace
    rcases (hat hnode).mp hfinding with hhandler | hreturn
    · exact Or.inl ⟨place, hhandler⟩
    · exact Or.inr ⟨place, node, hnode, hreturn⟩
  · rintro (⟨place, hhandler⟩ | ⟨place, node, hnode, hreturn⟩)
    · obtain ⟨node, -, hnode, -⟩ := hhandler.1.named
      exact ⟨place, Tree.mem_places_iff.mpr ⟨node, hnode⟩, (hat hnode).mpr (Or.inl hhandler)⟩
    · exact ⟨place, Tree.mem_places_iff.mpr ⟨node, hnode⟩, (hat hnode).mpr (Or.inr hreturn)⟩

theorem handler_mem_walk_iff :
    .handler ∈ walk e [.module] [] tree ↔ ∃ place, HandlerAt e tree place := by
  have hother : ∀ node, Finding.handler ≠ returnFinding e node := by
    intro node
    rw [returnFinding]
    cases e.kind <;> simp [violationAt]
  rw [mem_walk_iff rfl]
  simp [hother]

theorem valueReturn_mem_walk_iff (haction : e.kind = .action) :
    .valueReturn ∈ walk e [.module] [] tree ↔ ∃ place, ValueReturnAt e tree place := by
  have hself : ∀ node, Finding.valueReturn = returnFinding e node := by
    intro node
    rw [returnFinding, haction]
  rw [mem_walk_iff rfl]
  constructor
  · rintro (⟨place, -, hhandler⟩ | ⟨place, node, -, hreturn, -⟩)
    · simp at hhandler
    · exact ⟨place, hreturn⟩
  · rintro ⟨place, hreturn⟩
    obtain ⟨node, hnode, -⟩ := hreturn.statement
    exact Or.inr ⟨place, node, hnode, hreturn, hself node⟩

theorem rule_of_mem_walk {v : Violation} (hv : .violation v ∈ walk e [.module] [] tree) :
    v.rule ≠ .missingHandler ∧ v.rule ≠ .missingActionReturn := by
  by_cases hconcerns : (Finding.violation v).concernsHandler = true
  · have hreturn : v.rule = .returnInSync := by
      rcases (mem_walk_iff hconcerns).mp hv with ⟨_, _, heq⟩ | ⟨_, node, _, _, heq⟩
      · simp at heq
      · rw [returnFinding] at heq
        cases hkind : e.kind with
        | action => simp [hkind] at heq
        | sync =>
            simp only [hkind, violationAt, Finding.violation.injEq] at heq
            rw [heq]
    simp [hreturn]
  · simp only [Finding.concernsHandler, List.contains_iff_mem, List.mem_cons, not_or] at hconcerns
    exact ⟨hconcerns.2.1, hconcerns.2.2.1⟩

/-- Only findings about the handler can be `return`s that break a rule. -/
theorem filter_returnInSync (findings : List Finding) :
    (findings.filterMap Finding.violation?).filter (·.rule == .returnInSync) =
      ((findings.filter Finding.concernsHandler).filterMap Finding.violation?).filter
        (·.rule == .returnInSync) := by
  induction findings with
  | nil => rfl
  | cons finding findings ih =>
      cases finding with
      | handler => exact ih
      | valueReturn => exact ih
      | deprecated line method replacement => exact ih
      | violation v =>
          have hself : (Finding.violation v).violation? = some v := rfl
          by_cases hconcerns : (Finding.violation v).concernsHandler = true
          · rw [List.filter_cons_of_pos hconcerns, List.filterMap_cons_some hself,
              List.filterMap_cons_some hself, List.filter_cons, List.filter_cons, ih]
          · have hrule : ¬(v.rule == .returnInSync) = true := by
              simp only [Finding.concernsHandler, List.contains_iff_mem, List.mem_cons,
                not_or] at hconcerns
              simp [hconcerns.1]
            rw [List.filter_cons_of_neg hconcerns, List.filterMap_cons_some hself,
              List.filter_cons, if_neg hrule, ih]

/-- At a place the walk reports the `return` that breaks the rule, and no other. -/
theorem filter_violations_findingsAt (hnode : tree.at? place = some node) :
    (e.kind = .sync ∧ ValueReturnAt e tree place →
      ∃ v, ((findingsAt e [.module] [] tree place).filterMap Finding.violation?).filter
          (·.rule == .returnInSync) = [v] ∧ v.place = .point node.start) ∧
    (¬(e.kind = .sync ∧ ValueReturnAt e tree place) →
      ((findingsAt e [.module] [] tree place).filterMap Finding.violation?).filter
        (·.rule == .returnInSync) = []) := by
  classical
  have hhandler : (if HandlerAt e tree place then [Finding.handler] else []).filterMap
      Finding.violation? = [] := by
    split <;> rfl
  rw [filter_returnInSync, filter_findingsAt hnode, List.filterMap_append, hhandler,
    List.nil_append]
  constructor
  · rintro ⟨hsync, hreturn⟩
    rw [if_pos hreturn, returnFinding, hsync]
    exact ⟨_, rfl, rfl⟩
  · intro hnot
    by_cases hreturn : ValueReturnAt e tree place
    · cases hkind : e.kind with
      | sync => exact absurd ⟨hkind, hreturn⟩ hnot
      | action =>
          rw [if_pos hreturn, returnFinding, hkind]
          rfl
    · rw [if_neg hreturn]
      rfl

end Findings

theorem forall₂_filter_flatMap {α β : Type} {condition : α → Prop}
    [DecidablePred condition] {related : α → β → Prop} {items : List α}
    {results : α → List β}
    (hone : ∀ item ∈ items, condition item →
      ∃ result, results item = [result] ∧ related item result)
    (hnone : ∀ item ∈ items, ¬condition item → results item = []) :
    List.Forall₂ related (items.filter (condition ·)) (items.flatMap results) := by
  induction items with
  | nil => exact .nil
  | cons item items ih =>
      have hrest := ih (fun other hother => hone other (List.mem_cons_of_mem _ hother))
        (fun other hother => hnone other (List.mem_cons_of_mem _ hother))
      by_cases hitem : condition item
      · obtain ⟨result, hresult, hrelated⟩ := hone item List.mem_cons_self hitem
        rw [List.filter_cons_of_pos (by simpa using hitem), List.flatMap_cons, hresult]
        exact .cons hrelated hrest
      · rw [List.filter_cons_of_neg (by simpa using hitem), List.flatMap_cons,
          hnone item List.mem_cons_self hitem]
        exact hrest

section Whole

variable {e : Expectation} {requireHandler : Bool} {root : Script.Position} {tree : Tree}

/-- The whole of a script breaks no rule about single nodes. -/
theorem filter_checkWhole (findings : List Finding) :
    (checkWhole e requireHandler root findings).filter (·.rule == .returnInSync) = [] := by
  fun_cases checkWhole e requireHandler root findings <;> rfl

/-- A rule about the whole is broken only by the whole. -/
theorem exists_violation_iff {rule : Rule}
    (hrule : rule = .missingHandler ∨ rule = .missingActionReturn) :
    (∃ v ∈ (checkTree e requireHandler root tree).violations, v.rule = rule) ↔
      ∃ v ∈ checkWhole e requireHandler root (walk e [.module] [] tree), v.rule = rule := by
  rw [violations_checkTree]
  constructor
  · rintro ⟨v, hv, rfl⟩
    rcases List.mem_append.mp hv with hwalk | hwhole
    · obtain ⟨finding, hfinding, hself⟩ := List.mem_filterMap.mp hwalk
      cases finding with
      | violation other =>
          cases hself
          obtain ⟨hhandler, hreturn⟩ := rule_of_mem_walk hfinding
          rcases hrule with hrule | hrule
          · exact absurd hrule hhandler
          · exact absurd hrule hreturn
      | handler => simp [Finding.violation?] at hself
      | valueReturn => simp [Finding.violation?] at hself
      | deprecated line method other => simp [Finding.violation?] at hself
    · exact ⟨v, hwhole, rfl⟩
  · rintro ⟨v, hv, hrule⟩
    exact ⟨v, List.mem_append_right _ hv, hrule⟩

theorem missingHandler_iff :
    (∃ v ∈ (checkTree e requireHandler root tree).violations, v.rule = .missingHandler) ↔
      requireHandler = true ∧ ¬∃ place, HandlerAt e tree place := by
  rw [exists_violation_iff (Or.inl rfl), ← handler_mem_walk_iff]
  fun_cases checkWhole e requireHandler root (walk e [.module] [] tree) <;> simp_all

theorem missingActionReturn_iff :
    (∃ v ∈ (checkTree e requireHandler root tree).violations,
        v.rule = .missingActionReturn) ↔
      e.kind = .action ∧ e.models ≠ [] ∧ (∃ place, HandlerAt e tree place) ∧
        ¬∃ place, ValueReturnAt e tree place := by
  rw [exists_violation_iff (Or.inr rfl), ← handler_mem_walk_iff]
  by_cases haction : e.kind = .action
  · rw [← valueReturn_mem_walk_iff haction]
    fun_cases checkWhole e requireHandler root (walk e [.module] [] tree) <;> simp_all
  · fun_cases checkWhole e requireHandler root (walk e [.module] [] tree) <;> simp_all

end Whole

/-- A `return` breaks a rule exactly when it is a `return` of a sync that gives a
value and belongs to the handler: each of them is reported once, in the order of
the text.  A handler is missing exactly when none stands in the script, and the
value of an action exactly when there is a handler but no `return` of it gives
one. -/
theorem handlerViolations_iff (e : Expectation) (requireHandler : Bool) (root : Script.Position)
    (tree : Tree) :
    (∃ places : List (List Nat), places.Pairwise (· < ·) ∧
      (∀ place, place ∈ places ↔ e.kind = .sync ∧ ValueReturnAt e tree place) ∧
      List.Forall₂ (fun place v => ∃ node, tree.at? place = some node ∧
          v.place = .point node.start) places
        ((checkTree e requireHandler root tree).violations.filter
          (·.rule == .returnInSync))) ∧
    ((∃ v ∈ (checkTree e requireHandler root tree).violations, v.rule = .missingHandler) ↔
      requireHandler = true ∧ ¬∃ place, HandlerAt e tree place) ∧
    ((∃ v ∈ (checkTree e requireHandler root tree).violations,
        v.rule = .missingActionReturn) ↔
      e.kind = .action ∧ e.models ≠ [] ∧ (∃ place, HandlerAt e tree place) ∧
        ¬∃ place, ValueReturnAt e tree place) := by
  classical
  refine ⟨⟨tree.places.filter (e.kind = .sync ∧ ValueReturnAt e tree ·), ?_, ?_, ?_⟩,
    missingHandler_iff, missingActionReturn_iff⟩
  · exact (Tree.pairwise_places tree).filter _
  · intro place
    rw [List.mem_filter, decide_eq_true_iff, and_iff_right_iff_imp]
    rintro ⟨-, hreturn⟩
    obtain ⟨node, hnode, -⟩ := hreturn.statement
    exact Tree.mem_places_iff.mpr ⟨node, hnode⟩
  · rw [violations_checkTree, List.filter_append, filter_checkWhole, List.append_nil,
      walk_eq_flatMap, List.filterMap_flatMap, List.filter_flatMap]
    apply forall₂_filter_flatMap
    · intro place hplace hreturn
      obtain ⟨node, hnode⟩ := Tree.mem_places_iff.mp hplace
      obtain ⟨v, hv, hat⟩ := (filter_violations_findingsAt hnode).1 hreturn
      exact ⟨v, hv, node, hnode, hat⟩
    · intro place hplace hreturn
      obtain ⟨node, hnode⟩ := Tree.mem_places_iff.mp hplace
      exact (filter_violations_findingsAt hnode).2 hreturn

end IntegrationBuild.Usage
