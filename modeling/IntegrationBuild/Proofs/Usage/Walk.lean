import IntegrationBuild.Proofs.Script.Place
import IntegrationBuild.Usage.Analysis

/-!
The walk over a script, place by place.  What is found at a node depends on the
scopes and the nodes above it, and both can be read off its place; the walk
lists what is found at each place, in the order of the places.
-/

namespace IntegrationBuild.Usage

open Script (Kind Tree)

/-- The violation that a finding is, if it is one. -/
def Finding.violation? : Finding → Option Violation
  | .violation v => some v
  | _ => none

/-- The violations of a tree are those of the walk and those of the whole. -/
theorem violations_checkTree (e : Expectation) (requireHandler : Bool)
    (root : Script.Position) (tree : Tree) :
    (checkTree e requireHandler root tree).violations =
      (walk e [.module] [] tree).filterMap Finding.violation? ++
        checkWhole e requireHandler root (walk e [.module] [] tree) :=
  rfl

/-- The scopes below some nodes, the nearest first, when those above are given. -/
def scopesBelow (e : Expectation) (scopes : List Scope) (kinds : List Kind) : List Scope :=
  kinds.foldr (fun kind inner => enter e inner kind) scopes

theorem scopesBelow_concat (e : Expectation) (scopes : List Scope) (kinds : List Kind)
    (kind : Kind) :
    scopesBelow e scopes (kinds ++ [kind]) = scopesBelow e (enter e scopes kind) kinds := by
  rw [scopesBelow, List.foldr_append]
  rfl

/-- What is found at a place of a tree below the given scopes and nodes. -/
def findingsAt (e : Expectation) (scopes : List Scope) (ancestors : List Kind) (tree : Tree)
    (place : List Nat) : List Finding :=
  match tree.at? place with
  | some node =>
    checkNode e (enter e (scopesBelow e scopes (tree.kindsAbove place)) node.kind)
      (tree.kindsAbove place ++ ancestors) node
  | none => []

theorem findingsAt_cons {e : Expectation} {scopes : List Scope} {ancestors : List Kind}
    {tree child : Tree} {i : Nat} (hchild : tree.children[i]? = some child)
    (place : List Nat) :
    findingsAt e scopes ancestors tree (i :: place) =
      findingsAt e (enter e scopes tree.kind) (tree.kind :: ancestors) child place := by
  rw [findingsAt, findingsAt, Tree.at?, hchild, Tree.kindsAbove_cons hchild,
    scopesBelow_concat, List.append_assoc, List.singleton_append]
  rfl

theorem walkAll_eq_flatMap {e : Expectation} {scopes : List Scope} {ancestors : List Kind}
    {trees : List Tree} {i : Nat} {found : List Nat → List Finding}
    (hfound : ∀ j child, trees[j]? = some child →
      walk e scopes ancestors child =
        child.places.flatMap fun place => found ((i + j) :: place)) :
    walkAll e scopes ancestors trees = (Tree.placesFrom i trees).flatMap found := by
  induction trees generalizing i with
  | nil => rfl
  | cons tree trees ih =>
      rw [walkAll, Tree.placesFrom, List.flatMap_append, List.flatMap_map]
      congr 1
      · exact hfound 0 tree rfl
      · apply ih
        intro j child hchild
        rw [Nat.add_right_comm, Nat.add_assoc]
        exact hfound (j + 1) child (by rw [List.getElem?_cons_succ, hchild])

/-- The walk lists what is found at each place, in the order of the places. -/
theorem walk_eq_flatMap (e : Expectation) (scopes : List Scope) (ancestors : List Kind)
    (tree : Tree) :
    walk e scopes ancestors tree =
      tree.places.flatMap (findingsAt e scopes ancestors tree) := by
  induction tree using Tree.induction_on_children generalizing scopes ancestors with
  | node kind span children ih =>
      rw [walk, Tree.places, List.flatMap_cons]
      congr 1
      apply walkAll_eq_flatMap
      intro j child hchild
      have hbelow : (Script.Tree.node kind span children).children[j]? = some child := hchild
      rw [ih child (List.mem_of_getElem? hchild), Nat.zero_add]
      congr 1
      funext place
      rw [findingsAt_cons hbelow]
      rfl

end IntegrationBuild.Usage
