import Mathlib.Data.List.Perm.Basic
import IntegrationBuild.Import.Reference

/-!
The nodes of a tree.  The search level by level meets them in the order of a
queue in which the children of a node line up behind it.  Each node is met
once, so no import anywhere in a script is missed or listed twice.
-/

namespace IntegrationBuild.Script

namespace Tree

theorem preorder_eq (tree : Tree) :
    tree.preorder = tree :: preorderAll tree.children := by
  cases tree with
  | node kind span children => rw [preorder, Tree.children]

theorem depth_eq (tree : Tree) : tree.depth = depthAll tree.children + 1 := by
  cases tree with
  | node kind span children => rw [depth, Tree.children]

theorem size_eq (tree : Tree) : tree.size = sizeAll tree.children + 1 := by
  cases tree with
  | node kind span children => rw [size, Tree.children]

theorem sizeAll_append (trees others : List Tree) :
    sizeAll (trees ++ others) = sizeAll trees + sizeAll others := by
  induction trees with
  | nil => simp [sizeAll]
  | cons tree rest ih => simp [sizeAll, ih, Nat.add_assoc]

theorem preorderAll_append (trees others : List Tree) :
    preorderAll (trees ++ others) = preorderAll trees ++ preorderAll others := by
  induction trees with
  | nil => simp [preorderAll]
  | cons tree rest ih => simp [preorderAll, ih]

theorem depthAll_le_iff {trees : List Tree} {bound : Nat} :
    depthAll trees ≤ bound ↔ ∀ tree ∈ trees, tree.depth ≤ bound := by
  induction trees with
  | nil => simp [depthAll]
  | cons tree rest ih => rw [depthAll, Nat.max_le, ih, List.forall_mem_cons]

/-- One level down, the depth is less by one. -/
theorem depthAll_flatMap_children_le {trees : List Tree} {bound : Nat}
    (hbound : depthAll trees ≤ bound + 1) : depthAll (trees.flatMap children) ≤ bound := by
  apply depthAll_le_iff.mpr
  intro tree htree
  obtain ⟨parent, hparent, hchild⟩ := List.mem_flatMap.mp htree
  have hdepth := depthAll_le_iff.mp hbound parent hparent
  rw [depth_eq] at hdepth
  exact depthAll_le_iff.mp (Nat.le_of_succ_le_succ hdepth) tree hchild

/-- The nodes in the order of a queue: the tree in front leaves it, and the
children of that tree join it at the end. -/
def queueOrder : List Tree → List Tree
  | [] => []
  | tree :: rest => tree :: queueOrder (rest ++ tree.children)
termination_by trees => sizeAll trees
decreasing_by
  rw [sizeAll_append, sizeAll, size_eq]
  omega

theorem queueOrder_nil : queueOrder [] = [] := by
  rw [queueOrder]

theorem queueOrder_cons (tree : Tree) (rest : List Tree) :
    queueOrder (tree :: rest) = tree :: queueOrder (rest ++ tree.children) := by
  rw [queueOrder]

/-- The trees in front of the queue leave it before all that join it. -/
theorem queueOrder_append (trees others : List Tree) :
    queueOrder (trees ++ others) = trees ++ queueOrder (others ++ trees.flatMap children) := by
  induction trees generalizing others with
  | nil => simp
  | cons tree rest ih =>
      rw [List.cons_append, queueOrder_cons, List.append_assoc, ih]
      simp

/-- Each node leaves the queue once. -/
theorem perm_queueOrder (trees : List Tree) : (queueOrder trees).Perm (preorderAll trees) := by
  fun_induction queueOrder trees with
  | case1 => simp [preorderAll]
  | case2 tree rest ih =>
      rw [preorderAll_append] at ih
      rw [preorderAll, preorder_eq]
      exact (ih.trans List.perm_append_comm).cons tree

/-- The search that goes deep enough meets the nodes in the order of the queue. -/
theorem levels_eq_queueOrder {bound : Nat} {trees : List Tree}
    (hbound : depthAll trees ≤ bound) : levels bound trees = queueOrder trees := by
  induction bound generalizing trees with
  | zero =>
      cases trees with
      | nil => rw [levels, queueOrder_nil]
      | cons tree rest =>
          have hdepth := depthAll_le_iff.mp hbound tree List.mem_cons_self
          rw [depth_eq] at hdepth
          omega
  | succ bound ih =>
      have hlevels : levels (bound + 1) trees = trees ++ levels bound (trees.flatMap children) := by
        cases trees with
        | nil => cases bound <;> rfl
        | cons tree rest => rfl
      rw [hlevels, ih (depthAll_flatMap_children_le hbound)]
      have hqueue := queueOrder_append trees []
      rw [List.append_nil, List.nil_append] at hqueue
      exact hqueue.symm

theorem breadthFirst_eq_queueOrder (tree : Tree) : tree.breadthFirst = queueOrder [tree] := by
  apply levels_eq_queueOrder
  simp [depthAll]

/-- The search level by level meets every node once. -/
theorem perm_breadthFirst (tree : Tree) : tree.breadthFirst.Perm tree.preorder := by
  have hperm := perm_queueOrder [tree]
  rwa [preorderAll, preorderAll, List.append_nil, ← breadthFirst_eq_queueOrder] at hperm

end Tree

/-- What a node imports, the tree imports. -/
theorem mem_imports {node tree : Tree} (hnode : node ∈ tree.preorder) {ref : ImportRef}
    (href : ref ∈ importsAt node) : ref ∈ imports tree := by
  rw [imports, List.mem_mergeSort]
  exact List.mem_flatMap.mpr ⟨node, tree.perm_breadthFirst.mem_iff.mpr hnode, href⟩

end IntegrationBuild.Script
