import Mathlib.Data.List.Basic
import IntegrationBuild.Script.Tree

/-!
Places in a tree.  A place is the way from the root to a node, the number of a
child for every step.  One place lies above another when its way is the first
part of the other, and the order of the text is the lexicographic order of the
places.
-/

namespace IntegrationBuild.Script

/-- One place lies above another: its way is a proper first part of the other. -/
def IsAbove (upper lower : List Nat) : Prop :=
  upper <+: lower ∧ upper ≠ lower

theorem not_isAbove_nil (upper : List Nat) : ¬IsAbove upper [] := by
  rintro ⟨hupper, hne⟩
  exact hne (List.prefix_nil.mp hupper)

theorem isAbove_concat_iff {upper place : List Nat} {i : Nat} :
    IsAbove upper (place ++ [i]) ↔ upper = place ∨ IsAbove upper place := by
  constructor
  · rintro ⟨hupper, hne⟩
    rcases List.prefix_concat_iff.mp hupper with heq | hupper
    · exact absurd heq hne
    · by_cases hplace : upper = place
      · exact Or.inl hplace
      · exact Or.inr ⟨hupper, hplace⟩
  · intro habove
    have hupper : upper <+: place := by
      rcases habove with rfl | habove
      · exact List.prefix_rfl
      · exact habove.1
    refine ⟨hupper.trans (List.prefix_append _ _), ?_⟩
    rintro rfl
    have hlength := hupper.length_le
    rw [List.length_append, List.length_singleton] at hlength
    omega

namespace Tree

/-- What holds of a node whenever it holds of its children holds of every tree. -/
@[elab_as_elim]
theorem induction_on_children {motive : Tree → Prop}
    (node : ∀ kind span children, (∀ child ∈ children, motive child) →
      motive (.node kind span children)) (tree : Tree) : motive tree := by
  refine preorder.induct motive (fun trees => ∀ tree ∈ trees, motive tree) node ?_ ?_ tree
  · simp
  · intro tree rest htree hrest
    exact List.forall_mem_cons.mpr ⟨htree, hrest⟩

/-- The node at a place. -/
def at? (tree : Tree) : List Nat → Option Tree
  | [] => some tree
  | i :: place => tree.children[i]?.bind fun child => child.at? place

mutual

/-- The places of a tree, each before those below it. -/
def places : Tree → List (List Nat)
  | node _ _ children => [] :: placesFrom 0 children

/-- The places of some trees, which are children numbered from `i` on. -/
def placesFrom (i : Nat) : List Tree → List (List Nat)
  | [] => []
  | tree :: rest => (places tree).map (i :: ·) ++ placesFrom (i + 1) rest

end

theorem at?_append (tree : Tree) (place rest : List Nat) :
    tree.at? (place ++ rest) = (tree.at? place).bind (·.at? rest) := by
  induction place generalizing tree with
  | nil => rfl
  | cons i place ih =>
      rw [List.cons_append, at?, at?]
      cases tree.children[i]? with
      | none => rfl
      | some child => exact ih child

theorem at?_cons_eq_some_iff {tree node : Tree} {i : Nat} {place : List Nat} :
    tree.at? (i :: place) = some node ↔
      ∃ child, tree.children[i]? = some child ∧ child.at? place = some node := by
  rw [at?, Option.bind_eq_some_iff]

/-- A node that is not the root has a parent. -/
theorem exists_parent_of_at?_concat {tree node : Tree} {place : List Nat} {i : Nat}
    (hnode : tree.at? (place ++ [i]) = some node) :
    ∃ parent, tree.at? place = some parent ∧ parent.children[i]? = some node := by
  rw [at?_append] at hnode
  obtain ⟨parent, hparent, hbelow⟩ := Option.bind_eq_some_iff.mp hnode
  obtain ⟨child, hchild, hself⟩ := at?_cons_eq_some_iff.mp hbelow
  cases hself
  exact ⟨parent, hparent, hchild⟩

/-- The kinds of the nodes above a place, the nearest first. -/
def kindsAbove (tree : Tree) : List Nat → List Kind
  | [] => []
  | i :: place =>
    match tree.children[i]? with
    | some child => child.kindsAbove place ++ [tree.kind]
    | none => []

theorem kindsAbove_cons {tree child : Tree} {i : Nat} (hchild : tree.children[i]? = some child)
    (place : List Nat) :
    tree.kindsAbove (i :: place) = child.kindsAbove place ++ [tree.kind] := by
  rw [kindsAbove, hchild]

/-- One step further down, the parent is the nearest node above. -/
theorem kindsAbove_concat {tree parent node : Tree} {place : List Nat} {i : Nat}
    (hparent : tree.at? place = some parent) (hnode : parent.children[i]? = some node) :
    tree.kindsAbove (place ++ [i]) = parent.kind :: tree.kindsAbove place := by
  induction place generalizing tree with
  | nil =>
      cases hparent
      rw [List.nil_append, kindsAbove_cons hnode]
      rfl
  | cons j place ih =>
      obtain ⟨child, hchild, hbelow⟩ := at?_cons_eq_some_iff.mp hparent
      rw [List.cons_append, kindsAbove_cons hchild, kindsAbove_cons hchild, ih hbelow,
        List.cons_append]

theorem mem_placesFrom_iff {i : Nat} {trees : List Tree} {place : List Nat} :
    place ∈ placesFrom i trees ↔
      ∃ j child rest, trees[j]? = some child ∧ rest ∈ child.places ∧
        place = (i + j) :: rest := by
  induction trees generalizing i with
  | nil => simp [placesFrom]
  | cons tree trees ih =>
      rw [placesFrom, List.mem_append, ih, List.mem_map]
      constructor
      · rintro (⟨rest, hrest, rfl⟩ | ⟨j, child, rest, hchild, hrest, rfl⟩)
        · exact ⟨0, tree, rest, rfl, hrest, rfl⟩
        · refine ⟨j + 1, child, rest, ?_, hrest, ?_⟩
          · rw [List.getElem?_cons_succ, hchild]
          · rw [Nat.add_right_comm, Nat.add_assoc]
      · rintro ⟨j, child, rest, hchild, hrest, rfl⟩
        cases j with
        | zero =>
            rw [List.getElem?_cons_zero] at hchild
            cases hchild
            exact Or.inl ⟨rest, hrest, rfl⟩
        | succ j =>
            rw [List.getElem?_cons_succ] at hchild
            refine Or.inr ⟨j, child, rest, hchild, hrest, ?_⟩
            rw [Nat.add_right_comm, Nat.add_assoc]

/-- The places of a tree are those at which it has a node. -/
theorem mem_places_iff {tree : Tree} {place : List Nat} :
    place ∈ tree.places ↔ ∃ node, tree.at? place = some node := by
  induction tree using induction_on_children generalizing place with
  | node kind span children ih =>
      rw [places, List.mem_cons, mem_placesFrom_iff]
      cases place with
      | nil => simp [at?]
      | cons i place =>
          simp only [reduceCtorEq, false_or, Nat.zero_add, List.cons.injEq,
            at?_cons_eq_some_iff, Tree.children]
          constructor
          · rintro ⟨j, child, rest, hchild, hrest, rfl, rfl⟩
            obtain ⟨node, hnode⟩ := (ih child (List.mem_of_getElem? hchild)).mp hrest
            exact ⟨node, child, hchild, hnode⟩
          · rintro ⟨node, child, hchild, hnode⟩
            exact ⟨i, child, place, hchild,
              (ih child (List.mem_of_getElem? hchild)).mpr ⟨node, hnode⟩, rfl, rfl⟩

theorem pairwise_placesFrom {trees : List Tree}
    (htrees : ∀ tree ∈ trees, tree.places.Pairwise (· < ·)) (i : Nat) :
    (placesFrom i trees).Pairwise (· < ·) := by
  induction trees generalizing i with
  | nil => simp [placesFrom]
  | cons tree trees ih =>
      rw [placesFrom, List.pairwise_append]
      refine ⟨?_, ih (fun other hother => htrees other (List.mem_cons_of_mem _ hother))
        (i + 1), ?_⟩
      · rw [List.pairwise_map]
        apply (htrees tree List.mem_cons_self).imp
        intro first second hlt
        exact List.cons_lt_cons_self.mpr hlt
      · intro first hfirst second hsecond
        obtain ⟨rest, -, rfl⟩ := List.mem_map.mp hfirst
        obtain ⟨j, child, other, -, -, rfl⟩ := mem_placesFrom_iff.mp hsecond
        rw [List.cons_lt_cons_iff]
        left
        omega

/-- The places are listed in the order of the text, each once. -/
theorem pairwise_places (tree : Tree) : tree.places.Pairwise (· < ·) := by
  induction tree using induction_on_children with
  | node kind span children ih =>
      rw [places, List.pairwise_cons]
      refine ⟨?_, pairwise_placesFrom ih 0⟩
      intro place hplace
      obtain ⟨j, child, rest, -, -, rfl⟩ := mem_placesFrom_iff.mp hplace
      exact List.nil_lt_cons _ _

end Tree

end IntegrationBuild.Script
