import Mathlib.Data.List.Flatten
import IntegrationBuild.Proofs.Script.Tree

/-!
The list of a tree's imports.  It holds one entry for each alias of an import
statement and one for each import from a module, wherever they stand in the
tree.  The list goes by lines, and within a line by the order in which the search
comes to the nodes.
-/

namespace IntegrationBuild.Script

variable {tree : Tree}

/-- What the import statements anywhere in a tree name: for each alias, the line
of its statement and the module. -/
def aliases (tree : Tree) : List (Nat × String) :=
  tree.preorder.flatMap fun node =>
    match node.kind with
    | .importStatement names => names.map fun imported => (node.start.line, imported.name)
    | _ => []

/-- The imports from modules anywhere in a tree: the line, the number of dots, the
module and the names. -/
def fromImports (tree : Tree) : List (Nat × Nat × String × List String) :=
  tree.preorder.flatMap fun node =>
    match node.kind with
    | .importFrom level source names =>
      [(node.start.line, level, source, names.map ImportedName.name)]
    | _ => []

/-- The import of a module by an alias. -/
def aliasRef : Nat × String → ImportRef
  | (line, source) => { line := line, source := source }

/-- The import from a module. -/
def fromRef : Nat × Nat × String × List String → ImportRef
  | (line, level, source, names) =>
    { line := line, source := source, names := names, level := level }

/-- Whatever is imported is an alias or comes from a module. -/
theorem perm_flatMap_importsAt (tree : Tree) :
    (tree.preorder.flatMap importsAt).Perm
      ((aliases tree).map aliasRef ++ (fromImports tree).map fromRef) := by
  rw [aliases, fromImports, List.map_flatMap, List.map_flatMap]
  apply List.Perm.trans _ (List.flatMap_append_perm _ _ _).symm
  apply List.Perm.flatMap_left
  intro node _
  rw [importsAt]
  cases node.kind <;> simp [aliasRef, fromRef, Function.comp_def]

theorem line_of_mem_importsAt {node : Tree} {ref : ImportRef} (href : ref ∈ importsAt node) :
    ref.line = node.start.line := by
  rw [importsAt] at href
  split at href
  · obtain ⟨imported, -, rfl⟩ := List.mem_map.mp href
    rfl
  · rw [List.mem_singleton.mp href]
  · simp at href

section Sorted

variable {refs kept : List ImportRef}

theorem line_trans (a b c : ImportRef) (hab : decide (a.line ≤ b.line) = true)
    (hbc : decide (b.line ≤ c.line) = true) : decide (a.line ≤ c.line) = true := by
  simp only [decide_eq_true_eq] at hab hbc ⊢
  exact Nat.le_trans hab hbc

theorem line_total (a b : ImportRef) :
    (decide (a.line ≤ b.line) || decide (b.line ≤ a.line)) = true := by
  simp only [Bool.or_eq_true, decide_eq_true_eq]
  exact Nat.le_total a.line b.line

theorem pairwise_imports (tree : Tree) :
    (imports tree).Pairwise fun a b => a.line ≤ b.line :=
  (List.pairwise_mergeSort line_trans line_total _).imp of_decide_eq_true

/-- Imports of one line stay in their order when the list is sorted. -/
theorem sublist_mergeSort_of_line {line : Nat} (hline : ∀ ref ∈ kept, ref.line = line)
    (hkept : kept.Sublist refs) :
    kept.Sublist (refs.mergeSort fun a b => a.line ≤ b.line) := by
  apply List.sublist_mergeSort line_trans line_total _ hkept
  apply List.pairwise_of_forall_mem_list
  intro a ha b hb
  simp [hline a ha, hline b hb]

/-- Sorting changes nothing about the imports of one line. -/
theorem filter_mergeSort_line (refs : List ImportRef) (line : Nat) :
    (refs.mergeSort fun a b => a.line ≤ b.line).filter (·.line == line) =
      refs.filter (·.line == line) := by
  have hline : ∀ ref ∈ refs.filter (·.line == line), ref.line = line := by
    intro ref href
    simpa using (List.mem_filter.mp href).2
  have hsublist := (sublist_mergeSort_of_line hline List.filter_sublist).filter (·.line == line)
  rw [List.filter_filter] at hsublist
  simp only [Bool.and_self] at hsublist
  apply (hsublist.eq_of_length ?_).symm
  exact ((List.mergeSort_perm refs _).filter _).length_eq.symm

end Sorted

/-- The aliases of a statement come in their own order. -/
theorem sublist_imports {node : Tree} (hnode : node ∈ tree.preorder)
    {names : List ImportedName} (hkind : node.kind = .importStatement names) :
    (names.map fun imported => aliasRef (node.start.line, imported.name)).Sublist
      (imports tree) := by
  have hat : importsAt node =
      names.map fun imported => aliasRef (node.start.line, imported.name) := by
    rw [importsAt, hkind]
    rfl
  have hmet : [node].Sublist tree.breadthFirst :=
    List.singleton_sublist.mpr (tree.perm_breadthFirst.mem_iff.mpr hnode)
  have hlisted := hmet.flatMap importsAt
  rw [List.flatMap_singleton] at hlisted
  rw [← hat]
  exact sublist_mergeSort_of_line (fun _ href => line_of_mem_importsAt href) hlisted

/-- The imports of a script's tree: one for each alias of an import statement and
one for each import from a module, by lines; those of one line in the order of
the queue, and the aliases of one statement in their own order. -/
theorem imports_perm_and_pairwise_and_filter_eq (tree : Tree) :
    (∀ content, (Text.decodeText? content).bind strictTree? = some tree →
        importsOf content = imports tree) ∧
      (imports tree).Perm ((aliases tree).map aliasRef ++ (fromImports tree).map fromRef) ∧
      (imports tree).Pairwise (fun a b => a.line ≤ b.line) ∧
      (∀ line, (imports tree).filter (·.line == line) =
        ((Tree.queueOrder [tree]).flatMap importsAt).filter (·.line == line)) ∧
      ∀ node ∈ tree.preorder, ∀ names, node.kind = .importStatement names →
        (names.map fun imported => aliasRef (node.start.line, imported.name)).Sublist
          (imports tree) := by
  have hqueue := tree.breadthFirst_eq_queueOrder
  refine ⟨fun content hcontent => ?_, ?_, ?_, fun line => ?_, fun node hnode names hkind => ?_⟩
  · rw [importsOf, hcontent]
  · apply (List.mergeSort_perm _ _).trans
    exact (tree.perm_breadthFirst.flatMap_right importsAt).trans (perm_flatMap_importsAt tree)
  · exact pairwise_imports tree
  · rw [imports, filter_mergeSort_line, hqueue]
  · exact sublist_imports hnode hkind

/-- A script with imports at the top, in a function and behind that function. -/
def nestedScript : ByteArray :=
  ("import os, re\n\n\ndef load():\n    import b, a; from . import c\n\n\n" ++
    "from json import loads\n").toUTF8

/-- The imports of that script in the order of the search, which comes to the last
statement before the body of the function. -/
def nestedRefs : List ImportRef :=
  [{ line := 1, source := "os" }, { line := 1, source := "re" },
    { line := 8, source := "json", names := ["loads"] },
    { line := 5, source := "b" }, { line := 5, source := "a" },
    { line := 5, source := "", names := ["c"], level := 1 }]

/-- The lines put the imports of the function back before the last one, and in
their own order. -/
theorem imports_perm_and_pairwise_and_filter_eq_nested :
    ∃ tree, (Text.decodeText? nestedScript).bind strictTree? = some tree ∧
      importsOf nestedScript = imports tree ∧
      (Tree.queueOrder [tree]).flatMap importsAt = nestedRefs ∧
      (imports tree).Pairwise (fun a b => a.line ≤ b.line) ∧
      (imports tree).filter (·.line == 5) = nestedRefs.drop 3 ∧
      ∃ node ∈ tree.preorder, node.kind = .importStatement [⟨"b", none⟩, ⟨"a", none⟩] ∧
        [aliasRef (node.start.line, "b"), aliasRef (node.start.line, "a")].Sublist
          (imports tree) := by
  have hread : ((Text.decodeText? nestedScript).bind strictTree?).any (fun tree =>
      (tree.breadthFirst.flatMap importsAt == nestedRefs) &&
        tree.preorder.any (·.kind == .importStatement [⟨"b", none⟩, ⟨"a", none⟩])) = true := by
    decide +kernel
  obtain ⟨tree, htree, hfacts⟩ := (Option.any_eq_true _ _).mp hread
  obtain ⟨hrefs, hany⟩ := Bool.and_eq_true_iff.mp hfacts
  obtain ⟨node, hnode, hkind⟩ := List.any_eq_true.mp hany
  have hkind := beq_iff_eq.mp hkind
  have hqueue : (Tree.queueOrder [tree]).flatMap importsAt = nestedRefs := by
    rw [← tree.breadthFirst_eq_queueOrder]
    exact beq_iff_eq.mp hrefs
  obtain ⟨hcontent, -, hsorted, hfilter, haliases⟩ :=
    imports_perm_and_pairwise_and_filter_eq tree
  refine ⟨tree, htree, hcontent _ htree, hqueue, hsorted, ?_, node, hnode, hkind,
    haliases node hnode _ hkind⟩
  rw [hfilter, hqueue]
  rfl

end IntegrationBuild.Script
