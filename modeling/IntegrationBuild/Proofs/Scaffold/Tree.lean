import Mathlib
import IntegrationBuild.Proofs.Scaffold.Starter

/-!
The trees of starter scripts.  The tokens of a starter script stand at places
that matter little, so the tree is written over any places.
-/

namespace IntegrationBuild.Scaffold

open Script

/-- Where each token stands, and whether a line break comes before it. -/
abbrev Places := Nat → Span × Bool

/-- The tokens of the given kinds at their places. -/
def placed (places : Places) (kinds : List TokenKind) : List Token :=
  kinds.zipIdx.map fun (kind, i) => ⟨kind, (places i).1, (places i).2⟩

theorem exists_placed (tokens : List Token) :
    ∃ places, tokens = placed places (tokens.map Token.kind) := by
  refine ⟨fun i => ((tokens[i]?.getD default).span, (tokens[i]?.getD default).broken), ?_⟩
  rw [placed]
  refine List.ext_getElem (by simp) fun i hi _ => ?_
  simp [hi]

section Trees

variable (places : Places)

/-- A node from one token to another. -/
def nodeAt (kind : Kind) (first last : Nat) (children : List Tree) : Tree :=
  .node kind ⟨(places first).1.start, (places last).1.stop⟩ children

/-- A name. -/
def nameAt (name : String) (i : Nat) : Tree := nodeAt places (.identifier name) i i []

/-- The import of a model. -/
def importTree (source model : String) : Tree :=
  nodeAt places (.importFrom 0 source [⟨model, none⟩]) 1 4 []

/-- A call of a method of an object. -/
def callTree (object method : String) (first last : Nat) (arguments : List Tree) : Tree :=
  nodeAt places .call first last
    [nodeAt places (.attribute method) first (first + 2) [nameAt places object first],
      nodeAt places .arguments (first + 3) last arguments]

/-- A call that is waited for. -/
def awaitTree (method : String) (first last : Nat) (arguments : List Tree) : Tree :=
  nodeAt places .await first last [callTree places "nango" method (first + 1) last arguments]

/-- The function that a sync runs. -/
def fetchTree (first last : Nat) (body : List Tree) : Tree :=
  nodeAt places (.functionDefinition true "fetch_data") (first + 1) last
    [nodeAt places .parameters (first + 5) (first + 5)
        [nodeAt places (.parameter "nango" .single) (first + 5) (first + 5) []],
      nodeAt places .block (first + 8) last body]

/-- The statements that save records of a model. -/
def saveTrees (model : String) : List Tree :=
  [nodeAt places .annotatedAssignment 14 22
      [nameAt places "records" 14,
        nodeAt places .subscript 16 19 [nameAt places "list" 16, nameAt places model 18],
        nodeAt places .list 21 22 []],
    nodeAt places .expressionStatement 24 32
      [awaitTree places "batch_save" 24 32
        [nameAt places "records" 29, nodeAt places (.string (some model)) 31 31 []]]]

/-- The statement that logs a text. -/
def logTree (text : Option String) : Tree :=
  nodeAt places .expressionStatement 9 15
    [awaitTree places "log" 9 15 [nodeAt places (.string text) 14 14 []]]

/-- The statement that asks for a response, in the block at `block`. -/
def askTree (block : Nat) : Tree :=
  nodeAt places .assignment (block + 1) (block + 11)
    [nameAt places "response" (block + 1),
      awaitTree places "get" (block + 3) (block + 11)
        [nodeAt places (.keywordArgument "endpoint") (block + 8) (block + 10)
          [nodeAt places (.string (some "/")) (block + 10) (block + 10) []]]]

/-- The statement that returns what the response says, in the block at `block`. -/
def answerTree (block : Nat) : Tree :=
  nodeAt places .returnStatement (block + 13) (block + 18)
    [callTree places "response" "json" (block + 14) (block + 18) []]

/-- The function that an action runs, with the block at `block`. -/
def runTree (first block : Nat) (result : List Tree) : Tree :=
  nodeAt places (.functionDefinition true "run_action") (first + 1) (block + 18)
    (nodeAt places .parameters (first + 5) (first + 9)
        [nodeAt places (.parameter "nango" .single) (first + 5) (first + 5) [],
          nodeAt places (.parameter "input" .single) (first + 7) (first + 7)
            [nodeAt places .defaultValue (first + 9) (first + 9)
              [nodeAt places .none (first + 9) (first + 9) []]]] ::
      (result ++
        [nodeAt places .block block (block + 18) [askTree places block, answerTree places block]]))

/-- The function that a starter script defines. -/
def Starter.function : Starter → Tree
  | saving model => fetchTree places 5 32 (saveTrees places model)
  | logging letters =>
    fetchTree places 0 15 [logTree places ((unescape? letters).map String.ofList)]
  | returning model =>
    runTree places 5 19 [nodeAt places .declaredType 17 17 [nameAt places model 17]]
  | importing _ => runTree places 5 17 []
  | answering => runTree places 0 12 []

/-- The number of the last token of a starter script. -/
def Starter.last : Starter → Nat
  | saving _ => 32
  | logging _ => 15
  | returning _ => 37
  | importing _ => 35
  | answering => 30

/-- The tree of a starter script that imports from `source`. -/
def Starter.tree (source : String) (starter : Starter) : Tree :=
  nodeAt places .module 0 starter.last
    (starter.model?.toList.map (importTree places source) ++ [starter.function places])

set_option maxRecDepth 10000 in
/-- The tokens of a starter script make its tree. -/
theorem tree?_kinds (source : String) (starter : Starter) :
    Parser.tree? (placed places (starter.kinds source ++ [.stop])) =
      some (starter.tree places source) := by
  cases starter with
  | saving model => cbv
  | logging letters =>
    rw [Starter.kinds, Starter.tree, Starter.function]
    generalize (unescape? letters).map String.ofList = text
    cases text <;> cbv
  | returning model => cbv
  | importing model => cbv
  | answering => cbv

end Trees

end IntegrationBuild.Scaffold
