import IntegrationBuild.Script.Read

/-!
The imports of a script.  The tree is searched level by level, and the imports
are listed by line; those of one line stay in the order of the search.
-/

namespace IntegrationBuild

/-- One import.  The module is empty when only dots are given; the level is the
number of dots. -/
structure ImportRef where
  line : Nat
  source : String
  names : List String := []
  level : Nat := 0
deriving DecidableEq, Repr, Inhabited

namespace ImportRef

/-- Whether the import starts from the importing file. -/
def isRelative (ref : ImportRef) : Bool :=
  0 < ref.level

/-- The first part of the module's name. -/
def topLevel (ref : ImportRef) : String :=
  String.ofList (ref.source.toList.takeWhile (· != '.'))

end ImportRef

namespace Script

/-- The imports made by one node. -/
def importsAt (t : Tree) : List ImportRef :=
  match t.kind with
  | .importStatement names =>
    names.map fun n => { line := t.start.line, source := n.name }
  | .importFrom level source names =>
    [{ line := t.start.line, source := source, names := names.map ImportedName.name
       level := level }]
  | _ => []

/-- The imports of a tree, by line. -/
def imports (t : Tree) : List ImportRef :=
  (t.breadthFirst.flatMap importsAt).mergeSort fun a b => a.line ≤ b.line

/-- The imports of a script.  One that the strict reading refuses has none. -/
def importsOf (content : ByteArray) : List ImportRef :=
  match (Text.decodeText? content).bind strictTree? with
  | some tree => imports tree
  | none => []

end Script

end IntegrationBuild
