import IntegrationBuild.Script.Read

/-!
The names that a script binds at its top level by defining classes and by
assigning to names.
-/

namespace IntegrationBuild.Script

/-- The name that a target of an assignment is, brackets around it left out. -/
def targetName? : Tree → Option String
  | .node (.identifier name) _ _ => some name
  | .node .parenthesized _ [inner] => targetName? inner
  | _ => none

/-- The name of a class definition. -/
def className? (t : Tree) : Option String :=
  match t.kind with
  | .classDefinition name => some name
  | _ => none

/-- The names that a statement binds. -/
def boundBy (t : Tree) : List String :=
  match t.kind with
  | .classDefinition name => [name]
  | .decoratedDefinition => t.children.filterMap className?
  | .assignment => t.children.dropLast.filterMap targetName?
  | _ => []

/-- The name of the list of names that a module offers. -/
def exportList : String := "__all__"

/-- The names that the statements of a module bind, the list of its names left
out. -/
def boundNames (tree : Tree) : List String :=
  (tree.children.flatMap boundBy).filter (· != exportList)

/-- The names that a text binds, or the first fault of the text. -/
def namesOf (source : String) : Except Fault (List String) :=
  let runes := runesOfText (Text.unifyLineBreaks source.toList)
  match readTree? .strict Text.normalize runes with
  | some (tree, []) => .ok (boundNames tree)
  | some (_, fault :: _) => .error fault
  | none => .error ⟨.invalidSyntax, ⟨Position.first, Position.first⟩⟩

end IntegrationBuild.Script
