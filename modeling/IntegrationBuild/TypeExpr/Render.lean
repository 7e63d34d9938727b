import IntegrationBuild.Text.Quoted
import IntegrationBuild.TypeExpr.Basic

/-!
The annotation of a type in the generated module.  Neighbouring literals of a
union share one `Literal[...]`; an absent value can only be expressed by a key
that is not required, so elsewhere an optional type reads as a nullable one.
-/

namespace IntegrationBuild

/-- The annotation of a primitive. -/
def Primitive.annotation : Primitive → String
  | .string => "str"
  | .number => "float"
  | .integer => "int"
  | .boolean => "bool"
  | .date => "datetime"
  | .any => "Any"
  | .object => "dict[str, Any]"
  | .null => "None"

namespace TypeRef

/-- A run of literals. -/
def literalGroup (texts : List String) : List String :=
  if texts.isEmpty then []
  else ["Literal[" ++ String.intercalate ", " (texts.map Text.quoted) ++ "]"]

mutual

/-- The annotation of a type. -/
def render : TypeRef → String
  | .primitive p => p.annotation
  | .model name => name
  | .array item => "list[" ++ render item ++ "]"
  | .record key value => "dict[" ++ render key ++ ", " ++ render value ++ "]"
  | .nullable inner => render inner ++ " | None"
  | .optional (.nullable inner) => render inner ++ " | None"
  | .optional inner => render inner ++ " | None"
  | .literal text => "Literal[" ++ Text.quoted text ++ "]"
  | .union members => String.intercalate " | " (renderMembers members [])

/-- The parts of a union; `run` holds the literals met since the last type,
the latest first. -/
def renderMembers : List TypeRef → List String → List String
  | [], run => literalGroup run.reverse
  | .literal text :: rest, run => renderMembers rest (text :: run)
  | ref :: rest, run => literalGroup run.reverse ++ (render ref :: renderMembers rest [])

end

/-- The annotation of a key of that type. -/
def renderKey : TypeRef → String
  | .optional inner => "NotRequired[" ++ render inner ++ "]"
  | ref => render ref

end TypeRef

end IntegrationBuild
