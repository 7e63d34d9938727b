import IntegrationBuild.Text.Identifier
import IntegrationBuild.TypeExpr.Basic

/-!
Models: named record types whose fields keep their declaration order.
-/

namespace IntegrationBuild

/-- A field of a model: its name, its expression as written and its type. -/
structure ModelField where
  name : String
  raw : String
  type : TypeRef
deriving Inhabited, Repr

/-- Whether the field may be absent. -/
def ModelField.optional (field : ModelField) : Bool :=
  field.type.isOptional

/-- A named record type. -/
structure Model where
  name : String
  fields : List ModelField
  bases : List String := []
deriving Inhabited, Repr

namespace Model

/-- The names of the model's own fields, in order. -/
def fieldNames (model : Model) : List String :=
  model.fields.map (·.name)

/-- The model of a name; of several models with that name the last one. -/
def byName? (models : List Model) (name : String) : Option Model :=
  models.reverse.find? fun model => model.name == name

end Model

/-- The words that are reserved in a script. -/
def keywords : List String :=
  ["False", "None", "True", "and", "as", "assert", "async", "await", "break", "class",
    "continue", "def", "del", "elif", "else", "except", "finally", "for", "from", "global",
    "if", "import", "in", "is", "lambda", "nonlocal", "not", "or", "pass", "raise",
    "return", "try", "while", "with", "yield"]

/-- Whether a name is a reserved word. -/
def isKeyword (name : String) : Bool :=
  keywords.contains name

/-- The names that the generated module binds or uses in annotations. -/
def reservedModelNames : List String :=
  ["annotations", "datetime", "Any", "Literal", "NotRequired", "TypedDict", "str", "float",
    "int", "bool", "list", "dict"]

/-- Whether a model of that name can be declared in the generated module. -/
def isModelName (name : String) : Bool :=
  Text.isIdentifier name && !isKeyword name && !reservedModelNames.contains name

/-- Joins the words of a name, each with its first letter in upper case.  Words
are runs of ASCII letters and digits. -/
def pascalChars : Bool → List Char → List Char
  | _, [] => []
  | atStart, c :: rest =>
    if c.isAlphanum then (if atStart then c.toUpper else c) :: pascalChars false rest
    else pascalChars true rest

/-- The words of a name joined, each with its first letter in upper case. -/
def pascalCase (name : String) : String :=
  String.ofList (pascalChars true name.toList)

end IntegrationBuild
