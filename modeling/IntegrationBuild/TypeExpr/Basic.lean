import IntegrationBuild.Json.Basic

/-!
Types of model fields.  A type is a tree over primitives and models; string
literals stand only as members of a union.
-/

namespace IntegrationBuild

/-- A primitive type, under its canonical name. -/
inductive Primitive where
  | string
  | number
  | integer
  | boolean
  | date
  | any
  | object
  | null
deriving DecidableEq, Repr, Inhabited

namespace Primitive

/-- The canonical name. -/
def name : Primitive → String
  | .string => "string"
  | .number => "number"
  | .integer => "integer"
  | .boolean => "boolean"
  | .date => "date"
  | .any => "any"
  | .object => "object"
  | .null => "null"

/-- The names a field may use for a primitive, with the primitive each of
them stands for. -/
def aliases : List (String × Primitive) :=
  [("string", .string), ("str", .string), ("number", .number), ("float", .number),
    ("integer", .integer), ("int", .integer), ("boolean", .boolean), ("bool", .boolean),
    ("date", .date), ("Date", .date), ("any", .any), ("object", .object), ("null", .null)]

/-- The primitive a name stands for. -/
def ofName? (name : String) : Option Primitive :=
  aliases.lookup name

/-- A canonical name stands for its own primitive. -/
theorem ofName?_name (p : Primitive) : ofName? p.name = some p := by
  cases p <;> decide

end Primitive

/-- The type of a field, an input or an output. -/
inductive TypeRef where
  | primitive (type : Primitive)
  | model (name : String)
  | array (item : TypeRef)
  | record (key value : TypeRef)
  | nullable (inner : TypeRef)
  | optional (inner : TypeRef)
  | literal (text : String)
  | union (members : List TypeRef)
deriving Inhabited, Repr

namespace TypeRef

/-- Whether the value may be absent. -/
def isOptional : TypeRef → Bool
  | .optional _ => true
  | _ => false

/-- Whether the type is a string literal. -/
def isLiteral : TypeRef → Bool
  | .literal _ => true
  | _ => false

mutual

/-- The models mentioned anywhere in a type, in order and with repetition. -/
def models : TypeRef → List String
  | .model name => [name]
  | .array item => models item
  | .record key value => models key ++ models value
  | .nullable inner => models inner
  | .optional inner => models inner
  | .union members => modelsOf members
  | .primitive _ => []
  | .literal _ => []

/-- The models mentioned in a list of types. -/
def modelsOf : List TypeRef → List String
  | [] => []
  | ref :: rest => models ref ++ modelsOf rest

end

mutual

/-- The tagged JSON form of a type. -/
def toJson : TypeRef → Json
  | .primitive p => .obj [("kind", .str "primitive"), ("name", .str p.name)]
  | .model name => .obj [("kind", .str "model"), ("name", .str name)]
  | .array item => .obj [("kind", .str "array"), ("item", toJson item)]
  | .record key value =>
    .obj [("kind", .str "record"), ("key", toJson key), ("value", toJson value)]
  | .nullable inner => .obj [("kind", .str "nullable"), ("inner", toJson inner)]
  | .optional inner => .obj [("kind", .str "optional"), ("inner", toJson inner)]
  | .literal text => .obj [("kind", .str "literal"), ("value", .str text)]
  | .union members => .obj [("kind", .str "union"), ("members", .arr (toJsonList members))]

/-- The JSON forms of a list of types. -/
def toJsonList : List TypeRef → List Json
  | [] => []
  | ref :: rest => toJson ref :: toJsonList rest

end

end TypeRef

end IntegrationBuild
