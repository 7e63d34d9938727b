import IntegrationBuild.Decimal.Binary64

/-!
JSON documents.  Objects keep their members in the order of insertion, whole
numbers have any size, and other numbers are binary floating-point numbers.
-/

namespace IntegrationBuild

/-- A JSON document. -/
inductive Json where
  | null
  | bool (value : Bool)
  | int (value : Int)
  | float (value : Decimal.Binary64)
  | str (value : String)
  | arr (items : List Json)
  | obj (members : List (String × Json))
deriving Inhabited, Repr

namespace Json

/-- Puts a member into an object: a known key keeps its place and takes the
new value, a new key goes to the end. -/
def insertMember (members : List (String × Json)) (key : String) (value : Json) :
    List (String × Json) :=
  match members with
  | [] => [(key, value)]
  | (k, v) :: rest =>
    if k == key then (k, value) :: rest else (k, v) :: insertMember rest key value

/-- The value of a member of an object. -/
def get? (json : Json) (key : String) : Option Json :=
  match json with
  | .obj members => members.lookup key
  | _ => none

/-- The text of a string document. -/
def str? : Json → Option String
  | .str s => some s
  | _ => none

/-- The value of a whole-number document. -/
def int? : Json → Option Int
  | .int n => some n
  | _ => none

/-- The items of an array document. -/
def arr? : Json → Option (List Json)
  | .arr items => some items
  | _ => none

/-- The members of an object document. -/
def obj? : Json → Option (List (String × Json))
  | .obj members => some members
  | _ => none

/-- An array of strings. -/
def strings (items : List String) : Json :=
  .arr (items.map .str)

/-- A string, or null when there is none. -/
def optional (s : Option String) : Json :=
  match s with
  | some s => .str s
  | none => .null

end Json

end IntegrationBuild
