import IntegrationBuild.Json.Basic
import IntegrationBuild.Decimal.Shortest
import IntegrationBuild.Text.Quoted

/-!
Writing JSON text, either on one line with members in their own order or as an
artifact: two blanks of indentation, members sorted by the bytes of their keys
and a final line break.
-/

namespace IntegrationBuild.Json

/-- Numbers in JSON text: positional for points from -4 to 16, exponents as
`1e+16` and `1e-7`, and `null` for what is not finite. -/
def numberStyle : Decimal.Style :=
  { leastPoint := -4, greatestPoint := 16, exponentWidth := 1, exponentPlus := true
    nan := "null", infinity := "null", negativeInfinity := "null" }

/-- How one character is written in a JSON string: only the quote, the
backslash and the control characters are escaped. -/
def escapeChar (c : Char) : List Char :=
  match c with
  | '"' => ['\\', '"']
  | '\\' => ['\\', '\\']
  | '\x08' => ['\\', 'b']
  | '\x0c' => ['\\', 'f']
  | '\n' => ['\\', 'n']
  | '\r' => ['\\', 'r']
  | '\t' => ['\\', 't']
  | c => if c.toNat < 0x20 then '\\' :: 'u' :: Text.hexDigits 4 c.toNat else [c]

/-- A string between quotes. -/
def quote (s : String) : String :=
  String.ofList ('"' :: (s.toList.flatMap escapeChar ++ ['"']))

mutual

/-- The document on one line. -/
def compact : Json → String
  | .null => "null"
  | .bool b => if b then "true" else "false"
  | .int n => toString n
  | .float x => numberStyle.text x
  | .str s => quote s
  | .arr items => "[" ++ compactItems items ++ "]"
  | .obj members => "\x7b" ++ compactMembers members ++ "\x7d"

/-- The items of an array, separated by commas. -/
def compactItems : List Json → String
  | [] => ""
  | [item] => compact item
  | item :: rest => compact item ++ "," ++ compactItems rest

/-- The members of an object, separated by commas. -/
def compactMembers : List (String × Json) → String
  | [] => ""
  | [(key, value)] => quote key ++ ":" ++ compact value
  | (key, value) :: rest =>
    quote key ++ ":" ++ compact value ++ "," ++ compactMembers rest

end

/-- A line break and `depth` levels of indentation. -/
def breakLine (depth : Nat) : String :=
  String.ofList ('\n' :: List.replicate (2 * depth) ' ')

/-- Puts a member before the first one whose key is not smaller. -/
def insertSorted (member : String × Json) :
    List (String × Json) → List (String × Json)
  | [] => [member]
  | other :: rest =>
    if other.1 < member.1 then other :: insertSorted member rest
    else member :: other :: rest

mutual

/-- The document with the members of every object sorted by key. -/
def sortKeys : Json → Json
  | .arr items => .arr (sortItems items)
  | .obj members => .obj (sortMembers members)
  | json => json

/-- Sorts inside every item. -/
def sortItems : List Json → List Json
  | [] => []
  | item :: rest => sortKeys item :: sortItems rest

/-- Sorts the members of an object and inside them. -/
def sortMembers : List (String × Json) → List (String × Json)
  | [] => []
  | (key, value) :: rest => insertSorted (key, sortKeys value) (sortMembers rest)

end

mutual

/-- The document over several lines, its inner lines at `depth + 1`. -/
def indented (depth : Nat) : Json → String
  | .arr [] => "[]"
  | .arr items =>
    "[" ++ indentedItems depth items ++ breakLine depth ++ "]"
  | .obj [] => "\x7b\x7d"
  | .obj members =>
    "\x7b" ++ indentedMembers depth members ++ breakLine depth ++ "\x7d"
  | .null => "null"
  | .bool b => if b then "true" else "false"
  | .int n => toString n
  | .float x => numberStyle.text x
  | .str s => quote s

/-- The items of an array, one a line. -/
def indentedItems (depth : Nat) : List Json → String
  | [] => ""
  | [item] => breakLine (depth + 1) ++ indented (depth + 1) item
  | item :: rest =>
    breakLine (depth + 1) ++ indented (depth + 1) item ++ "," ++
      indentedItems depth rest

/-- The members of an object, one a line. -/
def indentedMembers (depth : Nat) : List (String × Json) → String
  | [] => ""
  | [(key, value)] =>
    breakLine (depth + 1) ++ quote key ++ ": " ++ indented (depth + 1) value
  | (key, value) :: rest =>
    breakLine (depth + 1) ++ quote key ++ ": " ++ indented (depth + 1) value ++
      "," ++ indentedMembers depth rest

end

mutual

/-- Whether every whole number of the document fits into 64 bits, signed or
unsigned. -/
def fits64 : Json → Bool
  | .int n => decide (-(2 ^ 63) ≤ n) && decide (n < 2 ^ 64)
  | .arr items => fits64Items items
  | .obj members => fits64Members members
  | _ => true

/-- Whether the numbers of every item fit. -/
def fits64Items : List Json → Bool
  | [] => true
  | item :: rest => fits64 item && fits64Items rest

/-- Whether the numbers of every member fit. -/
def fits64Members : List (String × Json) → Bool
  | [] => true
  | (_, value) :: rest => fits64 value && fits64Members rest

end

/-- The text of a document as an artifact, or nothing when a whole number
does not fit into 64 bits. -/
def artifact? (json : Json) : Option String :=
  if json.fits64 then some (indented 0 json.sortKeys ++ "\n") else none

end IntegrationBuild.Json
