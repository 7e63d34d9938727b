import IntegrationBuild.Value.Describe

/-!
Checking values against a schema.  A check gives a result or the list of all
problems found; checks of several fields run side by side, and their problems
are listed in the order of the fields.
-/

namespace IntegrationBuild.Schema

/-- One problem of a document: where it is and what is wrong. -/
structure Problem where
  location : List String
  message : String
deriving DecidableEq, Repr

namespace Problem

/-- The problem seen from one level further out. -/
def inside (problem : Problem) (key : String) : Problem :=
  { problem with location := key :: problem.location }

/-- A problem at the place itself. -/
def here (message : String) : Problem :=
  { location := [], message := message }

/-- The line that reports a problem. -/
def line (problem : Problem) : String :=
  "  - " ++ String.intercalate "." problem.location ++ ": " ++ problem.message

end Problem

/-- The report of a list of problems. -/
def report (problems : List Problem) : String :=
  String.intercalate "\n" ("Validation failed:" :: problems.map Problem.line)

/-- The outcome of a check: a result, or at least one problem. -/
inductive Checked (α : Type) where
  | ok (value : α)
  | bad (problems : List Problem)
deriving Repr

namespace Checked

variable {α β : Type}

/-- A check that fails with one problem at the place itself. -/
def fail (message : String) : Checked α :=
  .bad [.here message]

/-- Applies a function to the result. -/
def map (f : α → β) : Checked α → Checked β
  | .ok a => .ok (f a)
  | .bad problems => .bad problems

/-- Runs two checks side by side. -/
def ap (f : Checked (α → β)) (x : Checked α) : Checked β :=
  match f, x with
  | .ok f, .ok a => .ok (f a)
  | .bad p, .ok _ => .bad p
  | .ok _, .bad q => .bad q
  | .bad p, .bad q => .bad (p ++ q)

instance : Functor Checked where
  map := map

instance : Applicative Checked where
  pure := .ok
  seq f x := ap f (x ())

/-- Runs a second check on the result of the first. -/
def andThen (x : Checked α) (f : α → Checked β) : Checked β :=
  match x with
  | .ok a => f a
  | .bad problems => .bad problems

/-- The same check under a key. -/
def inside (x : Checked α) (key : String) : Checked α :=
  match x with
  | .ok a => .ok a
  | .bad problems => .bad (problems.map fun problem => problem.inside key)

/-- Adds problems found apart from the result. -/
def withProblems (x : Checked α) (more : List Problem) : Checked α :=
  match x, more with
  | .ok a, [] => .ok a
  | .ok _, more => .bad more
  | .bad problems, more => .bad (problems ++ more)

/-- Runs checks side by side and lists their results. -/
def all : List (Checked α) → Checked (List α)
  | [] => .ok []
  | x :: rest => ap (map (· :: ·) x) (all rest)

end Checked

/-- How a key is written in a location. -/
def keyText : Value → String
  | .text s => s
  | .bool b => if b then "1" else "0"
  | key => key.inside

/-- The text a value stands for: a text, or bytes that decode. -/
def text (value : Value) : Checked String :=
  match value with
  | .text s => .ok s
  | .bytes b =>
    match String.fromUTF8? (ByteArray.mk b.toArray) with
    | some s => .ok s
    | none => .fail "Input should be a valid string, unable to parse raw data as a unicode string"
  | _ => .fail "Input should be a valid string"

/-- Lets null stand for a missing value. -/
def nullable {α : Type} (check : Value → Checked α) (value : Value) : Checked (Option α) :=
  match value with
  | .null => .ok none
  | value => (check value).map some

/-- One text or a list of texts. -/
inductive TextOrList where
  | one (text : String)
  | many (texts : List String)
deriving DecidableEq, Repr

namespace TextOrList

/-- The texts, whether written alone or in a list. -/
def toList : TextOrList → List String
  | .one text => [text]
  | .many texts => texts

/-- Whether there is no text, or one that is empty and stands alone. -/
def isEmpty : TextOrList → Bool
  | .one text => text.isEmpty
  | .many texts => texts.isEmpty

end TextOrList

/-- The texts of a list, each problem under its index. -/
def textItems (items : List Value) : Checked (List String) :=
  .all (items.zipIdx.map fun (item, i) => (text item).inside (toString i))

/-- A list of texts. -/
def textList (value : Value) : Checked (List String) :=
  match value with
  | .list items => textItems items
  | .set items => textItems items
  | .pair a b => textItems [a, b]
  | _ => .fail "Input should be a valid list"

/-- One text or a list of texts; a value that is neither has the problems of
both readings. -/
def textOrList (value : Value) : Checked TextOrList :=
  match text value with
  | .ok s => .ok (.one s)
  | .bad asText =>
    match textList value with
    | .ok items => .ok (.many items)
    | .bad asList =>
      .bad (asText.map (·.inside "str") ++ asList.map (·.inside "list[str]"))

/-- The words that stand for false and true, in lower case. -/
def falseWords : List String := ["0", "off", "f", "false", "n", "no"]

/-- The words that stand for true, in lower case. -/
def trueWords : List String := ["1", "on", "t", "true", "y", "yes"]

/-- A word in lower case, ASCII letters only. -/
def lowerWord (s : String) : String :=
  String.ofList (s.toList.map Char.toLower)

/-- The truth value of a word. -/
def wordTruth (s : String) : Checked Bool :=
  let word := lowerWord s
  if falseWords.contains word then .ok false
  else if trueWords.contains word then .ok true
  else .fail "Input should be a valid boolean, unable to interpret input"

/-- The truth value of a whole number. -/
def numberTruth (n : Int) : Checked Bool :=
  if n == 0 then .ok false
  else if n == 1 then .ok true
  else .fail "Input should be a valid boolean, unable to interpret input"

/-- A truth value, also written as zero or one or as a word. -/
def truth (value : Value) : Checked Bool :=
  match value with
  | .bool b => .ok b
  | .int n => numberTruth n
  | .float x =>
    match x.toInt? with
    | some n => numberTruth n
    | none => .fail "Input should be a valid boolean"
  | .text s => wordTruth s
  | .bytes b =>
    match String.fromUTF8? (ByteArray.mk b.toArray) with
    | some s => wordTruth s
    | none => .fail "Input should be a valid boolean, unable to interpret input"
  | _ => .fail "Input should be a valid boolean"

/-- One of a few words; the problem names them all. -/
def oneOf {α : Type} (choices : List (String × α)) (value : Value) : Checked α :=
  let expected := String.intercalate " or " (choices.map fun (word, _) => Text.quoted word)
  match value with
  | .text s =>
    match choices.lookup s with
    | some a => .ok a
    | none => .fail ("Input should be " ++ expected)
  | _ => .fail ("Input should be " ++ expected)

/-- A mapping with text keys, every value checked. -/
def mappingOf {α : Type} (check : Value → Checked α) (value : Value) :
    Checked (List (String × α)) :=
  match value with
  | .mapping entries =>
    let checked := entries.map fun (key, item) =>
      let name := keyText key
      Prod.mk <$> ((text key).inside "[key]").inside name <*> (check item).inside name
    (Checked.all checked).map fun pairs =>
      pairs.foldl (fun known (key, item) =>
        if known.any (·.1 == key) then
          known.map fun (k, v) => if k == key then (k, item) else (k, v)
        else known ++ [(key, item)]) []
  | _ => .fail "Input should be a valid dictionary"

/-- The entry of the first spelling of a key that a record has. -/
def findField (entries : List (Value × Value)) : List String → Option (String × Value)
  | [] => none
  | spelling :: rest =>
    match Value.lookup entries spelling with
    | some value => some (spelling, value)
    | none => findField entries rest

/-- A field that may be left out. -/
def field {α : Type} (entries : List (Value × Value)) (spellings : List String)
    (default : α) (check : Value → Checked α) : Checked α :=
  match findField entries spellings with
  | none => .ok default
  | some (spelling, value) => (check value).inside spelling

/-- A field that has to be there. -/
def requiredField {α : Type} (entries : List (Value × Value)) (spelling : String)
    (check : Value → Checked α) : Checked α :=
  match Value.lookup entries spelling with
  | none => (Checked.fail "Field required").inside spelling
  | some value => (check value).inside spelling

/-- The problems of the keys that no field has used. -/
def extraProblems (entries : List (Value × Value)) (fields : List (List String)) :
    List Problem :=
  let used := fields.filterMap fun spellings => (findField entries spellings).map (·.1)
  entries.filterMap fun (key, _) =>
    match key with
    | .text name =>
      if used.contains name then none
      else some { location := [name], message := "Extra inputs are not permitted" }
    | key => some { location := [keyText key], message := "Keys should be strings" }

/-- A record of a named kind: its fields, then the keys it must not have. -/
def record {α : Type} (kind : String) (fields : List (List String))
    (check : List (Value × Value) → Checked α) (value : Value) : Checked α :=
  match value with
  | .mapping entries => (check entries).withProblems (extraProblems entries fields)
  | _ => .fail ("Input should be a valid dictionary or instance of " ++ kind)

end IntegrationBuild.Schema
