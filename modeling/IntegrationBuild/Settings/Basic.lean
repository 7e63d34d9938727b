import IntegrationBuild.Json.Parser
import IntegrationBuild.Schema.Checked
import IntegrationBuild.Text.Blank
import IntegrationBuild.Text.Identifier
import IntegrationBuild.Workspace.Path

/-!
Settings of a build.  The models module has a plain name at the project root,
so that scripts can import it, and at least one script is compiled at a time.
-/

namespace IntegrationBuild

/-- The settings of a build. -/
structure Settings where
  /-- Where compiled scripts and reports go, below the project root. -/
  outputDir : String := "dist"
  /-- The file of the generated models module. -/
  modelsFile : String := "models.py"
  /-- How many scripts are compiled side by side. -/
  workers : Int := 1
  /-- Whether ignore files below the project root count too. -/
  nestedIgnore : Bool := false
deriving DecidableEq, Repr, Inhabited

namespace Settings

/-- Whether a text names a module at the project root. -/
def isModuleFile (file : String) : Bool :=
  let path := Path.ofString file
  path.suffix == ".py" && path.allParts.length == 1 && Text.isIdentifier path.stem

/-- The name under which scripts import the models. -/
def modelsModule (settings : Settings) : String :=
  (Path.ofString settings.modelsFile).stem

/-- The settings as a document. -/
def toJson (settings : Settings) : Json :=
  .obj [("output_dir", .str settings.outputDir), ("models_file", .str settings.modelsFile),
    ("workers", .int settings.workers), ("nested_gitignore", .bool settings.nestedIgnore)]

/-- The name of a models module, checked before anything else about it. -/
def moduleFile (value : Value) : Schema.Checked String :=
  match value with
  | .text file =>
    if isModuleFile file then .ok file
    else .fail ("Value error, models_file '" ++ file ++ "' must be a module name such as " ++
      "'models.py' placed at the project root")
  | value => Schema.text value

/-- Whether a character is a space around a number: a blank that is no
information separator. -/
def isNumberSpace (c : Char) : Bool :=
  Text.isBlank c && !(0x1c ≤ c.toNat && c.toNat ≤ 0x1f)

/-- Drops the spaces around a number. -/
def trimNumber (s : List Char) : List Char :=
  ((s.dropWhile isNumberSpace).reverse.dropWhile isNumberSpace).reverse

/-- Drops a fraction that is zero, with its point. -/
def dropZeroFraction (s : List Char) : List Char :=
  match s.dropWhile (· != '.') with
  | '.' :: rest => if rest.all (· == '0') then s.takeWhile (· != '.') else s
  | _ => s

/-- Drops the zeros at the start, and underscores among them, but not the last
digit before the point or the end. -/
def dropLeadingZeros (s : List Char) : Option (List Char) :=
  match s with
  | [] => none
  | '0' :: rest =>
    match rest.dropWhile fun c => c == '0' || c == '_' with
    | [] => s.getLast?.map fun c => [c]
    | '.' :: fraction =>
      (s.take (s.length - fraction.length - 1)).getLast?.map fun c => c :: '.' :: fraction
    | c :: rest => if c.isDigit then some (c :: rest) else none
  | c :: _ => if c.isDigit || c == '-' then some s else none

/-- Drops underscores that stand alone between other characters. -/
def dropUnderscores (s : List Char) : Option (List Char) :=
  if s.head? == some '_' || s.getLast? == some '_' then none
  else if (s.zip (s.drop 1)).contains ('_', '_') then none
  else some (s.filter (· != '_'))

/-- The value of a plain whole number, without a zero at its start. -/
def plainInt? (s : List Char) : Option Int :=
  let (negative, digits) := match s with
    | '-' :: rest => (true, rest)
    | s => (false, s)
  if digits.isEmpty || !digits.all Char.isDigit then none
  else if digits.length > 1 && digits.head? == some '0' then none
  else
    let n : Int := Json.digitsValue digits
    some (if negative then -n else n)

/-- Drops a plus sign. -/
def dropPlus : List Char → List Char
  | '+' :: rest => rest
  | s => s

/-- The whole number that a text stands for.  Spaces around it, a plus sign,
zeros at its start, underscores and a fraction of zeros are let pass. -/
def textInt? (s : List Char) : Option Int :=
  match plainInt? s with
  | some n => some n
  | none => do
    let digits ← dropLeadingZeros (dropPlus (trimNumber s))
    let digits ← dropUnderscores (dropZeroFraction digits)
    plainInt? digits

/-- A whole number, also written as a truth value, a floating-point number
without a fraction, or a text. -/
def wholeNumber (value : Value) : Schema.Checked Int :=
  match value with
  | .bool b => .ok (if b then 1 else 0)
  | .int n => .ok n
  | .float .nan | .float (.infinity _) => .fail "Input should be a finite number"
  | .float x =>
    match x.toInt? with
    | some n =>
      if n.natAbs < Nat.pow 2 63 then .ok n
      else .fail "Unable to parse input string as an integer, exceeded maximum size"
    | none => .fail "Input should be a valid integer, got a number with a fractional part"
  | .text s =>
    match textInt? s.toList with
    | some n => .ok n
    | none => .fail "Input should be a valid integer, unable to parse string as an integer"
  | _ => .fail "Input should be a valid integer"

/-- A number of workers. -/
def workerCount (value : Value) : Schema.Checked Int :=
  (wholeNumber value).andThen fun n =>
    if 1 ≤ n then .ok n else .fail "Input should be greater than or equal to 1"

/-- The settings that entries give; what they leave out has its usual value. -/
def ofEntries (entries : List (Value × Value)) : Schema.Checked Settings :=
  let usual : Settings := {}
  let checked := Settings.mk
    <$> Schema.field entries ["output_dir"] usual.outputDir Schema.text
    <*> Schema.field entries ["models_file"] usual.modelsFile moduleFile
    <*> Schema.field entries ["workers"] usual.workers workerCount
    <*> Schema.field entries ["nested_gitignore"] usual.nestedIgnore Schema.truth
  checked.withProblems (Schema.extraProblems entries
    [["output_dir"], ["models_file"], ["workers"], ["nested_gitignore"]])

end Settings

end IntegrationBuild
