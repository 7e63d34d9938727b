import IntegrationBuild.CommandLine.Argument
import IntegrationBuild.CommandLine.Help
import IntegrationBuild.Json.Parser
import IntegrationBuild.Text.Blank

/-!
Reading commands.  The options of the program come before the name of a
command, those of the command after it; a command has one more argument, the
root of the project.
-/

namespace IntegrationBuild.CommandLine

/-- A command with its arguments. -/
inductive Command where
  | init (root : String)
  | generate (root : String)
  | compile (root : String) (outDir : Option String) (workers : Option Int)
  | verify (root : String) (models : Option String)
deriving DecidableEq, Repr

/-- Why no command is run: help was asked for, or the arguments are wrong. -/
inductive Stop where
  | help
  | wrong (message : String)
deriving DecidableEq, Repr

/-- The arguments of a command as far as they are read. -/
structure Given where
  root : Option String := none
  /-- Whether the place of the root has been passed. -/
  rootRead : Bool := false
  outDir : Option String := none
  workers : Option Int := none
  models : Option String := none
  /-- The arguments that nothing stands for. -/
  extras : List String := []
deriving DecidableEq, Repr

/-- The error of an option. -/
def optionError (flag : Flag) (message : String) : Stop :=
  .wrong ("argument " ++ flag.label ++ ": " ++ message)

/-- The whole number that a text stands for: digits with a sign, single
underscores between them and blanks around them. -/
def number? (text : String) : Option Int :=
  let s := Text.trim text.toList
  let (negative, digits) := match s with
    | '-' :: rest => (true, rest)
    | '+' :: rest => (false, rest)
    | s => (false, s)
  let plain := digits.filter (· != '_')
  let misplaced := digits.head? == some '_' || digits.getLast? == some '_' ||
    (digits.zip (digits.drop 1)).contains ('_', '_')
  if plain.isEmpty || misplaced || !plain.all Char.isDigit then none
  else
    let n : Int := Json.digitsValue plain
    some (if negative then -n else n)

/-- The arguments with the value of an option. -/
def Given.withValue (given : Given) (flag : Flag) (value : String) : Except Stop Given :=
  match flag with
  | .outDir => .ok { given with outDir := some value }
  | .models => .ok { given with models := some value }
  | .workers =>
    match number? value with
    | some n => .ok { given with workers := some n }
    | none => .error (optionError flag ("invalid int value: " ++ Text.quoted value))
  | .help | .debug => .ok given

/-- Whether an option without a value may have a tail: only one attached to a
single dash, which is then more options. -/
def checkTail (flag : Flag) (tail : Option (Bool × String)) : Except Stop Unit :=
  match tail with
  | none => .ok ()
  | some (separated, value) =>
    if separated || value.isEmpty || value.startsWith "-" then
      .error (optionError flag ("ignored explicit argument " ++ Text.quoted value))
    else .ok ()

/-- Reads the arguments of a command. -/
def readGiven : List (String × Shape) → Given → Except Stop Given
  | [], given => .ok given
  | (arg, .unknown) :: rest, given =>
    readGiven rest { given with extras := given.extras ++ [arg] }
  | (_, .option flag tail) :: rest, given =>
    if flag.takesValue then
      match tail, rest with
      | some (_, value), rest => do readGiven rest (← given.withValue flag value)
      | none, (value, .plain) :: rest => do readGiven rest (← given.withValue flag value)
      | none, _ => .error (optionError flag "expected one argument")
    else do
      checkTail flag tail
      .error .help
  | (arg, .dashes) :: rest, given =>
    if given.rootRead then readGiven rest { given with extras := given.extras ++ [arg] }
    else
      match rest with
      | (root, .plain) :: rest => readGiven rest { given with root := some root, rootRead := true }
      | rest => readGiven rest { given with rootRead := true }
  | (arg, .plain) :: rest, given =>
    if given.rootRead then readGiven rest { given with extras := given.extras ++ [arg] }
    else
      let given := { given with root := some arg, rootRead := true }
      match rest with
      | (_, .dashes) :: rest => readGiven rest given
      | rest => readGiven rest given

/-- The options of a command. -/
def flagsOf : CommandName → List Flag
  | .init | .generate => [.help]
  | .compile => [.help, .outDir, .workers]
  | .verify => [.help, .models]

/-- The options of the program itself. -/
def mainFlags : List Flag := [.help, .debug]

/-- The command of a name with its arguments. -/
def commandOf (name : CommandName) (given : Given) : Command :=
  let root := given.root.getD "."
  match name with
  | .init => .init root
  | .generate => .generate root
  | .compile => .compile root given.outDir given.workers
  | .verify => .verify root given.models

/-- What a command line asks for: a command, or to write a text and leave. -/
inductive Request where
  | run (command : Command)
  | leave (exit : Nat) (out err : String)
deriving DecidableEq, Repr

/-- How the program leaves when no command is run. -/
def Stop.request (name : Option CommandName) : Stop → Request
  | .help => .leave 0 (helpText name) ""
  | .wrong message => .leave 2 "" (usageError name message)

/-- The request of a command.  Arguments that nothing stands for, before the
command or after it, are an error of the program's. -/
def readCommand (name : CommandName) (args extras : List String) : Request :=
  match shapesOf (flagsOf name) args with
  | .error message => (Stop.wrong message).request (some name)
  | .ok shapes =>
    match readGiven shapes {} with
    | .error stop => stop.request (some name)
    | .ok given =>
      match extras ++ given.extras with
      | [] => .run (commandOf name given)
      | extras =>
        (Stop.wrong ("unrecognized arguments: " ++ String.intercalate " " extras)).request none

/-- The error of a word that is no command. -/
def noCommand (word : String) : Stop :=
  .wrong ("argument command: invalid choice: " ++ Text.quoted word ++ " (choose from " ++
    String.intercalate ", " (CommandName.all.map fun name => Text.quoted name.text) ++ ")")

/-- Reads the options of the program up to the name of a command. -/
def readMain : List (String × Shape) → List String → Request
  | [], _ => (Stop.wrong "the following arguments are required: command").request none
  | (arg, .unknown) :: rest, extras => readMain rest (extras ++ [arg])
  | (_, .option flag tail) :: rest, extras =>
    match checkTail flag tail with
    | .error stop => stop.request none
    | .ok () => if flag == .help then Stop.help.request none else readMain rest extras
  | [(arg, .dashes)], extras => readMain [] (extras ++ [arg])
  | (arg, _) :: rest, extras =>
    match CommandName.ofText? arg with
    | some name => readCommand name (rest.map (·.1)) extras
    | none => (noCommand arg).request none

/-- What a command line asks for. -/
def request (args : List String) : Request :=
  match shapesOf mainFlags args with
  | .error message => (Stop.wrong message).request none
  | .ok shapes => readMain shapes []

end IntegrationBuild.CommandLine
