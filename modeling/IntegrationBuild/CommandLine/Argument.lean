import IntegrationBuild.Text.Quoted

/-!
Arguments of the command line.  An argument that begins with a dash is an
option, which may be abbreviated; what follows two dashes alone is no option.
-/

namespace IntegrationBuild.CommandLine

/-- The options of the commands. -/
inductive Flag where
  | help
  | debug
  | outDir
  | workers
  | models
deriving DecidableEq, Repr

namespace Flag

/-- The spellings of an option. -/
def spellings : Flag → List String
  | .help => ["-h", "--help"]
  | .debug => ["--debug"]
  | .outDir => ["--out-dir"]
  | .workers => ["--workers"]
  | .models => ["--models"]

/-- Whether an option has a value. -/
def takesValue : Flag → Bool
  | .help | .debug => false
  | .outDir | .workers | .models => true

/-- An option in messages. -/
def label (flag : Flag) : String :=
  String.intercalate "/" flag.spellings

end Flag

/-- What an argument is.  The tail of an option is a value written in the same
argument, after an equals sign or not. -/
inductive Shape where
  | plain
  | dashes
  | unknown
  | option (flag : Flag) (tail : Option (Bool × String))
deriving DecidableEq, Repr

/-- The spellings of some options, each with its option. -/
def spelled (flags : List Flag) : List (String × Flag) :=
  flags.flatMap fun flag => flag.spellings.map fun spelling => (spelling, flag)

/-- Cuts an argument at its first equals sign. -/
def cutAtEquals (arg : String) : String × Option String :=
  let s := arg.toList
  match s.dropWhile (· != '=') with
  | _ :: value => (String.ofList (s.takeWhile (· != '=')), some (String.ofList value))
  | [] => (arg, none)

/-- Whether an argument is a negative number. -/
def isNegativeNumber (arg : String) : Bool :=
  match arg.toList with
  | '-' :: rest =>
    let fraction := rest.dropWhile Char.isDigit
    match fraction with
    | [] => !rest.isEmpty
    | '.' :: digits => !digits.isEmpty && digits.all Char.isDigit
    | _ => false
  | _ => false

/-- The options that an argument may abbreviate or, with one dash, have its
value attached to, each with its spelling. -/
def candidates (flags : List Flag) (arg : String) : List (String × Flag × Option (Bool × String)) :=
  if arg.startsWith "--" then
    let (name, value) := cutAtEquals arg
    (spelled flags).filterMap fun (spelling, flag) =>
      if spelling.startsWith name then some (spelling, flag, value.map fun v => (true, v))
      else none
  else
    let short := String.ofList (arg.toList.take 2)
    let value := String.ofList (arg.toList.drop 2)
    (spelled flags).filterMap fun (spelling, flag) =>
      if spelling == short then some (spelling, flag, some (false, value))
      else if spelling.startsWith arg then some (spelling, flag, none)
      else none

/-- The option whose spelling stands before an equals sign. -/
def exactWithValue? (flags : List Flag) (arg : String) : Option Shape :=
  match cutAtEquals arg with
  | (name, some value) =>
    ((spelled flags).lookup name).map fun flag => .option flag (some (true, value))
  | (_, none) => none

/-- What an argument before two dashes alone is, or the error of one that could
be several options. -/
def shapeOf (flags : List Flag) (arg : String) : Except String Shape :=
  if !arg.startsWith "-" then .ok .plain
  else
    match (spelled flags).lookup arg with
    | some flag => .ok (.option flag none)
    | none =>
      if arg == "-" then .ok .plain
      else
        match exactWithValue? flags arg with
        | some shape => .ok shape
        | none =>
          match candidates flags arg with
          | [(_, flag, tail)] => .ok (.option flag tail)
          | [] =>
            if isNegativeNumber arg || arg.contains ' ' then .ok .plain else .ok .unknown
          | several =>
            .error ("ambiguous option: " ++ arg ++ " could match " ++
              String.intercalate ", " (several.map (·.1)))

/-- What each argument is. -/
def shapesOf (flags : List Flag) : List String → Except String (List (String × Shape))
  | [] => .ok []
  | arg :: rest =>
    if arg == "--" then .ok ((arg, .dashes) :: rest.map fun other => (other, .plain))
    else do
      let shape ← shapeOf flags arg
      let shapes ← shapesOf flags rest
      pure ((arg, shape) :: shapes)

end IntegrationBuild.CommandLine
