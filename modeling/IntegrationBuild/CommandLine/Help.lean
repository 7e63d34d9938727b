/-!
The texts with which the command line explains itself.
-/

namespace IntegrationBuild.CommandLine

/-- The commands. -/
inductive CommandName where
  | init
  | generate
  | compile
  | verify
deriving DecidableEq, Repr

namespace CommandName

/-- All commands, in the order in which they are listed. -/
def all : List CommandName := [.init, .generate, .compile, .verify]

/-- The word for a command. -/
def text : CommandName → String
  | .init => "init"
  | .generate => "generate"
  | .compile => "compile"
  | .verify => "verify"

/-- The command of a word. -/
def ofText? (word : String) : Option CommandName :=
  all.find? fun name => name.text == word

end CommandName

/-- The name of the program. -/
def program : String := "nango-compiler"

/-- The name of the program with a command. -/
def programOf : Option CommandName → String
  | none => program
  | some name => program ++ " " ++ name.text

/-- Lines, each ended by a line feed. -/
def linesText (lines : List String) : String :=
  String.join (lines.map (· ++ "\n"))

/-- How the program or a command is called. -/
def usageLines : Option CommandName → List String
  | none => ["usage: nango-compiler [-h] [--debug] \x7binit,generate,compile,verify\x7d ..."]
  | some .init => ["usage: nango-compiler init [-h] [root]"]
  | some .generate => ["usage: nango-compiler generate [-h] [root]"]
  | some .compile =>
    ["usage: nango-compiler compile [-h] [--out-dir OUT_DIR] [--workers WORKERS]",
      "                              [root]"]
  | some .verify => ["usage: nango-compiler verify [-h] [--models MODELS] [root]"]

/-- What the arguments of the program or a command mean. -/
def argumentLines : Option CommandName → List String
  | none =>
    ["positional arguments:",
      "  \x7binit,generate,compile,verify\x7d",
      "    init                Create an example project",
      "    generate            Generate models and scaffold missing scripts",
      "    compile             Compile all scripts",
      "    verify              Verify the generated models are up to date",
      "",
      "options:",
      "  -h, --help            show this help message and exit",
      "  --debug               Log debug events to stderr"]
  | some .compile =>
    ["positional arguments:",
      "  root               Project root holding nango.yaml (default: .)",
      "",
      "options:",
      "  -h, --help         show this help message and exit",
      "  --out-dir OUT_DIR  Output directory for compiled scripts (default: config",
      "                     output dir)",
      "  --workers WORKERS  Number of scripts compiled in parallel (default: config",
      "                     workers)"]
  | some .verify =>
    ["positional arguments:",
      "  root             Project root holding nango.yaml (default: .)",
      "",
      "options:",
      "  -h, --help       show this help message and exit",
      "  --models MODELS  Generated models module (default: config models file)"]
  | some _ =>
    ["positional arguments:",
      "  root        Project root holding nango.yaml (default: .)",
      "",
      "options:",
      "  -h, --help  show this help message and exit"]

/-- The help of the program or a command. -/
def helpText (name : Option CommandName) : String :=
  linesText (usageLines name ++ [""] ++ argumentLines name)

/-- What is written when arguments are wrong. -/
def usageError (name : Option CommandName) (message : String) : String :=
  linesText (usageLines name ++ [programOf name ++ ": error: " ++ message])

end IntegrationBuild.CommandLine
