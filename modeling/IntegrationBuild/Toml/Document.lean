import IntegrationBuild.Toml.Scalar
import IntegrationBuild.Toml.Table

/-!
TOML documents.  A document is a sequence of statements, one a line: a key with
its value, the header of a table, or the header of the next item of a list of
tables.
-/

namespace IntegrationBuild.Toml

/-- Whether a character can stand in a key without quotes. -/
def isBare (c : Char) : Bool :=
  c.isAlphanum || c == '-' || c == '_'

/-- Reads one name of a key. -/
def readName : List Char → Option (String × List Char)
  | '"' :: rest => readBasic (rest.length + 1) rest []
  | '\'' :: rest => readLiteral rest []
  | s =>
    match s.takeWhile isBare with
    | [] => none
    | name => some (String.ofList name, s.dropWhile isBare)

/-- Reads a dotted key and the blanks after it. -/
def readKeyFrom : Nat → List Char → Option (Key × List Char)
  | 0, _ => none
  | fuel + 1, s => do
    let (name, rest) ← readName s
    match skipBlanks rest with
    | '.' :: rest =>
      let (key, rest) ← readKeyFrom fuel (skipBlanks rest)
      some (name :: key, rest)
    | rest => some ([name], rest)

/-- Reads a dotted key and the blanks after it. -/
def readKey (s : List Char) : Option (Key × List Char) :=
  readKeyFrom (s.length + 1) s

/-- Skips a comment up to the end of its line. -/
def skipComment : List Char → Option (List Char)
  | '#' :: rest =>
    let comment := rest.takeWhile (· != '\n')
    if comment.any isControl then none else some (rest.dropWhile (· != '\n'))
  | s => some s

/-- Skips the space, line breaks and comments between the items of a list. -/
def skipBetween : Nat → List Char → Option (List Char)
  | 0, s => some s
  | fuel + 1, s =>
    match skipSpace s with
    | '#' :: rest => (skipComment ('#' :: rest)).bind (skipBetween fuel)
    | rest => some rest

mutual

/-- Reads a value. -/
def readValue : Nat → List Char → Option (Value × List Char)
  | 0, _ => none
  | fuel + 1, s =>
    match s with
    | '[' :: rest => readItems fuel rest []
    | '\x7b' :: rest =>
      match skipBlanks rest with
      | '\x7d' :: rest => some (.mapping [], rest)
      | rest => readMembers fuel rest [] []
    | s => readScalar s

/-- Reads the items of a list that are left, up to its closing bracket. -/
def readItems : Nat → List Char → List Value → Option (Value × List Char)
  | 0, _, _ => none
  | fuel + 1, s, acc => do
    match ← skipBetween s.length s with
    | ']' :: rest => some (.list acc.reverse, rest)
    | s =>
      let (item, rest) ← readValue fuel s
      match ← skipBetween rest.length rest with
      | ']' :: rest => some (.list (item :: acc).reverse, rest)
      | ',' :: rest => readItems fuel rest (item :: acc)
      | _ => none

/-- Reads the members of an inline table up to its closing brace. -/
def readMembers : Nat → List Char → Entries → List Key → Option (Value × List Char)
  | 0, _, _, _ => none
  | fuel + 1, s, table, frozen => do
    let (key, rest) ← readKey s
    let rest ← after '=' rest
    let (value, rest) ← readValue fuel (skipBlanks rest)
    let (table, frozen) ← addInline table frozen key value
    match skipBlanks rest with
    | '\x7d' :: rest => some (.mapping table, rest)
    | ',' :: rest => readMembers fuel (skipBlanks rest) table frozen
    | _ => none

end

/-- Reads a key with its value and adds it to the document. -/
def readEntry (doc : Assembly) (s : List Char) : Option (Assembly × List Char) := do
  let (key, rest) ← readKey s
  let rest ← after '=' rest
  let (value, rest) ← readValue (2 * rest.length + 2) (skipBlanks rest)
  let doc ← doc.add key value
  some (doc, rest)

/-- Reads one statement, which is not empty. -/
def readStatement (doc : Assembly) (s : List Char) : Option (Assembly × List Char) :=
  match s with
  | '[' :: '[' :: rest => do
    let (key, rest) ← readKey (skipBlanks rest)
    let doc ← doc.openItem key
    some (doc, ← after ']' (← after ']' rest))
  | '[' :: rest => do
    let (key, rest) ← readKey (skipBlanks rest)
    let doc ← doc.openTable key
    some (doc, ← after ']' rest)
  | '#' :: _ => some (doc, s)
  | s => readEntry doc s

/-- Reads the statements of a document, one a line. -/
def readStatements : Nat → Assembly → List Char → Option Assembly
  | 0, _, _ => none
  | fuel + 1, doc, s =>
    match skipBlanks s with
    | [] => some doc
    | '\n' :: rest => readStatements fuel doc rest
    | s => do
      let (doc, rest) ← readStatement doc s
      match ← skipComment (skipBlanks rest) with
      | [] => some doc
      | '\n' :: rest => readStatements fuel doc rest
      | _ => none

/-- Turns a carriage return with a line feed into a line feed. -/
def joinBreaks : List Char → List Char
  | '\r' :: '\n' :: rest => '\n' :: joinBreaks rest
  | c :: rest => c :: joinBreaks rest
  | [] => []

/-- The top table of a document. -/
def parse? (text : String) : Option Entries :=
  let s := joinBreaks text.toList
  (readStatements (s.length + 1) {} s).map (·.table)

end IntegrationBuild.Toml
