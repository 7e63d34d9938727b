import IntegrationBuild.Script.Placement
import IntegrationBuild.Script.Read
import IntegrationBuild.Text.Blank
import IntegrationBuild.Text.Quoted

/-!
Whether the language compiles a script.  The bytes are decoded as the script
itself declares, read strictly, and checked for names and places.  An error is
shown with the name of the file, the line, and, where the text of the line is
at hand, the line with marks below the part that is refused.
-/

namespace IntegrationBuild.Script

/-! ### Declared encodings -/

/-- The encodings in which scripts can be read. -/
inductive Encoding where
  | utf8
  | latin1
  | ascii
deriving DecidableEq, Repr, Inhabited

/-- Whether a character may stand in the name of an encoding. -/
def isEncodingChar (c : Char) : Bool :=
  c.isAlphanum || c == '-' || c == '_' || c == '.'

/-- The name after `coding:` or `coding=` in a comment. -/
def declaredIn : List Char → Option (List Char)
  | [] => none
  | c :: rest =>
    let text := c :: rest
    let after := text.drop 6
    if text.take 6 == ['c', 'o', 'd', 'i', 'n', 'g'] &&
        (after.head? == some ':' || after.head? == some '=') then
      let name := ((after.drop 1).dropWhile fun c => c == ' ' || c == '\t').takeWhile isEncodingChar
      if name.isEmpty then declaredIn rest else some name
    else declaredIn rest

/-- The blanks that may begin a line. -/
def isLineBlank (c : Char) : Bool :=
  c == ' ' || c == '\t' || c == '\x0c'

/-- The name of the encoding that one of the first two lines declares; the
second counts only if the first is empty or a comment. -/
def declaredEncoding? (text : List Char) : Option (List Char) :=
  let first := text.takeWhile (· != '\n')
  let second := (text.drop (first.length + 1)).takeWhile (· != '\n')
  let comment (line : List Char) : Option (List Char) :=
    match line.dropWhile isLineBlank with
    | '#' :: rest => declaredIn rest
    | _ => none
  let open? : Bool :=
    match first.dropWhile isLineBlank with
    | [] => true
    | c :: _ => c == '#'
  match comment first with
  | some name => some name
  | none => if open? then comment second else none

/-- The usual spelling of an encoding's name. -/
def normalEncodingName (name : List Char) : String :=
  let lower := (name.take 12).map fun c => if c == '_' then '-' else c.toLower
  let text := String.ofList lower
  let named (base : String) : Bool := text == base || text.startsWith (base ++ "-")
  if named "utf-8" then "utf-8"
  else if named "latin-1" || named "iso-8859-1" || named "iso-latin-1" then "iso-8859-1"
  else String.ofList name

/-- The encoding of a name. -/
def encoding? : String → Option Encoding
  | "utf-8" | "utf8" => some .utf8
  | "iso-8859-1" | "latin1" | "l1" | "8859" | "cp819" => some .latin1
  | "ascii" | "us-ascii" | "646" => some .ascii
  | _ => none

/-- Turns every line break into a line feed. -/
def unifyRunes : List Rune → List Rune
  | [] => []
  | r :: rest =>
    if r.char == '\r' then
      if (rest.head?.map Rune.char) == some '\n' then unifyRunes rest
      else { r with char := '\n' } :: unifyRunes rest
    else r :: unifyRunes rest

/-- The rune of a byte that stands for a character of its own. -/
def byteRune (b : UInt8) : Rune :=
  Rune.ofChar (Char.ofNat b.toNat)

/-- The error of a byte at a place that is no ASCII character. -/
def notAscii (byte place : Nat) : String :=
  "'ascii' codec can't decode byte 0x" ++ String.ofList (Text.hexDigits 2 byte) ++
    " in position " ++ toString place ++ ": ordinal not in range(128)"

/-- The runes of a script as its bytes declare them, without a mark at the
start, or why they cannot be decoded. -/
def declaredRunes (content : ByteArray) : Except String (List Rune) :=
  let bytes := content.toList
  let marked := bytes.take 3 == [0xef, 0xbb, 0xbf]
  let bytes := if marked then bytes.drop 3 else bytes
  let head := (bytes.take 500).map fun b => Char.ofNat b.toNat
  let name := (declaredEncoding? (Text.unifyLineBreaks head)).map normalEncodingName
  match name with
  | none | some "utf-8" => .ok (unifyRunes (runesOfBytes bytes))
  | some name =>
    if marked then .error ("encoding problem: " ++ name ++ " with BOM")
    else
      match encoding? name with
      | some .utf8 => .ok (unifyRunes (runesOfBytes bytes))
      | some .latin1 =>
        .ok (unifyRunes (bytes.map byteRune))
      | some .ascii =>
        let runes := unifyRunes (bytes.map byteRune)
        match runes.find? (128 ≤ ·.char.toNat) with
        | none => .ok runes
        | some r => .error (notAscii r.char.toNat (runes.findIdx (128 ≤ ·.char.toNat)))
      | none => .error ("unknown encoding: " ++ name)

/-! ### How errors are shown -/

/-- A line of marks below the part of a line from `first` up to `last`, both
counted from one, or no line if the part begins before the text. -/
def markLine (text : List Char) (indent first last : Nat) : List String :=
  let last := if last == first then first + 1 else last
  if first ≤ indent then []
  else
    let column := first - 1 - indent
    let blanks := (text.take column).map fun c => if Text.isBlank c then c else ' '
    ["    " ++ String.ofList blanks ++ String.ofList (List.replicate (last - first) '^')]

/-- The line of an error and the marks below it. -/
def shownLine (line : List Char) (first last : Nat) : List String :=
  let text := line.dropWhile fun c => c == ' ' || c == '\x0c'
  ("    " ++ String.ofList text) :: markLine text (line.length - text.length) first last

/-- An error in a file: its line, what is shown of it, and its text. -/
def errorText (name : String) (line : Nat) (shown : List String) (text : String) : String :=
  String.intercalate "\n"
    (("File \"" ++ name ++ "\", line " ++ toString line) :: shown ++ [text])

/-- The runes of a line, counted from one. -/
def lineRunes (line : Nat) : List Rune → List Rune
  | [] => []
  | r :: rest =>
    if line ≤ 1 then (r :: rest).takeWhile (·.char != '\n')
    else lineRunes (if r.char == '\n' then line - 1 else line) rest

/-- The number of characters before a column in bytes. -/
def charsBefore (column : Nat) : List Rune → Nat
  | [] => 0
  | r :: rest => if column < r.width then 0 else charsBefore (column - r.width) rest + 1

/-- The last part of a file's name. -/
def lastPart (name : String) : String :=
  String.ofList (name.toList.reverse.takeWhile (· != '/')).reverse

/-- A fault as it is shown, with its line.  Faults of indentation are told in
one line. -/
def faultText (name : String) (runes : List Rune) (fault : Fault) : String :=
  let start := fault.span.start
  let stop := fault.span.stop
  let line := lineRunes start.line runes
  let first := charsBefore start.column line + 1
  let last := if stop.line == start.line then charsBefore stop.column line + 1 else line.length + 1
  if fault.cause.errorClass == "SyntaxError" then
    errorText name start.line (shownLine (line.map Rune.char) first last)
      ("SyntaxError: " ++ fault.cause.message)
  else
    "Sorry: " ++ fault.cause.errorClass ++ ": " ++ fault.cause.message ++ " (" ++ lastPart name ++
      ", line " ++ toString start.line ++ ")"

/-- A refusal as it is shown, with its line if that is at hand. -/
def refusalText (name : String) (line? : Nat → Option (List Char)) (refusal : Refusal) : String :=
  let start := refusal.span.start
  let shown :=
    match line? start.line with
    | some line => shownLine line (start.column + 1) (refusal.span.stop.column + 1)
    | none => []
  errorText name start.line shown ("SyntaxError: " ++ refusal.text)

/-- The error of compiling a script under a name, if there is one.  `line?`
gives the lines of the file that the name leads to. -/
def compileError? (name : String) (line? : Nat → Option (List Char)) (content : ByteArray) :
    Option String :=
  match declaredRunes content with
  | .error text => some (errorText name 0 [] ("SyntaxError: " ++ text))
  | .ok runes =>
    match readTree? .strict Text.normalize runes with
    | none => some (errorText name 1 [] "SyntaxError: invalid syntax")
    | some (_, fault :: _) => some (faultText name runes fault)
    | some (tree, []) => (refusal? tree).map (refusalText name line?)

end IntegrationBuild.Script
