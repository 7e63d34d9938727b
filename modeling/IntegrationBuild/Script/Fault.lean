import IntegrationBuild.Script.Source

/-!
Faults of a script.  The lenient reading of a script accepts some texts that
the language itself refuses; each of them leaves a fault with its place, and a
script without faults is one that the language accepts.
-/

namespace IntegrationBuild.Script

/-- A stretch of a script. -/
structure Span where
  start : Position
  stop : Position
deriving DecidableEq, Repr, Inhabited

/-- The head of a block as messages name it, and its line. -/
structure Header where
  phrase : String
  line : Nat
deriving DecidableEq, Repr, Inhabited

/-- The head of a block that belongs to a statement of the given word. -/
def Header.statement (word : String) (start : Position) : Header :=
  ⟨"'" ++ word ++ "' statement", start.line⟩

/-- What the language refuses although it can be read. -/
inductive Cause where
  /-- A call written without its brackets, as in `print 'x'`. -/
  | bareCall (name : String)
  | mixedText
  | truncatedEscape
  | nonAsciiBytes
  | undecodable
  | leadingZeros
  | invalidNumber
  | invalidCharacter (c : Char)
  | unexpectedIndent
  | unmatchedDedent
  | inconsistentTabs
  /-- A statement that needs an indented block has none. -/
  | missingBlock (header : Header)
  | positionalAfterKeyword
  | positionalAfterUnpacking
  | unbracketedGenerator
  | defaultOrder
  | invalidTarget
  | trailingComma
  | invalidSyntax
deriving DecidableEq, Repr, Inhabited

/-- The upper-case hexadecimal digits of a code point, at least four. -/
def codeDigits (c : Char) : String :=
  let digits := (Nat.toDigits 16 c.toNat).map Char.toUpper
  String.ofList (List.replicate (4 - digits.length) '0' ++ digits)

/-- The class of error that a cause belongs to. -/
def Cause.errorClass : Cause → String
  | unexpectedIndent | unmatchedDedent | missingBlock _ => "IndentationError"
  | inconsistentTabs => "TabError"
  | _ => "SyntaxError"

/-- The text of a cause. -/
def Cause.message : Cause → String
  | bareCall name =>
    "Missing parentheses in call to '" ++ name ++ "'. Did you mean " ++ name ++
      "(...)?"
  | mixedText => "cannot mix bytes and nonbytes literals"
  | truncatedEscape => "(unicode error) truncated escape"
  | undecodable => "(unicode error) 'utf-8' codec can't decode the text"
  | nonAsciiBytes => "bytes can only contain ASCII literal characters"
  | leadingZeros =>
    "leading zeros in decimal integer literals are not permitted; use an 0o " ++
      "prefix for octal integers"
  | invalidNumber => "invalid decimal literal"
  | invalidCharacter c =>
    "invalid non-printable character U+" ++ codeDigits c
  | unexpectedIndent => "unexpected indent"
  | unmatchedDedent =>
    "unindent does not match any outer indentation level"
  | inconsistentTabs => "inconsistent use of tabs and spaces in indentation"
  | missingBlock header =>
    "expected an indented block after " ++ header.phrase ++ " on line " ++ toString header.line
  | positionalAfterKeyword => "positional argument follows keyword argument"
  | positionalAfterUnpacking =>
    "positional argument follows keyword argument unpacking"
  | unbracketedGenerator => "Generator expression must be parenthesized"
  | defaultOrder => "non-default argument follows default argument"
  | invalidTarget => "cannot assign to expression here"
  | trailingComma =>
    "trailing comma not allowed without surrounding parentheses"
  | invalidSyntax => "invalid syntax"

/-- A cause with its place. -/
structure Fault where
  cause : Cause
  span : Span
deriving DecidableEq, Repr, Inhabited

end IntegrationBuild.Script
