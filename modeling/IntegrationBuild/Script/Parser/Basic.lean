import IntegrationBuild.Script.Token
import IntegrationBuild.Script.Tree

/-!
Reading trees from tokens.  A parser takes tokens from the front of the list or
fails.  The rules of the grammar refer to each other, so each is written over a
`Grammar`, which stands for the rules one level below; the levels are as many
as there are tokens, since every reference comes after a token is taken.
-/

namespace IntegrationBuild.Script

/-- The state of reading trees: the tokens left and their number, where the
last one ended, and the indentation of the block around. -/
structure ParseState where
  tokens : List Token
  left : Nat
  last : Position
  level : Nat
deriving Inhabited

/-- A function that reads something from the front of the tokens. -/
abbrev Parser := StateT ParseState Option

/-- The rules that the grammar refers back to. -/
inductive Rule where
  /-- An expression. -/
  | expression
  /-- An expression that may name its value. -/
  | named
  /-- An item of a display: a named expression or an unpacked one. -/
  | item
  /-- Expressions with commas between them. -/
  | expressions
  /-- An expression without comparison, as a target or an unpacked value. -/
  | operand
  /-- An operand of a sign. -/
  | factor
  /-- An expression without a condition. -/
  | disjunction
  /-- An operand of `not`. -/
  | inversion
  /-- A pattern. -/
  | pattern
  /-- The block after a colon, with the head it belongs to. -/
  | suite (header : Header)
deriving DecidableEq, Repr

/-- How each rule is read. -/
abbrev Grammar := Rule → Parser Tree

namespace Parser

/-- The kind of the `i`-th token ahead. -/
def peekAt (i : Nat) : Parser TokenKind := do
  return ((← get).tokens[i]?.map Token.kind).getD .stop

/-- The kind of the next token. -/
def peek : Parser TokenKind := peekAt 0

/-- Where the next token begins. -/
def here : Parser Position := do
  let s ← get
  return (s.tokens.head?.map fun t => t.span.start).getD s.last

/-- Takes the next token. -/
def take : Parser Token := do
  let s ← get
  match s.tokens with
  | [] => failure
  | t :: rest =>
    set { s with tokens := rest, left := s.left - 1, last := t.span.stop }
    return t

/-- Takes the next token if it is of the given kind. -/
def accept (kind : TokenKind) : Parser Bool := do
  if (← peek) == kind then
    discard take
    return true
  else return false

/-- Takes the next token, which must be of the given kind. -/
def expect (kind : TokenKind) : Parser Unit := do
  if (← peek) == kind then discard take else failure

/-- Takes a mark if it comes next. -/
def acceptMark (mark : Symbol) : Parser Bool := accept (.symbol mark)

/-- Takes a mark. -/
def mark (mark : Symbol) : Parser Unit := expect (.symbol mark)

/-- Takes a reserved word if it comes next. -/
def acceptWord (word : Keyword) : Parser Bool := accept (.keyword word)

/-- Takes a reserved word. -/
def word (word : Keyword) : Parser Unit := expect (.keyword word)

/-- Takes a name. -/
def name : Parser String := do
  match ← peek with
  | .name text => discard take; return text
  | _ => failure

/-- The stretch from a place to the end of the last token. -/
def spanFrom (start : Position) : Parser Span := do
  return ⟨start, (← get).last⟩

/-- A node that begins at a place and ends with the last token. -/
def node (kind : Kind) (start : Position) (children : List Tree) : Parser Tree := do
  return .node kind (← spanFrom start) children

/-- A note that the language refuses what begins at a place. -/
def fault (cause : Cause) (start : Position) : Parser Tree :=
  node (.fault cause) start []

/-- The note of a fault, if a condition holds. -/
def faultIf (condition : Bool) (cause : Cause) (start : Position) : Parser (List Tree) := do
  if condition then return [← fault cause start] else return []

/-- Reads as many things as there are, at most `fuel`. -/
def collect {α : Type} (p : Parser (Option α)) : Nat → Parser (List α)
  | 0 => failure
  | fuel + 1 => do
    match ← p with
    | none => return []
    | some a => return a :: (← collect p fuel)

/-- Reads things until there is none; each takes a token. -/
def many {α : Type} (p : Parser (Option α)) : Parser (List α) := do
  collect p ((← get).left + 1)

/-- Reads things with commas between them and possibly after them, as long as
`more` holds of what comes next.  Gives whether the last token was a comma. -/
def separated {α : Type} (more : TokenKind → Bool) (p : Parser α) : Parser (List α × Bool) := do
  let first ← p
  let rest ← many do
    if (← peek) == .symbol .comma && more (← peekAt 1) then
      discard take
      return some (← p)
    else return none
  let trailing ← acceptMark .comma
  return (first :: rest, trailing)

/-- Reads with the first parser; if that fails, with the second. -/
def either {α : Type} (p q : Parser α) : Parser α := fun s =>
  match p s with
  | some result => some result
  | none => q s

end Parser

end IntegrationBuild.Script
