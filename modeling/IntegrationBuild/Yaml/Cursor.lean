/-!
A place in a YAML text: what is left of it, and the line and column reached.
Beyond the end every character reads as NUL, which no text contains.
-/

namespace IntegrationBuild.Yaml

/-- A place in a text. -/
structure Cursor where
  rest : List Char
  index : Nat := 0
  line : Nat := 0
  column : Nat := 0
deriving Inhabited

/-- Whether `c` breaks a line. -/
def isBreak (c : Char) : Bool :=
  c == '\n' || c == '\r' || c == '\x85' || c == '\u2028' || c == '\u2029'

/-- Whether `c` breaks a line or ends the text. -/
def isBreakOrEnd (c : Char) : Bool :=
  isBreak c || c == '\x00'

/-- Whether `c` is a blank, breaks a line or ends the text. -/
def isBreakOrSpace (c : Char) : Bool :=
  isBreakOrEnd c || c == ' '

/-- Whether `c` is a blank or a tab, breaks a line or ends the text. -/
def isBlankOrEnd (c : Char) : Bool :=
  isBreakOrSpace c || c == '\t'

namespace Cursor

/-- The character `k` places ahead. -/
def peek (s : Cursor) (k : Nat) : Char :=
  s.rest.getD k '\x00'

/-- The next character. -/
def next (s : Cursor) : Char :=
  s.peek 0

/-- Steps over one character. -/
def step (s : Cursor) : Cursor :=
  match s.rest with
  | [] => s
  | c :: rest =>
    let breaks := isBreak c && !(c == '\r' && rest.head? == some '\n')
    if breaks then { rest := rest, index := s.index + 1, line := s.line + 1, column := 0 }
    else
      { rest := rest, index := s.index + 1, line := s.line
        column := if c == '\ufeff' then s.column else s.column + 1 }

/-- Steps over `n` characters. -/
def forward (s : Cursor) : Nat → Cursor
  | 0 => s
  | n + 1 => s.step.forward n

/-- The next `n` characters. -/
def lookahead (s : Cursor) (n : Nat) : List Char :=
  s.rest.take n

/-- Steps over the characters of a class; gives them too. -/
def spanWhile (s : Cursor) (p : Char → Bool) : List Char × Cursor :=
  let taken := s.rest.takeWhile p
  (taken, s.forward taken.length)

/-- Steps over the characters of a class. -/
def skipWhile (s : Cursor) (p : Char → Bool) : Cursor :=
  (s.spanWhile p).2

/-- Steps over blanks. -/
def skipSpaces (s : Cursor) : Cursor :=
  s.skipWhile (· == ' ')

/-- Steps over blanks, up to a column. -/
def skipSpacesTo (s : Cursor) (column : Nat) : Cursor :=
  let n := (s.rest.takeWhile (· == ' ')).length
  s.forward (min n (column - s.column))

/-- Steps over a comment, if there is one. -/
def skipComment (s : Cursor) : Cursor :=
  if s.next == '#' then s.skipWhile fun c => !isBreakOrEnd c else s

/-- Steps over a line break, if there is one; gives its text, where all but
the two Unicode separators read as a line feed. -/
def lineBreak (s : Cursor) : List Char × Cursor :=
  let c := s.next
  if c == '\r' && s.peek 1 == '\n' then (['\n'], s.forward 2)
  else if c == '\n' || c == '\r' || c == '\x85' then (['\n'], s.step)
  else if c == '\u2028' || c == '\u2029' then ([c], s.step)
  else ([], s)

/-- Whether a line begins here that starts or ends a document. -/
def atDocumentMark (s : Cursor) : Bool :=
  let mark := s.lookahead 3
  (mark == ['-', '-', '-'] || mark == ['.', '.', '.']) && isBlankOrEnd (s.peek 3)

end Cursor

end IntegrationBuild.Yaml
