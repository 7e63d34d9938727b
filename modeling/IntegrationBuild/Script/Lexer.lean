import IntegrationBuild.Script.Escape
import IntegrationBuild.Script.Token
import IntegrationBuild.Text.Identifier

/-!
Tokens of a script.  The lexer keeps a stack of what is open around the place
it has reached: brackets, texts with fields, the fields in them and the format
texts of the fields.  Line breaks separate statements only where nothing is
open.
-/

namespace IntegrationBuild.Script

/-- How a script is read.  The lenient reading is about bytes as they stand
and takes blanks of any kind; the strict one is about text with unified line
breaks and measures indentation in tab stops. -/
inductive Reading where
  | lenient
  | strict
deriving DecidableEq, Repr, Inhabited

/-- How a quoted literal is delimited. -/
structure Quote where
  mark : Char
  triple : Bool
  raw : Bool
deriving DecidableEq, Repr, Inhabited

/-- The number of quote marks at each end. -/
def Quote.size (q : Quote) : Nat :=
  if q.triple then 3 else 1

/-- Whether the runes begin with the closing marks. -/
def Quote.closes (q : Quote) (runes : List Rune) : Bool :=
  let marks := runes.take q.size
  marks.length == q.size && marks.all (·.char == q.mark)

/-- Something open around a place in a script. -/
inductive Frame where
  | bracket (closing : Symbol)
  | formatted (quote : Quote)
  | field
  | spec
deriving DecidableEq, Repr, Inhabited

/-- The state of reading tokens; tokens and faults stand newest first. -/
structure LexState where
  rest : List Rune
  position : Position := Position.first
  frames : List Frame := []
  tokens : List Token := []
  faults : List Fault := []
  /-- The open indentations, measured with tabs at their stops and as one column. -/
  levels : List (Nat × Nat) := []
  lineStart : Bool := true
  broken : Bool := false
deriving Inhabited

namespace LexState

/-- Steps over `n` runes. -/
def advance (s : LexState) (n : Nat) : LexState :=
  { s with rest := s.rest.drop n, position := s.position.afterAll (s.rest.take n) }

/-- Steps over `n` runes, which make a token. -/
def emit (s : LexState) (kind : TokenKind) (n : Nat) : LexState :=
  let t := s.advance n
  { t with
    tokens := ⟨kind, ⟨s.position, t.position⟩, s.broken⟩ :: s.tokens
    broken := false }

/-- Notes a fault at the next `n` runes. -/
def fault (s : LexState) (cause : Cause) (n : Nat) : LexState :=
  { s with faults := ⟨cause, ⟨s.position, (s.advance n).position⟩⟩ :: s.faults }

/-- Notes a fault at the next `n` runes if a condition holds. -/
def faultIf (s : LexState) (condition : Bool) (cause : Cause) (n : Nat) : LexState :=
  if condition then s.fault cause n else s

/-- Opens a frame. -/
def push (s : LexState) (frame : Frame) : LexState :=
  { s with frames := frame :: s.frames }

/-- Closes the innermost frame. -/
def pop (s : LexState) : LexState :=
  { s with frames := s.frames.tail }

/-- The `i`-th rune ahead, as a character; NUL beyond the end. -/
def peek (s : LexState) (i : Nat) : Char :=
  (s.rest[i]?.map Rune.char).getD '\x00'

end LexState

/-! ### Indentation -/

/-- The blanks at the start of a line, with the line breaks among them that a
backslash takes away. -/
def leadingBlanks : List Rune → List Rune
  | [] => []
  | r :: rest =>
    if r.isBlank then r :: leadingBlanks rest
    else if r.char == '\\' then
      match rest with
      | n :: rest =>
        if n.char == '\n' then r :: n :: leadingBlanks rest
        else if n.char == '\r' then
          match rest with
          | m :: rest => if m.char == '\n' then r :: n :: m :: leadingBlanks rest else []
          | [] => []
        else []
      | [] => []
    else []

/-- An indentation while it is measured: the width so far, and the width before
the first backslash if that is not zero. -/
structure Indentation where
  width : Nat := 0
  fixed : Nat := 0

/-- The width of an indentation. -/
def Indentation.total (i : Indentation) : Nat :=
  if i.fixed == 0 then i.width else i.fixed

/-- The indentation of the blanks that begin a line, where `tab` says what a
tab makes of a width.  A form feed starts again. -/
def measure (tab : Nat → Nat) (blanks : List Rune) : Nat :=
  (blanks.foldl
    (fun (i : Indentation) r =>
      if r.char == ' ' then { i with width := i.width + 1 }
      else if r.char == '\t' then { i with width := tab i.width }
      else if r.char == '\\' then { i with fixed := i.total }
      else if r.char == '\n' then i
      else { i with width := 0 })
    {}).total

/-- The indentation of the blanks that begin a line: in the lenient reading a
tab is eight columns wide; in the strict one it goes to the next tab stop. -/
def indentWidth : Reading → List Rune → Nat
  | .lenient, blanks =>
    let counted := blanks.takeWhile fun r =>
      r.char == ' ' || r.char == '\t' || r.char == '\x0c' || r.char == '\r' || r.char == '\\' ||
        r.char == '\n'
    measure (· + 8) (counted.filter (·.char != '\\'))
  | .strict, blanks => measure (fun width => (width / 8 + 1) * 8) blanks

/-- The indentation of the blanks that begin a line, with tabs one column wide. -/
def indentColumns (blanks : List Rune) : Nat :=
  measure (· + 1) blanks

/-- Enters a line of the given indentation: what it faults, and the open
indentations afterwards. -/
def enterLevel (levels : List (Nat × Nat)) (width columns : Nat) :
    Option Cause × List (Nat × Nat) :=
  match levels with
  | [] =>
    if width == 0 then (if columns == 0 then none else some .inconsistentTabs, [])
    else (if columns == 0 then some .inconsistentTabs else none, [(width, columns)])
  | (w, c) :: outer =>
    if width == w then (if columns == c then none else some .inconsistentTabs, levels)
    else if w < width then
      (if columns ≤ c then some .inconsistentTabs else none, (width, columns) :: levels)
    else
      let kept := outer.dropWhile fun level => width < level.1
      match kept with
      | [] =>
        if width == 0 then (none, []) else (some .unmatchedDedent, [])
      | (w', c') :: _ =>
        if width != w' then (some .unmatchedDedent, kept)
        else (if columns == c' then none else some .inconsistentTabs, kept)

/-! ### Quoted literals -/

/-- How many runes after a backslash belong to it. -/
def escapedLength (rest : List Rune) : Nat :=
  if (rest[0]?.map Rune.char) == some '\r' && (rest[1]?.map Rune.char) == some '\n' then 2 else 1

/-- The runes of a literal up to its closing marks, of which the first `skip`
follow a backslash. -/
def quotedBody? (q : Quote) : Nat → List Rune → Option (List Rune)
  | _, [] => none
  | skip + 1, r :: rest => (quotedBody? q skip rest).map (r :: ·)
  | 0, r :: rest =>
    if q.closes (r :: rest) then some []
    else if r.char == '\\' then (quotedBody? q (escapedLength rest) rest).map (r :: ·)
    else if r.char == '\n' && !q.triple then none
    else (quotedBody? q 0 rest).map (r :: ·)

/-- How many runes after a backslash belong to it in a text with fields, where
a brace keeps its meaning. -/
def escapedFormattedLength (q : Quote) (rest : List Rune) : Nat :=
  let next := (rest[0]?.map Rune.char).getD '\x00'
  if next == '\x7b' || next == '\x7d' then 0
  else if next == 'N' && !q.raw && (rest[1]?.map Rune.char) == some '\x7b' then
    (rest.takeWhile fun r => r.char != '\x7d').length + 1
  else escapedLength rest

/-- The runes of a text with fields up to its next field (`true`) or its
closing marks (`false`). -/
def formattedChunk? (q : Quote) : Nat → List Rune → Option (List Rune × Bool)
  | _, [] => none
  | skip + 1, r :: rest => (formattedChunk? q skip rest).map fun (chunk, b) => (r :: chunk, b)
  | 0, r :: rest =>
    let next := rest[0]?.map Rune.char
    if q.closes (r :: rest) then some ([], false)
    else if r.char == '\\' then
      (formattedChunk? q (escapedFormattedLength q rest) rest).map fun (chunk, b) =>
        (r :: chunk, b)
    else if r.char == '\x7b' && next != some '\x7b' then some ([], true)
    else if r.char == '\x7d' && next != some '\x7d' then none
    else if r.char == '\n' && !q.triple then none
    else
      let skip := if r.char == '\x7b' || r.char == '\x7d' then 1 else 0
      (formattedChunk? q skip rest).map fun (chunk, b) => (r :: chunk, b)

/-- Whether each `\x` in the text of bytes has its two digits. -/
def bytesReadable (body : List Char) : Bool :=
  match body with
  | [] => true
  | '\\' :: 'x' :: a :: b :: rest => (hexNumber? [a, b]).isSome && bytesReadable (a :: b :: rest)
  | '\\' :: 'x' :: _ => false
  | '\\' :: _ :: rest => bytesReadable rest
  | _ :: rest => bytesReadable rest

/-- Whether the letters before a quote mark may stand there together. -/
def validMarks (marks : List Char) : Bool :=
  [[], ['r'], ['u'], ['b'], ['f'], ['b', 'r'], ['r', 'b'], ['f', 'r'], ['r', 'f']].contains
    (marks.map Char.toLower)

/-- Whether a literal with the given quote may stand in a field of the texts
that are open. -/
def allowedInFields (frames : List Frame) (q : Quote) (body : List Rune) : Bool :=
  frames.all fun
    | .formatted outer =>
      (outer.mark != q.mark || (outer.triple && !q.triple)) && body.all (·.char != '\\')
    | _ => true

/-- Reads a literal whose marks are the next runes. -/
def lexQuoted (s : LexState) (marks : List Char) : Option LexState := do
  let before := marks.length
  let mark := s.peek before
  let triple := s.peek (before + 1) == mark && s.peek (before + 2) == mark
  let lower := marks.map Char.toLower
  let q : Quote := ⟨mark, triple, lower.contains 'r'⟩
  let opening := before + q.size
  let s := s.faultIf (!validMarks marks) .invalidSyntax opening
  if lower.contains 'f' then
    let s := s.faultIf (!allowedInFields s.frames q []) .invalidSyntax opening
    return (s.emit .formattedStart opening).push (.formatted q)
  else
    let body ← quotedBody? q 0 (s.rest.drop opening)
    let total := opening + body.length + q.size
    let text := Text.unifyLineBreaks (textOfRunes body)
    let s := s.faultIf (!allowedInFields s.frames q body) .invalidSyntax total
    let s := s.faultIf (body.any Rune.stray) .undecodable total
    if lower.contains 'b' then
      let s := s.faultIf (text.any (128 ≤ ·.toNat)) .nonAsciiBytes total
      let s := s.faultIf (!q.raw && !bytesReadable text) .truncatedEscape total
      return s.emit (.quoted .bytes none) total
    else
      let value := if q.raw then some text else unescape? text
      let s := s.faultIf value.isNone .truncatedEscape total
      let known := if validMarks marks then value else none
      return s.emit (.quoted .text (known.map String.ofList)) total

/-- Reads on in a text with fields: to the next field, or to its end. -/
def lexFormatted (s : LexState) (q : Quote) : Option LexState := do
  let (chunk, field) ← formattedChunk? q 0 s.rest
  let n := chunk.length
  let text := Text.unifyLineBreaks (textOfRunes chunk) ++ (if field then ['\x7b'] else [])
  let s := s.faultIf (!q.raw && (unescape? text).isNone) .truncatedEscape n
  let s := s.faultIf (chunk.any Rune.stray) .undecodable n
  let s := s.advance n
  if field then return (s.emit .fieldOpen 1).push .field
  else return (s.emit .formattedEnd q.size).pop

/-- Reads on in the format text of a field: to a field in it, or to its end. -/
def lexSpec (s : LexState) : Option LexState :=
  let n := (s.rest.takeWhile fun r =>
    r.char != '\x7b' && r.char != '\x7d' && r.char != '\n').length
  let s := s.advance n
  if s.peek 0 == '\x7b' then some ((s.emit .fieldOpen 1).push .field)
  else if s.peek 0 == '\x7d' then some (s.emit .fieldClose 1).pop
  else none

/-! ### Numbers -/

/-- Whether underscores stand only between digits. -/
def underscoresBetween (digits : List Char) : Bool :=
  digits.head? != some '_' && digits.getLast? != some '_' &&
    (digits.zip digits.tail).all fun (a, b) => !(a == '_' && b == '_')

/-- The length of the number that the text begins with, and what the language
refuses in it. -/
def number? (text : List Char) : Option (Nat × Option Cause) :=
  let digitOr (p : Char → Bool) (c : Char) : Bool := p c || c == '_'
  let radix (p : Char → Bool) (rest : List Char) : Option (Nat × Option Cause) :=
    let digits := rest.takeWhile (digitOr p)
    if digits.isEmpty then none
    else
      let fine := digits.getLast? != some '_' && underscoresBetween ('0' :: digits)
      some (digits.length + 2, if fine then none else some .invalidNumber)
  match text with
  | '0' :: 'x' :: rest => radix (fun c => (Json.hexValue? c).isSome) rest
  | '0' :: 'X' :: rest => radix (fun c => (Json.hexValue? c).isSome) rest
  | '0' :: 'o' :: rest => radix (fun c => (octalDigit? c).isSome) rest
  | '0' :: 'O' :: rest => radix (fun c => (octalDigit? c).isSome) rest
  | '0' :: 'b' :: rest => radix (fun c => c == '0' || c == '1') rest
  | '0' :: 'B' :: rest => radix (fun c => c == '0' || c == '1') rest
  | _ =>
    let whole := text.takeWhile (digitOr Char.isDigit)
    let afterWhole := text.drop whole.length
    let fraction : Option (List Char) :=
      match afterWhole with
      | '.' :: rest => some (rest.takeWhile (digitOr Char.isDigit))
      | _ => none
    let fractionLength := (fraction.map fun digits => digits.length + 1).getD 0
    let afterFraction := afterWhole.drop fractionLength
    let exponent : List Char × Nat :=
      match afterFraction with
      | e :: rest =>
        if e == 'e' || e == 'E' then
          let sign := if rest.head? == some '+' || rest.head? == some '-' then 1 else 0
          let digits := (rest.drop sign).takeWhile (digitOr Char.isDigit)
          if (digits.head?.map Char.isDigit).getD false then (digits, digits.length + sign + 1)
          else ([], 0)
        else ([], 0)
      | [] => ([], 0)
    let length := whole.length + fractionLength + exponent.2
    let suffix := text[length]?.getD ' '
    let imaginary := suffix == 'j' || suffix == 'J'
    let long := suffix == 'l' || suffix == 'L'
    let plain := fraction.isNone && exponent.2 == 0 && !imaginary
    let digits := whole.filter (· != '_')
    let cause :=
      if long then some .invalidNumber
      else if !([whole, fraction.getD [], exponent.1].all underscoresBetween) then
        some .invalidNumber
      else if plain && digits.head? == some '0' && digits.any (· != '0') then some .leadingZeros
      else none
    some (length + (if imaginary || long then 1 else 0), cause)

/-! ### The steps -/

/-- The mark that closes a bracket. -/
def closingOf? : Symbol → Option Symbol
  | .openParen => some .closeParen
  | .openBracket => some .closeBracket
  | .openBrace => some .closeBrace
  | _ => none

/-- Whether a mark closes brackets. -/
def isClosing (mark : Symbol) : Bool :=
  mark == .closeParen || mark == .closeBracket || mark == .closeBrace

/-- Reads a mark. -/
def lexSymbol (s : LexState) : Option LexState := do
  let text := (s.rest.take 3).map Rune.char
  match s.frames, s.peek 0 with
  | .field :: outer, ':' => return { s.emit .specStart 1 with frames := .spec :: outer }
  | .field :: _, '\x7d' => return (s.emit .fieldClose 1).pop
  | _, _ =>
    match symbolTable.find? fun entry => entry.1.isPrefixOf text with
    | some (spelling, mark) =>
      let next := s.emit (.symbol mark) spelling.length
      match closingOf? mark with
      | some closing => return next.push (.bracket closing)
      | none =>
        if isClosing mark then
          if s.frames.head? == some (.bracket mark) then return next.pop else none
        else return next
    | none =>
      let conversion := s.frames.head? == some .field && s.peek 0 == '!' && (s.peek 1).isLower
      if conversion then return s.emit .conversion 2 else none

/-- Whether the letters of a word may mark a quoted literal. -/
def areMarks (word : List Char) : Bool :=
  word.all fun c => ['f', 'r', 'b', 'u'].contains c.toLower

/-- Reads a word: a name, a reserved word, or the letters before a quote. -/
def lexWord (s : LexState) (fold : List Char → List Char) : Option LexState :=
  let word := (s.rest.takeWhile fun r => Text.isIdentifierContinue r.char).map Rune.char
  let next := s.peek word.length
  if areMarks word && (next == '\'' || next == '"') then lexQuoted s word
  else
    match keywordTable.lookup word with
    | some k => some (s.emit (.keyword k) word.length)
    | none => some (s.emit (.name (String.ofList (fold word))) word.length)

/-- Begins a line: passes over it when it is empty, else notes its
indentation. -/
def lexLineStart (reading : Reading) (s : LexState) : LexState :=
  let blanks := leadingBlanks s.rest
  let odd := blanks.filter fun r =>
    r.isBlank && r.char != ' ' && r.char != '\t' && r.char != '\x0c'
  let s := s.faultIf (!odd.isEmpty) (.invalidCharacter ((odd.head?.map Rune.char).getD ' ')) 1
  let t := s.advance blanks.length
  match t.rest.head?.map Rune.char with
  | none => t
  | some '\n' => t.advance 1
  | some '#' => t.advance (t.rest.takeWhile fun r => r.char != '\n').length
  | some _ =>
    let width := indentWidth reading blanks
    let (cause, levels) := enterLevel t.levels width (indentColumns blanks)
    let t := match cause with
      | some cause => t.fault cause 0
      | none => t
    { t.emit (.line width) 0 with lineStart := false, levels := levels }

/-- Whether a line break inside the open frames is one that the language
refuses, since it breaks a text with fields that is not in triple quotes. -/
def breaksField (frames : List Frame) : Bool :=
  frames.any fun
    | .formatted q => !q.triple
    | _ => false

/-- Whether a field is open. -/
def inField (frames : List Frame) : Bool :=
  frames.any (· == .field)

/-- Reads the next token, blank, comment or line break inside a line. -/
def lexToken (fold : List Char → List Char) (s : LexState) : Option LexState :=
  match s.rest with
  | [] => some s
  | r :: rest =>
    if r.isBlank then
      let plain := r.char == ' ' || r.char == '\t' || r.char == '\x0c'
      some ((s.faultIf (!plain) (.invalidCharacter r.char) 1).advance 1)
    else if r.char == '\n' then
      if s.frames.isEmpty then some { s.advance 1 with lineStart := true }
      else
        let s := s.faultIf (breaksField s.frames) .invalidSyntax 1
        some { s.advance 1 with broken := true }
    else if r.char == '\\' then
      let s := s.faultIf (inField s.frames) .invalidSyntax 1
      if s.peek 1 == '\n' then some (s.advance 2)
      else if s.peek 1 == '\r' && s.peek 2 == '\n' then some (s.advance 3)
      else none
    else if r.char == '#' then
      let s := s.faultIf (inField s.frames) .invalidSyntax 1
      some (s.advance (s.rest.takeWhile fun r => r.char != '\n').length)
    else if r.char == '\'' || r.char == '"' then lexQuoted s []
    else if Text.isIdentifierStart r.char then lexWord s fold
    else if r.char.isDigit || (r.char == '.' && ((rest.head?.map fun r => r.char.isDigit).getD false))
    then do
      let (n, cause) ← number? ((s.rest.takeWhile fun r => r.char != '\n').map Rune.char)
      let s := match cause with
        | some cause => s.fault cause n
        | none => s
      return s.emit .number n
    else lexSymbol s

/-- One step of reading tokens. -/
def lexStep (reading : Reading) (fold : List Char → List Char) (s : LexState) :
    Option LexState :=
  match s.frames with
  | .formatted q :: _ => lexFormatted s q
  | .spec :: _ => lexSpec s
  | _ => if s.lineStart then some (lexLineStart reading s) else lexToken fold s

/-- Reads tokens to the end, in at most `fuel` steps. -/
def lexSteps (reading : Reading) (fold : List Char → List Char) : Nat → LexState → Option LexState
  | 0, _ => none
  | fuel + 1, s =>
    if s.rest.isEmpty then (if s.frames.isEmpty then some s else none)
    else (lexStep reading fold s).bind (lexSteps reading fold fuel)

/-- The tokens of a script and the faults among them, or `none` if it has no
tokens.  Each step but the start of a line takes a character, so twice their
number bounds the steps.  Names are written as `fold` says. -/
def lex? (reading : Reading) (fold : List Char → List Char) (runes : List Rune) :
    Option (List Token × List Fault) := do
  let s ← lexSteps reading fold (2 * runes.length + 2) { rest := runes }
  return ((s.emit .stop 0).tokens.reverse, s.faults.reverse)

end IntegrationBuild.Script
