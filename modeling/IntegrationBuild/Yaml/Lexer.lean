import IntegrationBuild.Json.Parser
import IntegrationBuild.Yaml.Cursor
import IntegrationBuild.Yaml.Token

/-!
Tokens of a YAML text.  Indentation gives the tokens that open and close block
collections.  Whether a token begins a key is known only when a colon follows,
so a place that may begin a key is remembered, and the key token is put in
front of it afterwards.
-/

namespace IntegrationBuild.Yaml

/-- A place that may turn out to begin a key. -/
structure PendingKey where
  token : Nat
  required : Bool
  index : Nat
  line : Nat
  column : Nat
deriving Inhabited

/-- The state of reading tokens. -/
structure LexState where
  cursor : Cursor
  flowLevel : Nat := 0
  indent : Int := -1
  indents : List Int := []
  pending : List (Nat × PendingKey) := []
  tokens : Array Token := #[]
  keyAllowed : Bool := true
  finished : Bool := false
deriving Inhabited

namespace LexState

/-- Appends a token. -/
def emit (s : LexState) (token : Token) : LexState :=
  { s with tokens := s.tokens.push token }

/-- Puts a token in front of an earlier one. -/
def insertToken (s : LexState) (i : Nat) (token : Token) : LexState :=
  { s with tokens := s.tokens.extract 0 i ++ #[token] ++ s.tokens.extract i s.tokens.size }

/-- Steps over characters. -/
def forward (s : LexState) (n : Nat) : LexState :=
  { s with cursor := s.cursor.forward n }

/-- Forgets the pending key of the current level; a required one is an error. -/
def dropPending (s : LexState) : Option LexState :=
  match s.pending.lookup s.flowLevel with
  | some key =>
    if key.required then none
    else some { s with pending := s.pending.filter fun (level, _) => level != s.flowLevel }
  | none => some s

/-- Remembers that a key may begin here. -/
def savePending (s : LexState) : Option LexState :=
  if s.keyAllowed then do
    let required := s.flowLevel == 0 && s.indent == (s.cursor.column : Int)
    let s ← s.dropPending
    let key : PendingKey :=
      { token := s.tokens.size, required := required, index := s.cursor.index
        line := s.cursor.line, column := s.cursor.column }
    some { s with pending := (s.flowLevel, key) :: s.pending }
  else some s

/-- Forgets the pending keys that are too far back: a key stands on one line
and has at most 1024 characters. -/
def dropStale (s : LexState) : Option LexState :=
  let isStale (key : PendingKey) :=
    key.line != s.cursor.line || 1024 < s.cursor.index - key.index
  if s.pending.any fun (_, key) => isStale key && key.required then none
  else some { s with pending := s.pending.filter fun (_, key) => !isStale key }

/-- Closes the block collections that are indented deeper than a column. -/
def unwind (column : Int) : List Int → LexState → LexState
  | [], s => s
  | outer :: rest, s =>
    if column < s.indent then
      unwind column rest { s.emit .blockEnd with indent := outer, indents := rest }
    else s

/-- Closes block collections, unless inside a flow collection. -/
def unwindTo (s : LexState) (column : Int) : LexState :=
  if s.flowLevel == 0 then unwind column s.indents s else s

/-- Opens a deeper indentation; tells whether it is deeper. -/
def addIndent (s : LexState) (column : Nat) : LexState × Bool :=
  if s.indent < (column : Int) then
    ({ s with indents := s.indent :: s.indents, indent := column }, true)
  else (s, false)

/-- Steps over blanks, comments and line breaks. -/
def skipToToken : Nat → LexState → LexState
  | 0, s => s
  | fuel + 1, s =>
    let cursor := s.cursor.skipSpaces.skipComment
    match cursor.lineBreak with
    | ([], cursor) => { s with cursor := cursor }
    | (_, cursor) =>
      skipToToken fuel
        { s with cursor := cursor, keyAllowed := s.keyAllowed || s.flowLevel == 0 }

end LexState

open LexState

/-- Whether a character may stand in an anchor, a directive or a handle. -/
def isWordChar (c : Char) : Bool :=
  c.isAlphanum || c == '-' || c == '_'

/-- Reads the name of an anchor or an alias after its mark. -/
def lexAnchor (s : Cursor) : Option (String × Cursor) :=
  match s.step.spanWhile isWordChar with
  | ([], _) => none
  | (name, s) =>
    if isBlankOrEnd s.next || "?:,]\x7d%@\x60".toList.contains s.next then
      some (String.ofList name, s)
    else none

/-- Whether a character may stand in a tag. -/
def isTagChar (c : Char) : Bool :=
  c.isAlphanum || "-;/?:@&=+$,_.!~*'()[]".toList.contains c

/-- The bytes of a run of percent escapes. -/
def lexEscapes : Nat → Cursor → List UInt8 → Option (List UInt8 × Cursor)
  | 0, _, _ => none
  | fuel + 1, s, acc =>
    if s.next == '%' then do
      let a ← Json.hexValue? (s.peek 1)
      let b ← Json.hexValue? (s.peek 2)
      lexEscapes fuel (s.forward 3) (UInt8.ofNat (a * 16 + b) :: acc)
    else some (acc.reverse, s)

/-- The characters of a tag, escapes decoded. -/
def lexTagChars : Nat → Cursor → List Char → Option (List Char × Cursor)
  | 0, _, _ => none
  | fuel + 1, s, acc =>
    if s.next == '%' then do
      let (bytes, s) ← lexEscapes (s.rest.length + 1) s []
      let text ← String.fromUTF8? (ByteArray.mk bytes.toArray)
      lexTagChars fuel s (acc ++ text.toList)
    else
      match s.spanWhile isTagChar with
      | ([], s) => some (acc, s)
      | (chars, s) => lexTagChars fuel s (acc ++ chars)

/-- Reads a tag or the expansion of a handle; it must not be empty. -/
def lexTagUri (s : Cursor) : Option (String × Cursor) := do
  let (chars, s) ← lexTagChars (s.rest.length + 2) s []
  if chars.isEmpty then none else some (String.ofList chars, s)

/-- Reads a handle: a mark, or a word between two marks. -/
def lexHandle (s : Cursor) : Option (String × Cursor) :=
  if s.next != '!' then none
  else if s.peek 1 == ' ' then some ("!", s.step)
  else
    let (word, after) := s.step.spanWhile isWordChar
    if after.next == '!' then some (String.ofList ('!' :: (word ++ ['!'])), after.step)
    else none

/-- Reads a tag. -/
def lexTag (s : Cursor) : Option (Token × Cursor) := do
  let (token, s) ←
    if s.peek 1 == '<' then do
      let (uri, s) ← lexTagUri (s.forward 2)
      if s.next == '>' then some (Token.tag none uri, s.step) else none
    else if isBlankOrEnd (s.peek 1) then some (Token.tag none "!", s.step)
    else
      let word := s.step.rest.takeWhile fun c => !isBreakOrSpace c
      if word.contains '!' then do
        let (handle, s) ← lexHandle s
        let (uri, s) ← lexTagUri s
        some (Token.tag (some handle) uri, s)
      else do
        let (uri, s) ← lexTagUri s.step
        some (Token.tag (some "!") uri, s)
  if isBreakOrSpace s.next then some (token, s) else none

/-- Reads a run of decimal digits as a number. -/
def lexNumber (s : Cursor) : Option (Nat × Cursor) :=
  match s.spanWhile Char.isDigit with
  | ([], _) => none
  | (digits, s) => some (Json.digitsValue digits, s)

/-- Steps over the rest of a line that may hold only a comment. -/
def lexLineEnd (s : Cursor) : Option Cursor :=
  let s := s.skipSpaces.skipComment
  if isBreakOrEnd s.next then some s.lineBreak.2 else none

/-- Reads a directive. -/
def lexDirective (s : Cursor) : Option (Directive × Cursor) := do
  let (name, s) := s.step.spanWhile isWordChar
  if name.isEmpty || !isBreakOrSpace s.next then none
  else
    let (directive, s) ←
      if name == "YAML".toList then do
        let (major, s) ← lexNumber s.skipSpaces
        if s.next != '.' then none
        else
          let (minor, s) ← lexNumber s.step
          if isBreakOrSpace s.next then some (Directive.version major minor, s) else none
      else if name == "TAG".toList then do
        let (handle, s) ← lexHandle s.skipSpaces
        if s.next != ' ' then none
        else
          let (uri, s) ← lexTagUri s.skipSpaces
          if isBreakOrSpace s.next then some (Directive.tag handle uri, s) else none
      else
        some (Directive.other (String.ofList name), s.skipWhile fun c => !isBreakOrEnd c)
    let s ← lexLineEnd s
    some (directive, s)

/-- The line breaks between the lines of a block scalar. -/
def blockBreaks (indent : Nat) : Nat → Cursor → List Char → List Char × Cursor
  | 0, s, acc => (acc, s)
  | fuel + 1, s, acc =>
    let s := s.skipSpacesTo indent
    match s.lineBreak with
    | ([], s) => (acc, s)
    | (text, s) => blockBreaks indent fuel s (acc ++ text)

/-- The blank lines before a block scalar and the deepest indentation of
them and of its first line. -/
def blockIndentation : Nat → Cursor → List Char → Nat → List Char × Nat × Cursor
  | 0, s, acc, deepest => (acc, deepest, s)
  | fuel + 1, s, acc, deepest =>
    if s.next == ' ' then
      let s := s.skipSpaces
      blockIndentation fuel s acc (max deepest s.column)
    else
      match s.lineBreak with
      | ([], s) => (acc, deepest, s)
      | (text, s) => blockIndentation fuel s (acc ++ text) deepest

/-- The lines of a block scalar: the text, the last line break and the blank
lines after it. -/
def blockLines (folded : Bool) (indent : Nat) :
    Nat → Cursor → List Char → List Char → List Char × List Char × List Char × Cursor
  | 0, s, acc, breaks => (acc, [], breaks, s)
  | fuel + 1, s, acc, breaks =>
    if s.column == indent && s.next != '\x00' then
      let isFlush (c : Char) := c != ' ' && c != '\t'
      let flush := isFlush s.next
      let (text, s) := s.spanWhile fun c => !isBreakOrEnd c
      let (lineBreak, s) := s.lineBreak
      let acc := acc ++ breaks ++ text
      let (breaks, s) := blockBreaks indent (s.rest.length + 1) s []
      if s.column == indent && s.next != '\x00' then
        let joint :=
          if folded && lineBreak == ['\n'] && flush && isFlush s.next then
            if breaks.isEmpty then [' '] else []
          else lineBreak
        blockLines folded indent fuel s (acc ++ joint) breaks
      else (acc, lineBreak, breaks, s)
    else (acc, [], breaks, s)

/-- How the line breaks at the end of a block scalar are kept. -/
inductive Chomping where
  | clip
  | strip
  | keep
deriving DecidableEq

/-- The chomping a mark stands for. -/
def chomping? (c : Char) : Option Chomping :=
  if c == '+' then some .keep else if c == '-' then some .strip else none

/-- The indentation a digit stands for, which is not zero. -/
def increment? (c : Char) : Option Nat :=
  if c.isDigit && c != '0' then some (c.toNat - 0x30) else none

/-- Reads the header of a block scalar. -/
def blockHeader (s : Cursor) : Option (Chomping × Option Nat × Cursor) := do
  let (chomping, increment, s) ←
    match chomping? s.next with
    | some chomping =>
      if (s.peek 1).isDigit then
        (increment? (s.peek 1)).map fun n => (chomping, some n, s.forward 2)
      else some (chomping, none, s.step)
    | none =>
      if s.next.isDigit then do
        let n ← increment? s.next
        match chomping? (s.peek 1) with
        | some chomping => some (chomping, some n, s.forward 2)
        | none => some (.clip, some n, s.step)
      else some (.clip, none, s)
  if isBreakOrSpace s.next then
    let s ← lexLineEnd s
    some (chomping, increment, s)
  else none

/-- Reads a block scalar after its mark; `parent` is the indentation of the
collection it stands in. -/
def lexBlockScalar (folded : Bool) (parent : Int) (s : Cursor) : Option (String × Cursor) := do
  let (chomping, increment, s) ← blockHeader s.step
  let least := (max (parent + 1) 1).toNat
  let fuel := s.rest.length + 2
  let (indent, breaks, s) :=
    match increment with
    | some n =>
      let indent := least + n - 1
      let (breaks, s) := blockBreaks indent fuel s []
      (indent, breaks, s)
    | none =>
      let (breaks, deepest, s) := blockIndentation fuel s [] 0
      (max least deepest, breaks, s)
  let (text, lineBreak, breaks, s) := blockLines folded indent fuel s [] breaks
  let tail := match chomping with
    | .strip => []
    | .clip => lineBreak
    | .keep => lineBreak ++ breaks
  some (String.ofList (text ++ tail), s)

/-- The character a single-letter escape stands for. -/
def escapeChar? (c : Char) : Option Char :=
  match c with
  | '0' => some '\x00'
  | 'a' => some '\x07'
  | 'b' => some '\x08'
  | 't' => some '\t'
  | '\t' => some '\t'
  | 'n' => some '\n'
  | 'v' => some '\x0b'
  | 'f' => some '\x0c'
  | 'r' => some '\r'
  | 'e' => some '\x1b'
  | ' ' => some ' '
  | '"' => some '"'
  | '\\' => some '\\'
  | '/' => some '/'
  | 'N' => some '\x85'
  | '_' => some '\xa0'
  | 'L' => some '\u2028'
  | 'P' => some '\u2029'
  | _ => none

/-- The number of digits of a numeric escape. -/
def escapeWidth? (c : Char) : Option Nat :=
  match c with
  | 'x' => some 2
  | 'u' => some 4
  | 'U' => some 8
  | _ => none

/-- The number that hexadecimal digits stand for. -/
def hexNumber? (digits : List Char) : Option Nat :=
  digits.foldl (fun n c => do
    let n ← n
    let d ← Json.hexValue? c
    some (n * 16 + d)) (some 0)

/-- The line breaks inside a quoted scalar; a document mark is an error. -/
def quotedBreaks : Nat → Cursor → List Char → Option (List Char × Cursor)
  | 0, _, _ => none
  | fuel + 1, s, acc =>
    if s.atDocumentMark then none
    else
      let s := s.skipWhile fun c => c == ' ' || c == '\t'
      match s.lineBreak with
      | ([], s) => some (acc, s)
      | (text, s) => quotedBreaks fuel s (acc ++ text)

/-- Reads a quoted scalar up to and with its closing quote. -/
def quotedChars (double : Bool) : Nat → Cursor → List Char → Option (List Char × Cursor)
  | 0, _, _ => none
  | fuel + 1, s, acc =>
    let c := s.next
    if !double && c == '\x27' && s.peek 1 == '\x27' then
      quotedChars double fuel (s.forward 2) (acc ++ ['\x27'])
    else if c == (if double then '"' else '\x27') then some (acc, s.step)
    else if double && c == '\\' then
      let e := s.peek 1
      match escapeChar? e with
      | some d => quotedChars double fuel (s.forward 2) (acc ++ [d])
      | none =>
      match escapeWidth? e with
      | some width => do
        let s := s.forward 2
        let digits := s.lookahead width
        if digits.length != width then none
        else
          let n ← hexNumber? digits
          quotedChars double fuel (s.forward width) (acc ++ [Char.ofNat n])
      | none =>
        if isBreak e then do
          let s := s.step.lineBreak.2
          let (breaks, s) ← quotedBreaks (s.rest.length + 1) s []
          quotedChars double fuel s (acc ++ breaks)
        else none
    else if c == ' ' || c == '\t' || isBreakOrEnd c then do
      let (spaces, s) := s.spanWhile fun c => c == ' ' || c == '\t'
      if s.next == '\x00' then none
      else if isBreak s.next then
        let (lineBreak, s) := s.lineBreak
        let (breaks, s) ← quotedBreaks (s.rest.length + 1) s []
        let joint :=
          if lineBreak != ['\n'] then lineBreak
          else if breaks.isEmpty then [' ']
          else []
        quotedChars double fuel s (acc ++ joint ++ breaks)
      else quotedChars double fuel s (acc ++ spaces)
    else
      let (text, s) := s.spanWhile fun c =>
        !(c == '\x27' || c == '"' || c == '\\' || c == ' ' || c == '\t' || isBreakOrEnd c)
      if text.isEmpty then quotedChars double fuel s.step (acc ++ [c])
      else quotedChars double fuel s (acc ++ text)

/-- Whether a plain scalar may go on with the next character. -/
def plainEndsAt (flow : Bool) (c next : Char) : Bool :=
  isBlankOrEnd c ||
    (c == ':' && (isBlankOrEnd next || (flow && ",[]\x7b\x7d".toList.contains next))) ||
    (flow && ",?[]\x7b\x7d".toList.contains c)

/-- The length of the next piece of a plain scalar. -/
def plainLength (flow : Bool) : List Char → Nat
  | [] => 0
  | c :: rest =>
    if plainEndsAt flow c (rest.headD '\x00') then 0 else plainLength flow rest + 1

/-- The blank lines after a line of a plain scalar; nothing when a document
mark follows. -/
def plainBreaks : Nat → Cursor → List Char → Option (List Char) × Cursor
  | 0, s, acc => (some acc, s)
  | fuel + 1, s, acc =>
    let s := s.skipSpaces
    match s.lineBreak with
    | ([], s) => (some acc, s)
    | (text, s) =>
      if s.atDocumentMark then (none, s) else plainBreaks fuel s (acc ++ text)

/-- What stands between two pieces of a plain scalar, and whether a line was
broken. -/
def plainSpaces (s : Cursor) : List Char × Bool × Cursor :=
  let (spaces, s) := s.spanWhile (· == ' ')
  if isBreak s.next then
    let (lineBreak, s) := s.lineBreak
    if s.atDocumentMark then ([], true, s)
    else
      match plainBreaks (s.rest.length + 1) s [] with
      | (none, s) => ([], true, s)
      | (some breaks, s) =>
        let joint :=
          if lineBreak != ['\n'] then lineBreak
          else if breaks.isEmpty then [' ']
          else []
        (joint ++ breaks, true, s)
  else (spaces, false, s)

/-- Reads a plain scalar; tells also whether a key may begin after it. -/
def plainChars (flow : Bool) (indent : Int) :
    Nat → Cursor → List Char → List Char → Bool → List Char × Bool × Cursor
  | 0, s, acc, _, keyAllowed => (acc, keyAllowed, s)
  | fuel + 1, s, acc, spaces, keyAllowed =>
    if s.next == '#' then (acc, keyAllowed, s)
    else
      let n := plainLength flow s.rest
      if n == 0 then (acc, keyAllowed, s)
      else
        let acc := acc ++ spaces ++ s.lookahead n
        let (spaces, broke, s) := plainSpaces (s.forward n)
        let done := spaces.isEmpty || s.next == '#' ||
          (!flow && (s.column : Int) < indent)
        if done then (acc, broke, s)
        else plainChars flow indent fuel s acc spaces broke

/-- Whether a plain scalar may begin here. -/
def startsPlain (s : LexState) : Bool :=
  let c := s.cursor.next
  let next := s.cursor.peek 1
  !(isBlankOrEnd c || "-?:,[]\x7b\x7d#&*!|>'\"%@\x60".toList.contains c) ||
    (!isBlankOrEnd next && (c == '-' || (s.flowLevel == 0 && (c == '?' || c == ':'))))

/-- Whether a dash, a question mark or a colon here is an indicator. -/
def isIndicator (s : LexState) : Bool :=
  isBlankOrEnd (s.cursor.peek 1)

/-- The end of the text: all collections are closed. -/
def lexStreamEnd (s : LexState) : Option LexState := do
  let s ← (s.unwindTo (-1)).dropPending
  some { s.emit .streamEnd with keyAllowed := false, pending := [], finished := true }

/-- A line that starts or ends a document. -/
def lexDocumentMark (token : Token) (s : LexState) : Option LexState := do
  let s ← (s.unwindTo (-1)).dropPending
  some { (s.forward 3).emit token with keyAllowed := false }

/-- The start of a flow collection. -/
def lexFlowStart (token : Token) (s : LexState) : Option LexState := do
  let s ← s.savePending
  some { (s.forward 1).emit token with flowLevel := s.flowLevel + 1, keyAllowed := true }

/-- The end of a flow collection, which has to be open. -/
def lexFlowEnd (token : Token) (s : LexState) : Option LexState := do
  let s ← s.dropPending
  if s.flowLevel == 0 then none
  else some { (s.forward 1).emit token with flowLevel := s.flowLevel - 1, keyAllowed := false }

/-- An entry of a block sequence. -/
def lexBlockEntry (s : LexState) : Option LexState := do
  let s ←
    if s.flowLevel == 0 then
      if s.keyAllowed then
        let (s, deeper) := s.addIndent s.cursor.column
        some (if deeper then s.emit .blockSequenceStart else s)
      else none
    else some s
  let s ← { s with keyAllowed := true }.dropPending
  some ((s.forward 1).emit .blockEntry)

/-- The question mark before a key. -/
def lexKeyMark (s : LexState) : Option LexState := do
  let s ←
    if s.flowLevel == 0 then
      if s.keyAllowed then
        let (s, deeper) := s.addIndent s.cursor.column
        some (if deeper then s.emit .blockMappingStart else s)
      else none
    else some s
  let s ← { s with keyAllowed := s.flowLevel == 0 }.dropPending
  some ((s.forward 1).emit .key)

/-- The colon before a value: it turns the pending key into a key. -/
def lexValueMark (s : LexState) : Option LexState := do
  let s ←
    match s.pending.lookup s.flowLevel with
    | some key =>
      let s := { s with pending := s.pending.filter fun (level, _) => level != s.flowLevel }
      let s := s.insertToken key.token .key
      let s :=
        if s.flowLevel == 0 then
          let (s, deeper) := s.addIndent key.column
          if deeper then s.insertToken key.token .blockMappingStart else s
        else s
      some { s with keyAllowed := false }
    | none =>
      if s.flowLevel == 0 && !s.keyAllowed then none
      else
        let s :=
          if s.flowLevel == 0 then
            let (s, deeper) := s.addIndent s.cursor.column
            if deeper then s.emit .blockMappingStart else s
          else s
        { s with keyAllowed := s.flowLevel == 0 }.dropPending
  some ((s.forward 1).emit .value)

/-- A scalar, an alias, an anchor or a tag may begin a key. -/
def lexNodePart (s : LexState) (read : Cursor → Option (Token × Cursor)) : Option LexState := do
  let s ← s.savePending
  let (token, cursor) ← read s.cursor
  some { { s with cursor := cursor }.emit token with keyAllowed := false }

/-- Reads one token. -/
def lexToken (s : LexState) : Option LexState := do
  let s := skipToToken (s.cursor.rest.length + 1) s
  let s ← s.dropStale
  let s := s.unwindTo s.cursor.column
  let c := s.cursor.next
  let atStart := s.cursor.column == 0
  if c == '\x00' then lexStreamEnd s
  else if c == '%' && atStart then do
    let s ← (s.unwindTo (-1)).dropPending
    let (directive, cursor) ← lexDirective s.cursor
    some { { s with cursor := cursor }.emit (.directive directive) with keyAllowed := false }
  else if c == '-' && atStart && s.cursor.atDocumentMark then lexDocumentMark .documentStart s
  else if c == '.' && atStart && s.cursor.atDocumentMark then lexDocumentMark .documentEnd s
  else if c == '[' then lexFlowStart .flowSequenceStart s
  else if c == '\x7b' then lexFlowStart .flowMappingStart s
  else if c == ']' then lexFlowEnd .flowSequenceEnd s
  else if c == '\x7d' then lexFlowEnd .flowMappingEnd s
  else if c == ',' then do
    let s ← { s with keyAllowed := true }.dropPending
    some ((s.forward 1).emit .flowEntry)
  else if c == '-' && isIndicator s then lexBlockEntry s
  else if c == '?' && (0 < s.flowLevel || isIndicator s) then lexKeyMark s
  else if c == ':' && (0 < s.flowLevel || isIndicator s) then lexValueMark s
  else if c == '*' then
    lexNodePart s fun cursor => (lexAnchor cursor).map fun (name, rest) => (.alias name, rest)
  else if c == '&' then
    lexNodePart s fun cursor => (lexAnchor cursor).map fun (name, rest) => (.anchor name, rest)
  else if c == '!' then lexNodePart s lexTag
  else if (c == '|' || c == '>') && s.flowLevel == 0 then do
    let s ← { s with keyAllowed := true }.dropPending
    let (text, cursor) ← lexBlockScalar (c == '>') s.indent s.cursor
    some ({ s with cursor := cursor }.emit (.scalar text false))
  else if c == '\x27' || c == '"' then
    lexNodePart s fun cursor =>
      (quotedChars (c == '"') (cursor.rest.length + 2) cursor.step []).map
        fun (text, rest) => (.scalar (String.ofList text) false, rest)
  else if startsPlain s then do
    let s ← s.savePending
    let (text, keyAllowed, cursor) := plainChars (0 < s.flowLevel) (s.indent + 1)
      (s.cursor.rest.length + 1) s.cursor [] [] false
    some { { s with cursor := cursor }.emit (.scalar (String.ofList text) true) with
      keyAllowed := keyAllowed }
  else none

/-- Reads tokens until the end of the text. -/
def lexAll : Nat → LexState → Option (List Token)
  | 0, _ => none
  | fuel + 1, s =>
    if s.finished then some s.tokens.toList
    else
      match lexToken s with
      | some s => lexAll fuel s
      | none => none

/-- Whether a character may stand in a text at all. -/
def isAllowed (c : Char) : Bool :=
  let n := c.toNat
  n == 0x09 || n == 0x0a || n == 0x0d || (0x20 ≤ n && n ≤ 0x7e) || n == 0x85 ||
    (0xa0 ≤ n && n ≤ 0xd7ff) || (0xe000 ≤ n && n ≤ 0xfffd) || 0x10000 ≤ n

/-- The tokens of a text; a byte order mark at its start is skipped. -/
def tokens? (text : List Char) : Option (List Token) :=
  if text.all isAllowed then
    let cursor : Cursor := { rest := text }
    let cursor := if cursor.next == '\ufeff' then cursor.step else cursor
    lexAll (text.length + 3) { cursor := cursor }
  else none

end IntegrationBuild.Yaml
