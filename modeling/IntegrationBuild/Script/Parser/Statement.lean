import IntegrationBuild.Script.Parser.Pattern

/-!
Statements and their layout.  A block is the rest of the line after a colon, or
the lines below that are indented further than the line of the colon.  The
lenient reading also takes lines that are indented for no reason and blocks
that are empty; they leave faults.
-/

namespace IntegrationBuild.Script.Parser

/-! ### Simple statements -/

/-- Whether a token shows that the word before it is called without brackets. -/
def startsBareArgument : TokenKind → Bool
  | .symbol m => [Symbol.openBrace, .ellipsis, .tilde].contains m
  | kind => startsExpression kind

/-- A value on the right of an assignment. -/
def assignedValue (self : Grammar) : Parser Tree := do
  match ← yieldValue self with
  | some value => return value
  | none => expressions self

/-- Whether a tree may be computed and assigned at once, or annotated. -/
def isSingleTarget : Tree → Bool
  | .node kind _ children =>
    match kind, children with
    | .identifier _, _ | .attribute _, _ | .subscript, _ => true
    | .parenthesized, [.node inner _ _] =>
      match inner with
      | .identifier _ | .attribute _ | .subscript => true
      | _ => false
    | _, _ => false

/-- An assignment or an expression. -/
def expressionStatement (self : Grammar) : Parser Tree := do
  let start ← here
  match ← yieldValue self with
  | some value => node .expressionStatement start [value]
  | none =>
    if (← peekAt 1) == .symbol .walrus then
      let value ← namedExpression self
      node .expressionStatement start [value, ← fault .invalidSyntax start]
    else
      let first ← expressions self
      match ← peek with
      | .symbol .equal =>
        let rest ← many do
          if ← acceptMark .equal then return some (← assignedValue self) else return none
        require (areTargets (first :: rest.dropLast))
        node .assignment start (first :: rest)
      | .symbol .augmented =>
        require (isSingleTarget first)
        discard take
        node .augmentedAssignment start [first, ← assignedValue self]
      | .symbol .colon =>
        require (isSingleTarget first)
        discard take
        let declared ← expression self
        if ← acceptMark .equal then
          node .annotatedAssignment start [first, declared, ← assignedValue self]
        else node .annotatedAssignment start [first, declared]
      | _ => node .expressionStatement start [first]

/-- A dotted name, as text. -/
def dottedText : Parser String := do
  let first ← name
  let rest ← many do
    if ← acceptMark .dot then return some (← name) else return none
  return String.intercalate "." (first :: rest)

/-- The new name of something imported, if it is given one. -/
def newName : Parser (Option String) := do
  if ← acceptWord .as then return some (← name) else return none

/-- The statement `import`. -/
def importStatement : Parser Tree := do
  let start ← here
  word .import
  let isName (kind : TokenKind) : Bool :=
    match kind with
    | .name _ => true
    | _ => false
  let (names, trailing) ← separated isName do
    let text ← dottedText
    return (⟨text, ← newName⟩ : ImportedName)
  require !trailing
  node (.importStatement names) start []

/-- The number of dots before the name of a module. -/
def leadingDots : Parser Nat := do
  let dots ← many do
    if ← acceptMark .dot then return some 1
    else if ← acceptMark .ellipsis then return some 3
    else return none
  return dots.foldl (· + ·) 0

/-- A name brought in from a module. -/
def importedName : Parser ImportedName := do
  let text ← name
  return ⟨text, ← newName⟩

/-- The statement `from`. -/
def importFrom : Parser Tree := do
  let start ← here
  word .from
  let level ← leadingDots
  let source ←
    match ← peek with
    | .name _ => dottedText
    | _ => if level == 0 then failure else pure ""
  word .import
  let isName (kind : TokenKind) : Bool :=
    match kind with
    | .name _ => true
    | _ => false
  if ← acceptMark .star then node (.importFrom level source [⟨"*", none⟩]) start []
  else if ← acceptMark .openParen then
    let (names, _) ← separated isName importedName
    mark .closeParen
    node (.importFrom level source names) start []
  else
    let (names, trailing) ← separated isName importedName
    let notes ← faultIf trailing .trailingComma start
    node (.importFrom level source names) start notes

/-- Names with commas between them. -/
def nameList : Parser (List String) := do
  let (names, trailing) ← separated (fun _ => true) name
  require !trailing
  return names

/-- The statement `raise`. -/
def raiseStatement (self : Grammar) : Parser Tree := do
  let start ← here
  word .raise
  if startsExpression (← peek) then
    let (values, trailing) ← separated startsExpression (expression self)
    let notes ← faultIf (trailing || 1 < values.length) .invalidSyntax start
    let reason ← if ← acceptWord .from then (do return [← self .expression]) else pure []
    node .raiseStatement start (values ++ reason ++ notes)
  else node .raiseStatement start []

/-- The statement `del`. -/
def deletion (self : Grammar) : Parser Tree := do
  let start ← here
  word .del
  let (items, _) ← separated startsExpression (starredExpression self)
  let bad := items.filter fun t => !isTarget t || t.kind == .splat
  node .deletion start (items ++ bad.map fun t => .node (.fault .invalidTarget) t.span [])

/-- A statement of one word. -/
def wordStatement (kind : Kind) : Parser Tree := do
  let start ← here
  discard take
  node kind start []

/-- A statement without a block. -/
def simpleStatement (self : Grammar) : Parser Tree := do
  let start ← here
  match ← peek with
  | .keyword .pass => wordStatement .passStatement
  | .keyword .break => wordStatement .breakStatement
  | .keyword .continue => wordStatement .continueStatement
  | .keyword .return =>
    discard take
    if startsExpression (← peek) then node .returnStatement start [← expressions self]
    else node .returnStatement start []
  | .keyword .raise => raiseStatement self
  | .keyword .global =>
    discard take
    let names ← nameList
    node (.globalStatement names) start []
  | .keyword .nonlocal =>
    discard take
    let names ← nameList
    node (.nonlocalStatement names) start []
  | .keyword .import => importStatement
  | .keyword .from => importFrom
  | .keyword .assert =>
    discard take
    let (items, trailing) ← separated startsExpression (expression self)
    let notes ← faultIf (trailing || 2 < items.length) .invalidSyntax start
    node .assertStatement start (items ++ notes)
  | .keyword .del => deletion self
  | .name text =>
    if (text == "print" || text == "exec") && startsBareArgument (← peekAt 1) then
      discard take
      let value ← expressions self
      node .bareCall start [value, ← fault (.bareCall text) start]
    else expressionStatement self
  | _ => expressionStatement self

/-- Whether a line ends here. -/
def atLineEnd : Parser Bool := do
  match ← peek with
  | .line _ | .stop => return true
  | _ => return false

/-- The simple statements of a line, with semicolons between them. -/
def simpleLine (self : Grammar) : Parser (List Tree) := do
  let first ← simpleStatement self
  let rest ← many do
    if ← acceptMark .semicolon then
      if ← atLineEnd then return none else return some (← simpleStatement self)
    else return none
  require (← atLineEnd)
  return first :: rest

/-! ### Layout -/

/-- Takes the start of a line that belongs to the block around; gives the
fault of a line that is indented for no reason. -/
def lineStart : Parser (List Tree) := do
  let level := (← get).level
  match ← peek with
  | .line indent =>
    let token ← take
    if level != indent then return [.node (.fault .unexpectedIndent) token.span []] else return []
  | _ => failure

/-- Reads lines, as long as they belong to a block of the given indentation. -/
def linesAt (indent : Nat) (line : Parser (List Tree)) : Parser (List Tree) := do
  let parts ← many do
    match ← peek with
    | .line i =>
      if i < indent then return none
      else
        let notes ← lineStart
        let statements ← line
        return some (notes ++ statements)
    | _ => return none
  return parts.flatten

/-- Reads the lines of an indented block, whose statements `line` reads. -/
def indented (line : Parser (List Tree)) : Parser (Option (List Tree)) := do
  let outer := (← get).level
  match ← peek with
  | .line indent =>
    if outer < indent then
      modify fun s => { s with level := indent }
      let statements ← linesAt indent line
      modify fun s => { s with level := outer }
      return some statements
    else return none
  | _ => return none

/-- Whether a line comes next that begins with a word and belongs to the
statement before it. -/
def atClause (word : Keyword) : Parser Bool := do
  match ← peek, ← peekAt 1 with
  | .line indent, .keyword k => return k == word && (← get).level ≤ indent
  | _, _ => return false

/-- Reads a clause that begins with a word, if one comes next. -/
def clause (k : Keyword) (p : Position → Parser Tree) : Parser (List Tree) := do
  if ← atClause k then
    let notes ← lineStart
    let start ← here
    discard take
    let t ← p start
    return notes ++ [t]
  else return []

/-! ### Statements with blocks -/

/-- The branch `else`, if there is one. -/
def elseClause (self : Grammar) : Parser (List Tree) :=
  clause .else fun start => do
    mark .colon
    node .elseClause start [← self (.suite (.statement "else" start))]

/-- The statement `if`. -/
def ifStatement (self : Grammar) : Parser Tree := do
  let start ← here
  word .if
  let condition ← namedExpression self
  mark .colon
  let body ← self (.suite (.statement "if" start))
  let branches ← many do
    if ← atClause .elif then
      let branch ← clause .elif fun start => do
        let condition ← namedExpression self
        mark .colon
        node .elifClause start [condition, ← self (.suite (.statement "elif" start))]
      return some branch
    else return none
  let other ← elseClause self
  node .ifStatement start (condition :: body :: (branches.flatten ++ other))

/-- The statement `while`. -/
def whileStatement (self : Grammar) : Parser Tree := do
  let start ← here
  word .while
  let condition ← namedExpression self
  mark .colon
  let body ← self (.suite (.statement "while" start))
  node .whileStatement start (condition :: body :: (← elseClause self))

/-- The statement `for`. -/
def forStatement (self : Grammar) (start : Position) (isAsync : Bool) : Parser Tree := do
  word .for
  let target ← loopTargets self
  word .in
  let values ← expressions self
  mark .colon
  let body ← self (.suite (.statement "for" start))
  node (.forStatement isAsync) start (target :: values :: body :: (← elseClause self))

/-- A clause that catches. -/
def exceptClause (self : Grammar) (start : Position) : Parser Tree := do
  let group ← acceptMark .star
  let header := Header.statement (if group then "except*" else "except") start
  if ← acceptMark .colon then
    let notes ← faultIf group .invalidSyntax start
    node (.exceptClause group none) start (notes ++ [← self (.suite header)])
  else
    let caught ← expression self
    let (bound, notes) ←
      if ← acceptWord .as then do
        let text ← name
        pure (some text, [])
      else if ← acceptMark .comma then do
        let second ← expression self
        pure (none, [second, ← fault .invalidSyntax start])
      else pure (none, [])
    mark .colon
    node (.exceptClause group bound) start (caught :: notes ++ [← self (.suite header)])

/-- The statement `try`. -/
def tryStatement (self : Grammar) : Parser Tree := do
  let start ← here
  word .try
  mark .colon
  let body ← self (.suite (.statement "try" start))
  let handlers ← many do
    if ← atClause .except then return some (← clause .except (exceptClause self))
    else return none
  let handlers := handlers.flatten
  let other ← if handlers.isEmpty then pure [] else elseClause self
  let last ← clause .finally fun start => do
    mark .colon
    node .finallyClause start [← self (.suite (.statement "finally" start))]
  require (!handlers.isEmpty || !last.isEmpty)
  let grouped (t : Tree) : Bool :=
    match t.kind with
    | .exceptClause group _ => group
    | _ => false
  let clauses := handlers.filter fun t => t.kind != .fault .unexpectedIndent
  require (clauses.all grouped || clauses.all (!grouped ·))
  node .tryStatement start (body :: (handlers ++ other ++ last))

/-- One value of a `with` statement and its target. -/
def withItem (self : Grammar) : Parser Tree := do
  let start ← here
  let value ← self .expression
  if ← acceptWord .as then
    let target ← starredOperand self
    require (isTarget target)
    node .withItem start [value, target]
  else node .withItem start [value]

/-- The values of a `with` statement, up to the colon. -/
def withItems (self : Grammar) : Parser (List Tree) :=
  let bracketed : Parser (List Tree) := do
    mark .openParen
    let (items, _) ← separated startsExpression (withItem self)
    mark .closeParen
    mark .colon
    return items
  let plain : Parser (List Tree) := do
    let start ← here
    let (items, trailing) ← separated startsExpression (withItem self)
    let notes ← faultIf trailing .invalidSyntax start
    mark .colon
    return items ++ notes
  either bracketed plain

/-- The statement `with`. -/
def withStatement (self : Grammar) (start : Position) (isAsync : Bool) : Parser Tree := do
  word .with
  let items ← withItems self
  node (.withStatement isAsync) start (items ++ [← self (.suite (.statement "with" start))])

/-- The definition of a function. -/
def functionDefinition (self : Grammar) (start : Position) (isAsync : Bool) : Parser Tree := do
  word .define
  let text ← name
  mark .openParen
  let params ← parameters self true
  mark .closeParen
  let result ←
    if ← acceptMark .arrow then do
      let inner ← here
      pure [← node .declaredType inner [← expression self]]
    else pure []
  mark .colon
  let body ← self (.suite ⟨"function definition", start.line⟩)
  node (.functionDefinition isAsync text) start (params :: result ++ [body])

/-- The definition of a class. -/
def classDefinition (self : Grammar) : Parser Tree := do
  let start ← here
  word .class
  let text ← name
  let bases ← if (← peek) == .symbol .openParen then (do return [← arguments self]) else pure []
  mark .colon
  let body ← self (.suite ⟨"class definition", start.line⟩)
  node (.classDefinition text) start (bases ++ [body])

/-- The definition of a function or a class. -/
def definition (self : Grammar) : Parser Tree := do
  let start ← here
  match ← peek with
  | .keyword .define => functionDefinition self start false
  | .keyword .async =>
    discard take
    functionDefinition self start true
  | .keyword .class => classDefinition self
  | _ => failure

/-- A definition with its decorators. -/
def decoratedDefinition (self : Grammar) : Parser Tree := do
  let start ← here
  let decorators ← many do
    let inner ← here
    if ← acceptMark .atSign then
      let value ← namedExpression self
      let decorator ← node .decorator inner [value]
      let notes ← lineStart
      return some (decorator :: notes)
    else return none
  node .decoratedDefinition start (decorators.flatten ++ [← definition self])

/-- One case of a `match` statement, as the line of a block. -/
def caseClause (self : Grammar) : Parser (List Tree) := do
  let start ← here
  require ((← peek) == .name "case")
  discard take
  let tested ← casePattern self
  let inner ← here
  let condition ←
    if ← acceptWord .if then (do return [← node .guard inner [← namedExpression self]])
    else pure []
  mark .colon
  let body ← self (.suite (.statement "case" start))
  return [← node .caseClause start (tested :: condition ++ [body])]

/-- The subject of a `match` statement, up to its cases. -/
def matchSubject (self : Grammar) : Parser Tree := do
  discard take
  let start ← here
  let (items, trailing) ← separated startsExpression (item self)
  mark .colon
  let level := (← get).level
  match ← peek, ← peekAt 1 with
  | .line indent, .name text => require (level < indent && text == "case")
  | _, _ => failure
  match items, trailing with
  | [one], false => return one
  | _, _ => node .tuple start items

/-- The statement `match`; none if the word is an ordinary name here. -/
def matchStatement (self : Grammar) : Parser (Option Tree) := do
  let start ← here
  let subject ← either (some <$> matchSubject self) (pure none)
  match subject with
  | none => return none
  | some subject =>
    match ← indented (caseClause self) with
    | some cases => return some (← node .matchStatement start (subject :: cases))
    | none => failure

/-- The statements of a line. -/
def statementLine (self : Grammar) : Parser (List Tree) := do
  let start ← here
  let compound (p : Parser Tree) : Parser (List Tree) := do
    let t ← p
    return [t]
  match ← peek, ← peekAt 1 with
  | .keyword .if, _ => compound (ifStatement self)
  | .keyword .while, _ => compound (whileStatement self)
  | .keyword .for, _ => compound (forStatement self start false)
  | .keyword .try, _ => compound (tryStatement self)
  | .keyword .with, _ => compound (withStatement self start false)
  | .keyword .define, _ | .keyword .class, _ => compound (definition self)
  | .keyword .async, .keyword .define => compound (definition self)
  | .keyword .async, .keyword .for =>
    discard take
    compound (forStatement self start true)
  | .keyword .async, .keyword .with =>
    discard take
    compound (withStatement self start true)
  | .symbol .atSign, _ => compound (decoratedDefinition self)
  | .name text, _ =>
    if text == "match" then
      match ← matchStatement self with
      | some t => return [t]
      | none => simpleLine self
    else simpleLine self
  | _, _ => simpleLine self

/-- The note of a missing block.  At the end of a script its place is on the
last line. -/
def missingBlock (header : Header) (start : Position) : Parser Tree := do
  let place := if (← peek) == .stop && start.column == 0 then ⟨start.line - 1, 0⟩ else start
  return .node (.fault (.missingBlock header)) ⟨place, place⟩ []

/-- The block after a colon. -/
def suite (self : Grammar) (header : Header) : Parser Tree := do
  let start ← here
  if ← atLineEnd then
    match ← indented (statementLine self) with
    | some statements => node .block start statements
    | none => return .node .block ⟨start, start⟩ [← missingBlock header start]
  else node .block start (← simpleLine self)

/-! ### The grammar -/

/-- The rules over those one level below. -/
def rules (self : Grammar) : Grammar
  | .expression => expression self
  | .named => namedExpression self
  | .item => item self
  | .expressions => expressions self
  | .operand => operand self
  | .factor => factor self
  | .disjunction => disjunction self
  | .inversion => inversion self
  | .pattern => pattern self
  | .suite header => suite self header

/-- The grammar with references nested to a depth. -/
def grammar : Nat → Grammar
  | 0 => fun _ => failure
  | depth + 1 => rules (grammar depth)

/-- The statements of a whole script. -/
def script (self : Grammar) : Parser Tree := do
  let start ← here
  let statements ← linesAt 0 (statementLine self)
  require ((← peek) == .stop)
  node .module start statements

/-- The tree of some tokens. -/
def tree? (tokens : List Token) : Option Tree :=
  (script (grammar (2 * tokens.length + 8)) ⟨tokens, tokens.length, Position.first, 0⟩).map Prod.fst

end IntegrationBuild.Script.Parser
