import IntegrationBuild.Script.Parser.Basic

/-!
Expressions.  Operators bind in the usual order: conditionals loosest, then
`or`, `and`, `not`, comparisons, the bitwise operators, shifts, sums, products,
signs, powers, and calls, attributes and subscripts tightest.
-/

namespace IntegrationBuild.Script.Parser

/-- Whether an expression may begin with a token. -/
def startsExpression : TokenKind → Bool
  | .name _ | .number | .quoted _ _ | .formattedStart => true
  | .keyword k =>
    [Keyword.nothing, .truth, .falsity, .not, .lambda, .await].contains k
  | .symbol m =>
    [Symbol.openParen, .openBracket, .openBrace, .ellipsis, .minus, .plus, .tilde, .star].contains m
  | _ => false

mutual

/-- Whether a tree may stand on the left of an assignment. -/
def isTarget : Tree → Bool
  | .node kind _ children =>
    match kind with
    | .identifier _ | .attribute _ | .subscript => true
    | .tuple | .list | .splat | .parenthesized => areTargets children
    | _ => false

/-- Whether all trees may stand on the left of an assignment. -/
def areTargets : List Tree → Bool
  | [] => true
  | t :: rest => isTarget t && areTargets rest

end

/-- Fails unless a condition holds. -/
def require (condition : Bool) : Parser Unit :=
  if condition then pure () else failure

/-- Unpacking or an operand. -/
def starredOperand (self : Grammar) : Parser Tree := do
  let start ← here
  if ← acceptMark .star then node .splat start [← self .operand] else self .operand

/-- The targets of a loop: one, or several with commas. -/
def loopTargets (self : Grammar) : Parser Tree := do
  let start ← here
  let (items, trailing) ← separated startsExpression (starredOperand self)
  let target ←
    match items, trailing with
    | [one], false => pure one
    | _, _ => node .tuple start items
  require (isTarget target)
  return target

/-! ### Quoted literals -/

/-- A field of a text: its value, then the fields of its format. -/
def textField (self : Grammar) (nested : Parser Tree) : Parser Tree := do
  let start ← here
  expect .fieldOpen
  let inner ← here
  let value ←
    if ← acceptWord .yield then
      if startsExpression (← peek) then node .yieldExpression inner [← self .expressions]
      else node .yieldExpression inner []
    else self .expressions
  discard (acceptMark .equal)
  discard (accept .conversion)
  let fields ←
    if ← accept .specStart then
      many do
        if (← peek) == .fieldOpen then return some (← nested) else return none
    else pure []
  expect .fieldClose
  node .field start (value :: fields)

/-- A field of a text, whose format may have fields nested to a depth. -/
def textFieldNested (self : Grammar) : Nat → Parser Tree
  | 0 => textField self failure
  | depth + 1 => textField self (textFieldNested self depth)

/-- One literal of a run: whether a line break comes before it, its sort if it
is plain, what it stands for, and its fields. -/
structure TextPart where
  broken : Bool
  sort : Option QuotedSort
  value : Option String
  fields : List Tree

/-- One quoted literal. -/
def textPart (self : Grammar) : Parser (Option TextPart) := do
  match ← peek with
  | .quoted sort value =>
    let token ← take
    return some ⟨token.broken, some sort, value, []⟩
  | .formattedStart =>
    let token ← take
    let depth := (← get).left
    let fields ← many do
      if (← peek) == .fieldOpen then return some (← textFieldNested self depth) else return none
    expect .formattedEnd
    return some ⟨token.broken, none, none, fields⟩
  | _ => return none

/-- Adjacent literals.  They stand for a text if each of them does and no line
break comes between them. -/
def textLiteral (self : Grammar) : Parser Tree := do
  let start ← here
  let parts ← many (textPart self)
  require !parts.isEmpty
  let joined := parts.tail.all (!·.broken)
  let plain := parts.all (·.sort == some .text)
  let value :=
    if joined && plain then (parts.mapM TextPart.value).map fun values => String.join values
    else none
  let bytes := parts.any (·.sort == some .bytes)
  let mixed := bytes && !parts.all (·.sort == some .bytes)
  let notes ← faultIf mixed .mixedText start
  node (.string value) start (parts.flatMap TextPart.fields ++ notes)

/-! ### Displays and comprehensions -/

/-- Several levels of operators that group to the left. -/
def leftAssociative (kind : Kind) (marks : List Symbol) (operand : Parser Tree) :
    Parser Tree := do
  let start ← here
  let first ← operand
  let rest ← many do
    match ← peek with
    | .symbol m =>
      if marks.contains m then
        discard take
        let right ← operand
        return some (right, (← get).last)
      else return none
    | _ => return none
  return rest.foldl (fun left (right, stop) => .node kind ⟨start, stop⟩ [left, right]) first

/-- Whether a comprehension goes on: `for`, or `async for`. -/
def atForClause : Parser Bool := do
  match ← peek, ← peekAt 1 with
  | .keyword .for, _ => return true
  | .keyword .async, .keyword .for => return true
  | _, _ => return false

/-- The fault of an unpacked element of a comprehension. -/
def elementFaults (element : Tree) : List Tree :=
  if element.kind == .splat || element.kind == .mappingSplat then
    [.node (.fault .invalidSyntax) element.span []]
  else []

/-- The clauses of a comprehension. -/
def comprehensionClauses (self : Grammar) : Parser (List Tree) :=
  many do
    let start ← here
    if ← atForClause then
      let isAsync ← acceptWord .async
      word .for
      let target ← loopTargets self
      word .in
      let values ← self .disjunction
      return some (← node (.forClause isAsync) start [target, values])
    else if ← acceptWord .if then
      return some (← node .ifClause start [← self .disjunction])
    else return none

/-- A value given by `yield`, if one comes next. -/
def yieldValue (self : Grammar) : Parser (Option Tree) := do
  let start ← here
  if ← acceptWord .yield then
    if ← acceptWord .from then return some (← node .yieldFrom start [← self .expression])
    else if startsExpression (← peek) then
      return some (← node .yieldExpression start [← self .expressions])
    else return some (← node .yieldExpression start [])
  else return none

/-- What stands in round brackets. -/
def roundBrackets (self : Grammar) : Parser Tree := do
  let start ← here
  mark .openParen
  if ← acceptMark .closeParen then node .tuple start []
  else
    match ← yieldValue self with
    | some value =>
      mark .closeParen
      node .parenthesized start [value]
    | none =>
      let first ← self .item
      if ← atForClause then
        let clauses ← comprehensionClauses self
        mark .closeParen
        node .generator start (first :: clauses ++ elementFaults first)
      else if ← acceptMark .closeParen then
        let notes ← faultIf (first.kind == .splat) .invalidSyntax start
        node .parenthesized start (first :: notes)
      else
        mark .comma
        let rest ← many do
          if startsExpression (← peek) then
            let item ← self .item
            if !(← acceptMark .comma) then require ((← peek) == .symbol .closeParen)
            return some item
          else return none
        mark .closeParen
        node .tuple start (first :: rest)

/-- What stands in square brackets. -/
def squareBrackets (self : Grammar) : Parser Tree := do
  let start ← here
  mark .openBracket
  if ← acceptMark .closeBracket then node .list start []
  else
    let (items, trailing) ← separated startsExpression (self .item)
    match items, trailing, ← atForClause with
    | [element], false, true =>
      let clauses ← comprehensionClauses self
      mark .closeBracket
      node .listComprehension start (element :: clauses ++ elementFaults element)
    | _, _, _ =>
      mark .closeBracket
      node .list start items

/-- An entry of a dictionary or an item of a set. -/
def braceItem (self : Grammar) : Parser Tree := do
  let start ← here
  if ← acceptMark .doubleStar then node .mappingSplat start [← self .operand]
  else
    let first ← self .item
    if ← acceptMark .colon then node .pair start [first, ← self .expression] else return first

/-- Whether a tree is an entry of a dictionary. -/
def isEntry (t : Tree) : Bool :=
  t.kind == .pair || t.kind == .mappingSplat

/-- What stands in braces. -/
def braces (self : Grammar) : Parser Tree := do
  let start ← here
  mark .openBrace
  if ← acceptMark .closeBrace then node .dictionary start []
  else
    let more (kind : TokenKind) : Bool := startsExpression kind || kind == .symbol .doubleStar
    let (items, trailing) ← separated more (braceItem self)
    match items, trailing, ← atForClause with
    | [element], false, true =>
      let clauses ← comprehensionClauses self
      mark .closeBrace
      let kind := if element.kind == .pair then .dictionaryComprehension else .setComprehension
      node kind start (element :: clauses ++ elementFaults element)
    | _, _, _ =>
      mark .closeBrace
      if items.all isEntry then node .dictionary start items
      else
        require (items.all (!isEntry ·))
        node .set start items

/-! ### Calls, attributes, subscripts -/

/-- One argument of a call. -/
def argument (self : Grammar) : Parser Tree := do
  let start ← here
  if ← acceptMark .star then node .splat start [← self .expression]
  else if ← acceptMark .doubleStar then node .mappingSplat start [← self .expression]
  else
    match ← peek, ← peekAt 1 with
    | .name text, .symbol .equal =>
      discard take
      discard take
      node (.keywordArgument text) start [← self .expression]
    | _, _ => self .named

/-- The faults in the order of arguments: after a keyword or an unpacked
mapping no positional argument may come. -/
def argumentFaults : Bool → Bool → List Tree → List Tree
  | _, _, [] => []
  | keyword, unpacked, t :: rest =>
    match t.kind with
    | .keywordArgument _ => argumentFaults true unpacked rest
    | .mappingSplat => argumentFaults keyword true rest
    | .splat =>
      (if unpacked then [.node (.fault .positionalAfterUnpacking) t.span []] else []) ++
        argumentFaults keyword unpacked rest
    | _ =>
      (if unpacked then [.node (.fault .positionalAfterUnpacking) t.span []]
        else if keyword then [.node (.fault .positionalAfterKeyword) t.span []]
        else []) ++
        argumentFaults keyword unpacked rest

/-- The arguments of a call.  A single generator needs no brackets of its own
and stands in their place. -/
def arguments (self : Grammar) : Parser Tree := do
  let start ← here
  mark .openParen
  if ← acceptMark .closeParen then node .arguments start []
  else
    let more (kind : TokenKind) : Bool := startsExpression kind || kind == .symbol .doubleStar
    let (items, trailing) ← separated more (argument self)
    match items, trailing, ← atForClause with
    | [element], false, true =>
      let clauses ← comprehensionClauses self
      mark .closeParen
      node .generator start (element :: clauses ++ elementFaults element)
    | _, _, _ =>
      mark .closeParen
      node .arguments start (items ++ argumentFaults false false items)

/-- Whether a bound of a slice comes next. -/
def atBound : Parser Bool := do
  return startsExpression (← peek)

/-- One index: an expression, or a slice. -/
def index (self : Grammar) : Parser Tree := do
  let start ← here
  let first ← if ← atBound then (do return [← self .item]) else pure []
  if ← acceptMark .colon then
    let second ← if ← atBound then (do return [← self .expression]) else pure []
    let third ←
      if ← acceptMark .colon then
        if ← atBound then (do return [← self .expression]) else pure []
      else pure []
    node .slice start (first ++ second ++ third)
  else
    match first with
    | [one] => return one
    | _ => failure

/-- A name, a literal or something in brackets. -/
def atom (self : Grammar) : Parser Tree := do
  let start ← here
  match ← peek with
  | .name text =>
    discard take
    node (.identifier text) start []
  | .number =>
    discard take
    node .number start []
  | .keyword .nothing =>
    discard take
    node .none start []
  | .keyword .truth | .keyword .falsity | .symbol .ellipsis =>
    discard take
    node .constant start []
  | .quoted _ _ | .formattedStart => textLiteral self
  | .symbol .openParen => roundBrackets self
  | .symbol .openBracket => squareBrackets self
  | .symbol .openBrace => braces self
  | _ => failure

/-- What may follow an atom: attributes, calls, subscripts. -/
inductive Trailer where
  | attribute (name : String)
  | call (arguments : Tree)
  | subscript (indices : List Tree)

/-- A trailer, if one comes next. -/
def trailer (self : Grammar) :
    Parser (Option (Trailer × Position)) := do
  match ← peek with
  | .symbol .dot =>
    discard take
    let text ← name
    return some (.attribute text, (← get).last)
  | .symbol .openParen =>
    let args ← arguments self
    return some (.call args, (← get).last)
  | .symbol .openBracket =>
    discard take
    let more (kind : TokenKind) : Bool := startsExpression kind || kind == .symbol .colon
    let (indices, trailing) ← separated more (index self)
    mark .closeBracket
    let indices :=
      match indices, trailing with
      | [one], true => [.node .tuple one.span [one]]
      | _, _ => indices
    return some (.subscript indices, (← get).last)
  | _ => return none

/-- The tree of an atom with a trailer. -/
def attach (start : Position) (object : Tree) : Trailer × Position → Tree
  | (.attribute text, stop) => .node (.attribute text) ⟨start, stop⟩ [object]
  | (.call args, stop) => .node .call ⟨start, stop⟩ [object, args]
  | (.subscript indices, stop) => .node .subscript ⟨start, stop⟩ (object :: indices)

/-- An atom with its trailers. -/
def primary (self : Grammar) : Parser Tree := do
  let start ← here
  let first ← atom self
  let trailers ← many (trailer self)
  return trailers.foldl (attach start) first

/-! ### Operators -/

/-- A primary that may be awaited, and its power. -/
def power (self : Grammar) : Parser Tree := do
  let start ← here
  let base ←
    if ← acceptWord .await then node .await start [← primary self]
    else primary self
  if ← acceptMark .doubleStar then node .binary start [base, ← self .factor] else return base

/-- A power with its signs. -/
def factor (self : Grammar) : Parser Tree := do
  let start ← here
  match ← peek with
  | .symbol .plus | .symbol .minus | .symbol .tilde =>
    discard take
    node .unary start [← self .factor]
  | _ => power self

/-- An expression of arithmetic and bitwise operators. -/
def operand (self : Grammar) : Parser Tree :=
  let product := leftAssociative .binary [.star, .slash, .doubleSlash, .percent, .atSign]
    (factor self)
  let sum := leftAssociative .binary [.plus, .minus] product
  let shift := leftAssociative .binary [.shiftLeft, .shiftRight] sum
  let conjunction := leftAssociative .binary [.ampersand] shift
  let exclusive := leftAssociative .binary [.caret] conjunction
  leftAssociative .binary [.bar] exclusive

/-- Takes an operator of comparison, if one comes next; gives the fault of one
that is out of use. -/
def comparisonOperator : Parser (Option (List Tree)) := do
  let start ← here
  match ← peek, ← peekAt 1 with
  | .symbol m, _ =>
    if [Symbol.less, .greater, .lessEqual, .greaterEqual, .equals, .differs].contains m then
      discard take
      return some []
    else if m == .angleDiffers then
      discard take
      return some [← fault .invalidSyntax start]
    else return none
  | .keyword .in, _ =>
    discard take
    return some []
  | .keyword .is, .keyword .not | .keyword .not, .keyword .in =>
    discard take
    discard take
    return some []
  | .keyword .is, _ =>
    discard take
    return some []
  | _, _ => return none

/-- A comparison of any number of operands. -/
def comparison (self : Grammar) : Parser Tree := do
  let start ← here
  let first ← operand self
  let rest ← many do
    match ← comparisonOperator with
    | some notes => return some ((← operand self) :: notes)
    | none => return none
  if rest.isEmpty then return first else node .comparison start (first :: rest.flatten)

/-- A comparison that may be negated. -/
def inversion (self : Grammar) : Parser Tree := do
  let start ← here
  if ← acceptWord .not then node .negation start [← self .inversion]
  else comparison self

/-- Operands with a word between them that groups to the left. -/
def joinedBy (joint : Keyword) (operand : Parser Tree) : Parser Tree := do
  let start ← here
  let first ← operand
  let rest ← many do
    if ← acceptWord joint then
      let right ← operand
      return some (right, (← get).last)
    else return none
  return rest.foldl (fun left (right, stop) => .node .boolean ⟨start, stop⟩ [left, right]) first

/-- Conjunctions joined by `or`. -/
def disjunction (self : Grammar) : Parser Tree :=
  joinedBy .or (joinedBy .and (inversion self))

/-! ### Functions without a name, conditionals, lists of expressions -/

/-- One parameter, with its annotation if `annotated` allows one.  Its stretch
is that of its name and its annotation. -/
def parameter (self : Grammar) (annotated : Bool) : Parser Tree := do
  let start ← here
  let sort ←
    if ← acceptMark .star then pure ParameterSort.variadic
    else if ← acceptMark .doubleStar then pure ParameterSort.keywords
    else pure ParameterSort.single
  let named ← here
  match ← peek with
  | .name text =>
    discard take
    let typed ← if annotated then acceptMark .colon else pure false
    let declared ←
      if typed then do
        let inner ← here
        let value ← if sort == .variadic then self .item else self .expression
        pure [← node .declaredType inner [value]]
      else pure []
    let span ← spanFrom named
    let fallback ←
      if ← acceptMark .equal then do
        let inner ← here
        pure [← node .defaultValue inner [← self .expression]]
      else pure []
    let notes ← faultIf (sort != .single && !fallback.isEmpty) .invalidSyntax start
    return .node (.parameter text sort) span (declared ++ fallback ++ notes)
  | _ =>
    match sort with
    | .variadic => node .keywordMark start []
    | .keywords => failure
    | .single =>
      mark .slash
      node .positionalMark start []

/-- Whether a parameter may begin with a token. -/
def startsParameter : TokenKind → Bool
  | .name _ | .symbol .star | .symbol .doubleStar | .symbol .slash => true
  | _ => false

/-- What has come before a parameter: any parameter at all, one with a default
value, the mark `/`, a starred parameter or the mark `*`, one for the keywords,
and whether the last was the mark `*`. -/
structure ParameterOrder where
  started : Bool := false
  defaulted : Bool := false
  slash : Bool := false
  starred : Bool := false
  keywords : Bool := false
  bare : Bool := false

namespace ParameterOrder

/-- Whether a parameter or mark may come next. -/
def allows (order : ParameterOrder) (t : Tree) : Bool :=
  match t.kind with
  | .positionalMark => order.started && !order.slash && !order.starred && !order.keywords
  | .keywordMark | .parameter _ .variadic => !order.starred && !order.keywords
  | .parameter _ .keywords => !order.keywords && !order.bare
  | .parameter _ .single =>
    let hasDefault := t.children.any (·.kind == .defaultValue)
    !order.keywords && (!order.defaulted || hasDefault || order.starred)
  | _ => true

/-- What has come before after a parameter or mark. -/
def after (order : ParameterOrder) (t : Tree) : ParameterOrder :=
  match t.kind with
  | .positionalMark => { order with slash := true }
  | .keywordMark => { order with started := true, starred := true, bare := true }
  | .parameter _ .variadic => { order with started := true, starred := true, bare := false }
  | .parameter _ .keywords => { order with started := true, keywords := true, bare := false }
  | .parameter _ .single =>
    let hasDefault := t.children.any (·.kind == .defaultValue)
    { order with started := true, defaulted := order.defaulted || hasDefault, bare := false }
  | _ => order

/-- The parameters and marks that may not stand where they do. -/
def misplaced (order : ParameterOrder) : List Tree → List Tree
  | [] => []
  | t :: rest => (if order.allows t then [] else [t]) ++ misplaced (order.after t) rest

end ParameterOrder

/-- The parameters of a function. -/
def parameters (self : Grammar) (annotated : Bool) : Parser Tree := do
  let start ← here
  if startsParameter (← peek) then
    let (items, _) ← separated startsParameter (parameter self annotated)
    let unfinished := items.getLast?.toList.filter (·.kind == .keywordMark)
    let misplaced := ParameterOrder.misplaced {} items ++ unfinished
    node .parameters start
      (items ++ misplaced.map fun t => .node (.fault .defaultOrder) t.span [])
  else return .node .parameters ⟨start, start⟩ []

/-- An expression: a function without a name, a conditional, or a disjunction. -/
def expression (self : Grammar) : Parser Tree := do
  let start ← here
  if ← acceptWord .lambda then
    let params ← parameters self false
    mark .colon
    node .lambda start [params, ← self .expression]
  else
    let value ← disjunction self
    if ← acceptWord .if then
      let condition ← self .disjunction
      word .else
      node .conditional start [value, condition, ← self .expression]
    else return value

/-- An expression that may name its value. -/
def namedExpression (self : Grammar) : Parser Tree := do
  let start ← here
  match ← peek, ← peekAt 1 with
  | .name text, .symbol .walrus =>
    discard take
    let target ← node (.identifier text) start []
    discard take
    node .namedExpression start [target, ← self .expression]
  | _, _ => expression self

/-- An item of a display. -/
def item (self : Grammar) : Parser Tree := do
  let start ← here
  if ← acceptMark .star then node .splat start [← self .operand] else namedExpression self

/-- An expression or unpacking. -/
def starredExpression (self : Grammar) : Parser Tree := do
  let start ← here
  if ← acceptMark .star then node .splat start [← self .operand] else expression self

/-- Expressions with commas between them, which make a tuple. -/
def expressions (self : Grammar) : Parser Tree := do
  let start ← here
  let (items, trailing) ← separated startsExpression (starredExpression self)
  match items, trailing with
  | [one], false => return one
  | _, _ => node .tuple start items

end IntegrationBuild.Script.Parser
