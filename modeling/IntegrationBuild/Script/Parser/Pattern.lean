import IntegrationBuild.Script.Parser.Expression

/-!
Patterns of `match` statements.
-/

namespace IntegrationBuild.Script.Parser

/-- Whether a pattern may begin with a token. -/
def startsPattern : TokenKind → Bool
  | .name _ | .number | .quoted _ _ | .formattedStart => true
  | .keyword k => [Keyword.nothing, .truth, .falsity].contains k
  | .symbol m =>
    [Symbol.openParen, .openBracket, .openBrace, .minus, .star].contains m
  | _ => false

/-- A number with its sign, or the sum of a real and an imaginary one. -/
def signedNumber : Parser Tree := do
  let start ← here
  discard (acceptMark .minus)
  expect .number
  match ← peek, ← peekAt 1 with
  | .symbol .plus, .number | .symbol .minus, .number =>
    discard take
    discard take
  | _, _ => pure ()
  node .number start []

/-- A constant that a subject is compared with. -/
def constantPattern (self : Grammar) : Parser Tree := do
  let start ← here
  match ← peek with
  | .number | .symbol .minus => node .valuePattern start [← signedNumber]
  | .quoted _ _ | .formattedStart => node .valuePattern start [← textLiteral self]
  | .keyword .nothing =>
    discard take
    node .valuePattern start [← node .none start []]
  | .keyword .truth | .keyword .falsity =>
    discard take
    node .valuePattern start [← node .constant start []]
  | _ => failure

/-- A name with attributes. -/
def dottedName : Parser Tree := do
  let start ← here
  let first ← node (.identifier (← name)) start []
  let rest ← many do
    if ← acceptMark .dot then
      let text ← name
      return some (text, (← get).last)
    else return none
  return rest.foldl
    (fun object (text, stop) => .node (.attribute text) ⟨start, stop⟩ [object]) first

/-- A pattern, or a starred name that takes the rest of a sequence. -/
def sequenceItem (self : Grammar) : Parser Tree := do
  let start ← here
  if ← acceptMark .star then
    let text ← name
    node (.starPattern text) start []
  else self .pattern

/-- Patterns in brackets, up to the closing mark. -/
def bracketedPatterns (self : Grammar) (closing : Symbol) : Parser (List Tree × Bool) := do
  if ← acceptMark closing then return ([], false)
  else
    let (items, trailing) ← separated startsPattern (sequenceItem self)
    mark closing
    return (items, trailing)

/-- An entry of a mapping pattern. -/
def mappingEntry (self : Grammar) : Parser Tree := do
  let start ← here
  if ← acceptMark .doubleStar then
    let text ← name
    node (.mappingRest text) start []
  else
    let key ←
      match ← peek with
      | .name _ => dottedName
      | _ => constantPattern self
    mark .colon
    node .mappingEntry start [key, ← self .pattern]

/-- An argument of a class pattern. -/
def classArgument (self : Grammar) : Parser Tree := do
  let start ← here
  match ← peek, ← peekAt 1 with
  | .name text, .symbol .equal =>
    discard take
    discard take
    node (.keywordPattern text) start [← self .pattern]
  | _, _ => self .pattern

/-- A pattern that is not a choice and has no name of its own. -/
def closedPattern (self : Grammar) : Parser Tree := do
  let start ← here
  match ← peek with
  | .name text =>
    let value ← dottedName
    if (← peek) == .symbol .openParen then
      discard take
      if ← acceptMark .closeParen then node .classPattern start [value]
      else
        let (items, _) ← separated startsPattern (classArgument self)
        mark .closeParen
        node .classPattern start (value :: items)
    else
      match value.kind with
      | .identifier _ => node (.capturePattern text) start []
      | _ => node .valuePattern start [value]
  | .symbol .openParen =>
    discard take
    let (items, trailing) ← bracketedPatterns self .closeParen
    match items, trailing with
    | [.node (.starPattern text) span children], false =>
      node .sequencePattern start [.node (.starPattern text) span children]
    | [one], false => node .groupPattern start [one]
    | _, _ => node .sequencePattern start items
  | .symbol .openBracket =>
    discard take
    let (items, _) ← bracketedPatterns self .closeBracket
    node .sequencePattern start items
  | .symbol .openBrace =>
    discard take
    if ← acceptMark .closeBrace then node .mappingPattern start []
    else
      let more (kind : TokenKind) : Bool := startsPattern kind || kind == .symbol .doubleStar
      let (items, _) ← separated more (mappingEntry self)
      mark .closeBrace
      node .mappingPattern start items
  | _ => constantPattern self

/-- A choice of patterns that may be given a name. -/
def pattern (self : Grammar) : Parser Tree := do
  let start ← here
  let first ← closedPattern self
  let rest ← many do
    if ← acceptMark .bar then return some (← closedPattern self) else return none
  let choice ← if rest.isEmpty then pure first else node .orPattern start (first :: rest)
  if ← acceptWord .as then
    let text ← name
    node (.asPattern text) start [choice]
  else return choice

/-- The pattern of a case; patterns with commas make a sequence. -/
def casePattern (self : Grammar) : Parser Tree := do
  let start ← here
  let (items, trailing) ← separated startsPattern (sequenceItem self)
  match items, trailing with
  | [.node (.starPattern text) span children], false =>
    node .sequencePattern start
      [.node (.starPattern text) span children, ← fault .invalidSyntax start]
  | [one], false => return one
  | _, _ => node .sequencePattern start items

end IntegrationBuild.Script.Parser
