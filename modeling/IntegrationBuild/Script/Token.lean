import IntegrationBuild.Script.Fault

/-!
Tokens of a script.  Each logical line begins with a token that carries its
indentation; inside brackets line breaks separate nothing.  A text with fields
is a run of tokens: its start, then for each field the tokens of its
expression between an opening and a closing one, then its end.
-/

namespace IntegrationBuild.Script

/-- The reserved words. -/
inductive Keyword where
  | falsity
  | nothing
  | truth
  | and
  | «as»
  | assert
  | async
  | await
  | «break»
  | «class»
  | «continue»
  | define
  | del
  | elif
  | «else»
  | except
  | «finally»
  | «for»
  | «from»
  | global
  | «if»
  | «import»
  | «in»
  | is
  | lambda
  | nonlocal
  | not
  | or
  | pass
  | raise
  | «return»
  | «try»
  | «while»
  | «with»
  | «yield»
deriving DecidableEq, Repr, Inhabited

/-- The reserved words by their spelling. -/
def keywordTable : List (List Char × Keyword) :=
  [(['F', 'a', 'l', 's', 'e'], .falsity), (['N', 'o', 'n', 'e'], .nothing),
    (['T', 'r', 'u', 'e'], .truth), (['a', 'n', 'd'], .and), (['a', 's'], .as),
    (['a', 's', 's', 'e', 'r', 't'], .assert), (['a', 's', 'y', 'n', 'c'], .async),
    (['a', 'w', 'a', 'i', 't'], .await), (['b', 'r', 'e', 'a', 'k'], .break),
    (['c', 'l', 'a', 's', 's'], .class), (['c', 'o', 'n', 't', 'i', 'n', 'u', 'e'], .continue),
    (['d', 'e', 'f'], .define), (['d', 'e', 'l'], .del), (['e', 'l', 'i', 'f'], .elif),
    (['e', 'l', 's', 'e'], .else), (['e', 'x', 'c', 'e', 'p', 't'], .except),
    (['f', 'i', 'n', 'a', 'l', 'l', 'y'], .finally), (['f', 'o', 'r'], .for),
    (['f', 'r', 'o', 'm'], .from), (['g', 'l', 'o', 'b', 'a', 'l'], .global),
    (['i', 'f'], .if), (['i', 'm', 'p', 'o', 'r', 't'], .import), (['i', 'n'], .in),
    (['i', 's'], .is), (['l', 'a', 'm', 'b', 'd', 'a'], .lambda),
    (['n', 'o', 'n', 'l', 'o', 'c', 'a', 'l'], .nonlocal), (['n', 'o', 't'], .not),
    (['o', 'r'], .or), (['p', 'a', 's', 's'], .pass), (['r', 'a', 'i', 's', 'e'], .raise),
    (['r', 'e', 't', 'u', 'r', 'n'], .return), (['t', 'r', 'y'], .try),
    (['w', 'h', 'i', 'l', 'e'], .while), (['w', 'i', 't', 'h'], .with),
    (['y', 'i', 'e', 'l', 'd'], .yield)]

/-- The marks that are neither words nor literals.  All marks that compute and
assign at once are one. -/
inductive Symbol where
  | openParen
  | closeParen
  | openBracket
  | closeBracket
  | openBrace
  | closeBrace
  | comma
  | colon
  | semicolon
  | dot
  | ellipsis
  | atSign
  | equal
  | walrus
  | arrow
  | augmented
  | star
  | doubleStar
  | plus
  | minus
  | slash
  | doubleSlash
  | percent
  | tilde
  | ampersand
  | bar
  | caret
  | shiftLeft
  | shiftRight
  | less
  | greater
  | lessEqual
  | greaterEqual
  | equals
  | differs
  | angleDiffers
deriving DecidableEq, Repr, Inhabited

/-- The marks by their spelling, longer ones first. -/
def symbolTable : List (List Char × Symbol) :=
  [(['*', '*', '='], .augmented), (['/', '/', '='], .augmented), (['>', '>', '='], .augmented),
    (['<', '<', '='], .augmented), (['.', '.', '.'], .ellipsis),
    (['*', '*'], .doubleStar), (['/', '/'], .doubleSlash), (['>', '>'], .shiftRight),
    (['<', '<'], .shiftLeft), (['<', '='], .lessEqual), (['>', '='], .greaterEqual),
    (['=', '='], .equals), (['!', '='], .differs), (['<', '>'], .angleDiffers),
    (['-', '>'], .arrow), (['+', '='], .augmented), (['-', '='], .augmented),
    (['*', '='], .augmented), (['/', '='], .augmented), (['%', '='], .augmented),
    (['@', '='], .augmented), (['&', '='], .augmented), (['|', '='], .augmented),
    (['^', '='], .augmented), ([':', '='], .walrus),
    (['('], .openParen), ([')'], .closeParen), (['['], .openBracket), ([']'], .closeBracket),
    (['\x7b'], .openBrace), (['\x7d'], .closeBrace), ([','], .comma), ([':'], .colon),
    ([';'], .semicolon), (['.'], .dot), (['@'], .atSign), (['='], .equal), (['*'], .star),
    (['+'], .plus), (['-'], .minus), (['/'], .slash), (['%'], .percent), (['~'], .tilde),
    (['&'], .ampersand), (['|'], .bar), (['^'], .caret), (['<'], .less), (['>'], .greater)]

/-- Whether a literal in quotes is text or bytes. -/
inductive QuotedSort where
  | text
  | bytes
deriving DecidableEq, Repr, Inhabited

/-- What a token is. -/
inductive TokenKind where
  /-- The start of a logical line with its indentation. -/
  | line (indent : Nat)
  | name (text : String)
  | keyword (word : Keyword)
  | symbol (mark : Symbol)
  | number
  /-- A literal in quotes, with the text it stands for if that is known. -/
  | quoted (sort : QuotedSort) (value : Option String)
  | formattedStart
  | fieldOpen
  | conversion
  | specStart
  | fieldClose
  | formattedEnd
  | stop
deriving DecidableEq, Repr, Inhabited

/-- A token with its place, and whether a line break inside brackets comes
before it. -/
structure Token where
  kind : TokenKind
  span : Span
  broken : Bool
deriving DecidableEq, Repr, Inhabited

end IntegrationBuild.Script
