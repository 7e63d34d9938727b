import IntegrationBuild.Script.Lexer
import IntegrationBuild.Script.Parser.Statement
import IntegrationBuild.Text.Normalize

/-!
Reading scripts.  The lenient reading gives a tree wherever one can be made
out; the strict reading gives one only to scripts without faults.
-/

namespace IntegrationBuild.Script

/-- The tree of a script and its faults, in the order of their places.  No
script holds the character zero. -/
def readTree? (reading : Reading) (fold : List Char → List Char) (runes : List Rune) :
    Option (Tree × List Fault) := do
  guard (runes.all (·.char != '\x00'))
  let (tokens, lexical) ← lex? reading fold runes
  let tree ← Parser.tree? tokens
  let inOrder (a b : Fault) : Bool := !b.span.start.before a.span.start
  return (tree, (lexical ++ tree.faults).mergeSort inOrder)

/-- The tree of a script in the lenient reading. -/
def lenientTree? (content : ByteArray) : Option Tree :=
  (readTree? .lenient id (runesOfBytes content.toList)).map Prod.fst

/-- The tree of a text in the strict reading, where names are normalized.  It is told from
the form of the text alone: not looked at are the letter after the `!` of a replacement
field, whether a pattern adds a real number to an imaginary one, and whether a character
has the name that an escape gives it. -/
def strictTree? (text : List Char) : Option Tree :=
  match readTree? .strict Text.normalize (runesOfText text) with
  | some (tree, []) => some tree
  | _ => none

/-- Where the tree of a script begins. -/
def rootStart (content : ByteArray) : Position :=
  contentStart Position.first (runesOfBytes content.toList)

end IntegrationBuild.Script
