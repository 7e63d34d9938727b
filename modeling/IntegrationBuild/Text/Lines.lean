/-!
Line breaks.  Text files are read with every line break, whether `\r\n`, `\r`
or `\n`, turned into a line feed.
-/

namespace IntegrationBuild.Text

/-- Turns every line break into a line feed. -/
def unifyLineBreaks : List Char → List Char
  | '\r' :: '\n' :: rest => '\n' :: unifyLineBreaks rest
  | '\r' :: rest => '\n' :: unifyLineBreaks rest
  | c :: rest => c :: unifyLineBreaks rest
  | [] => []

/-- The text of bytes in UTF-8 with unified line breaks, if they decode. -/
def decodeText? (content : ByteArray) : Option (List Char) :=
  (String.fromUTF8? content).map fun s => unifyLineBreaks s.toList

end IntegrationBuild.Text
