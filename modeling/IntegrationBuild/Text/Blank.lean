/-!
Blank characters and trimming.  A character is blank when it separates words
in any script: the ASCII spaces, the information separators `U+001C` to
`U+001F`, and the Unicode spaces and line separators.
-/

namespace IntegrationBuild.Text

/-- Whether `c` is a space, a line break or a separator of any script. -/
def isBlank (c : Char) : Bool :=
  let n := c.toNat
  (0x09 ≤ n && n ≤ 0x0d) || (0x1c ≤ n && n ≤ 0x20) || n == 0x85 || n == 0xa0 ||
    n == 0x1680 || (0x2000 ≤ n && n ≤ 0x200a) || n == 0x2028 || n == 0x2029 ||
    n == 0x202f || n == 0x205f || n == 0x3000

/-- Drops the blanks at the start. -/
def trimLeft (s : List Char) : List Char :=
  s.dropWhile isBlank

/-- Drops the blanks at the end. -/
def trimRight (s : List Char) : List Char :=
  (s.reverse.dropWhile isBlank).reverse

/-- Drops the blanks at both ends. -/
def trim (s : List Char) : List Char :=
  trimRight (trimLeft s)

theorem length_trimLeft_le (s : List Char) : (trimLeft s).length ≤ s.length :=
  (List.dropWhile_sublist isBlank).length_le

theorem length_trimRight_le (s : List Char) : (trimRight s).length ≤ s.length := by
  have h := (List.dropWhile_sublist isBlank (l := s.reverse)).length_le
  simpa [trimRight] using h

theorem length_trim_le (s : List Char) : (trim s).length ≤ s.length :=
  Nat.le_trans (length_trimRight_le _) (length_trimLeft_le s)

/-- Drops the blanks at both ends of a string. -/
def strip (s : String) : String :=
  String.ofList (trim s.toList)

end IntegrationBuild.Text
