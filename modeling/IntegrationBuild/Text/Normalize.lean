import IntegrationBuild.Json.Parser
import IntegrationBuild.Text.NormalizeTable

/-!
Compatibility normalization of identifiers.  Characters are decomposed, the
marks after each base character are put into the order of their classes, and
what can be composed is composed again.  Two spellings of one identifier so
become one; ASCII text stays as it is.
-/

namespace IntegrationBuild.Text

/-- The number written by hexadecimal digits. -/
def hexNumber (digits : String) : Nat :=
  digits.toList.foldl (fun n c => n * 16 + (Json.hexValue? c).getD 0) 0

/-- The two sides of an entry. -/
def entrySides (entry : String) : String × String :=
  match entry.splitOn ">" with
  | [left, right] => (left, right)
  | _ => (entry, "")

/-- The entries of a table. -/
def tableEntries (lines : List String) : List (String × String) :=
  lines.flatMap fun line => (line.splitOn " ").map entrySides

/-- The first and the last character of a range. -/
def rangeOf (text : String) : Nat × Nat :=
  match text.splitOn "-" with
  | [first, last] => (hexNumber first, hexNumber last)
  | _ => (hexNumber text, hexNumber text)

/-- Ranges of characters and what their first one decomposes to. -/
def decompositionTable : List ((Nat × Nat) × List Nat) :=
  (tableEntries decompositionLines).map fun (left, right) =>
    (rangeOf left, (right.splitOn "+").map hexNumber)

/-- Ranges of characters with their combining class. -/
def combiningClassTable : List ((Nat × Nat) × Nat) :=
  (tableEntries combiningClassLines).map fun (left, right) => (rangeOf left, hexNumber right)

/-- Pairs of characters and what they compose to. -/
def compositionTable : List ((Nat × Nat) × Nat) :=
  (tableEntries compositionLines).map fun (left, right) =>
    match left.splitOn "+" with
    | [a, b] => ((hexNumber a, hexNumber b), hexNumber right)
    | _ => ((0, 0), 0)

/-- The entry of a table of ranges that a number lies in. -/
def rangeWith? {α : Type} (table : List ((Nat × Nat) × α)) (n : Nat) :
    Option ((Nat × Nat) × α) :=
  table.find? fun entry => entry.1.1 ≤ n && n ≤ entry.1.2

/-- The full decomposition of a character.  A Hangul syllable has two or three
parts by its number. -/
def decompose (n : Nat) : List Nat :=
  if n < 128 then [n]
  else if 0xac00 ≤ n && n ≤ 0xd7a3 then
    let i := n - 0xac00
    let last := i % 28
    [0x1100 + i / 588, 0x1161 + i % 588 / 28] ++ (if last == 0 then [] else [0x11a7 + last])
  else
    match rangeWith? decompositionTable n with
    | some ((first, _), [target]) => [target + (n - first)]
    | some (_, targets) => targets
    | none => [n]

/-- The combining class of a character; zero for a base character. -/
def combiningClass (n : Nat) : Nat :=
  if n < 128 then 0 else ((rangeWith? combiningClassTable n).map Prod.snd).getD 0

/-- What two characters compose to. -/
def compose? (a b : Nat) : Option Nat :=
  if 0x1100 ≤ a && a < 0x1113 && 0x1161 ≤ b && b < 0x1176 then
    some (0xac00 + ((a - 0x1100) * 21 + (b - 0x1161)) * 28)
  else if 0xac00 ≤ a && a ≤ 0xd7a3 && (a - 0xac00) % 28 == 0 && 0x11a7 < b && b < 0x11c3 then
    some (a + (b - 0x11a7))
  else compositionTable.lookup (a, b)

/-- Puts a character with its class after those of the same or a lower class,
but not before a base character. -/
def insertMark (mark : Nat × Nat) : List (Nat × Nat) → List (Nat × Nat)
  | [] => [mark]
  | other :: earlier =>
    if mark.2 != 0 && mark.2 < other.2 then other :: insertMark mark earlier
    else mark :: other :: earlier

/-- The characters with their classes, the marks after each base character in
order; the last character stands first. -/
def orderMarks (codes : List Nat) : List (Nat × Nat) :=
  codes.foldl (fun done n => insertMark (n, combiningClass n) done) []

/-- The state of composing: what is finished, last first; the base character
that marks may still join; and the marks that did not, last first. -/
structure Composition where
  done : List Nat := []
  base : Option Nat := none
  marks : List (Nat × Nat) := []

namespace Composition

/-- Everything so far, last first. -/
def flush (s : Composition) : List Nat :=
  s.marks.map Prod.fst ++ s.base.toList ++ s.done

/-- Whether the marks so far keep a character from its base. -/
def blocks (s : Composition) (mark : Nat × Nat) : Bool :=
  match s.marks with
  | [] => false
  | (_, k) :: _ => mark.2 ≤ k

/-- Takes the next character. -/
def step (s : Composition) (mark : Nat × Nat) : Composition :=
  match s.base with
  | none =>
    if mark.2 == 0 then { s with base := some mark.1 } else { s with done := mark.1 :: s.done }
  | some base =>
    let joined := if s.blocks mark then none else compose? base mark.1
    match joined with
    | some n => { s with base := some n }
    | none =>
      if mark.2 == 0 then { done := s.flush, base := some mark.1 }
      else { s with marks := mark :: s.marks }

end Composition

/-- The normal form of a text. -/
def normalize (text : List Char) : List Char :=
  if text.all (·.toNat < 128) then text
  else
    let ordered := (orderMarks (text.flatMap fun c => decompose c.toNat)).reverse
    ((ordered.foldl Composition.step {}).flush.reverse).map Char.ofNat

theorem normalize_of_ascii {text : List Char} (h : ∀ c ∈ text, c.toNat < 128) :
    normalize text = text := by
  have : text.all (·.toNat < 128) = true := by simpa using h
  simp [normalize, this]

end IntegrationBuild.Text
