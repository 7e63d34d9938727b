import IntegrationBuild.Json.Parser

/-!
Escapes in quoted literals.  A backslash with a line break stands for nothing,
with a letter or a code for one character, and before any other character for
itself.  A code with too few digits makes the literal unreadable.
-/

namespace IntegrationBuild.Script

/-- The character that a one-letter escape stands for. -/
def letterEscape? : Char → Option Char
  | '\\' => some '\\'
  | '\'' => some '\''
  | '"' => some '"'
  | 'a' => some '\x07'
  | 'b' => some '\x08'
  | 'f' => some '\x0c'
  | 'n' => some '\n'
  | 'r' => some '\r'
  | 't' => some '\t'
  | 'v' => some '\x0b'
  | _ => none

/-- The value of an octal digit. -/
def octalDigit? (c : Char) : Option Nat :=
  if '0' ≤ c && c ≤ '7' then some (c.toNat - '0'.toNat) else none

/-- The number written by hexadecimal digits. -/
def hexNumber? (digits : List Char) : Option Nat :=
  digits.foldlM (fun n c => (Json.hexValue? c).map (n * 16 + ·)) 0

/-- The character of a code point; half of a pair reads as the replacement
character. -/
def charOfCode (n : Nat) : Char :=
  if n.isValidChar then Char.ofNat n else '\ufffd'

/-- The character of `count` hexadecimal digits. -/
def hexEscape? (count : Nat) (rest : List Char) : Option (List Char × Nat) := do
  let digits := rest.take count
  let n ← hexNumber? digits
  if digits.length == count && n < 0x110000 then some ([charOfCode n], count + 1) else none

/-- The character of one to three octal digits. -/
def octalEscape (rest : List Char) : List Char × Nat :=
  let digits := (rest.take 3).takeWhile fun c => (octalDigit? c).isSome
  let n := digits.foldl (fun n c => n * 8 + (octalDigit? c).getD 0) 0
  ([charOfCode n], digits.length)

/-- The text that the escape after a backslash stands for, and how many
characters it has.  The name of a character is not looked up, so that one that no
character has is no fault here; whatever the name, it reads as the replacement
character. -/
def escape? : List Char → Option (List Char × Nat)
  | [] => none
  | '\n' :: _ => some ([], 1)
  | 'x' :: rest => hexEscape? 2 rest
  | 'u' :: rest => hexEscape? 4 rest
  | 'U' :: rest => hexEscape? 8 rest
  | 'N' :: '\x7b' :: rest =>
    let name := rest.takeWhile (· != '\x7d')
    if name.isEmpty || name.length == rest.length then none
    else some (['\ufffd'], name.length + 3)
  | 'N' :: _ => none
  | c :: rest =>
    if (octalDigit? c).isSome then some (octalEscape (c :: rest))
    else
      match letterEscape? c with
      | some d => some ([d], 1)
      | none => some (['\\', c], 1)

/-- The text that a literal stands for, of which the first `skip` characters
belong to an earlier escape. -/
def unescapeAfter : Nat → List Char → Option (List Char)
  | _, [] => some []
  | skip + 1, _ :: rest => unescapeAfter skip rest
  | 0, c :: rest =>
    if c == '\\' then do
      let (text, used) ← escape? rest
      return text ++ (← unescapeAfter used rest)
    else (unescapeAfter 0 rest).map (c :: ·)

/-- The text that a literal stands for. -/
def unescape? (literal : List Char) : Option (List Char) :=
  unescapeAfter 0 literal

theorem unescapeAfter_of_forall_ne {literal : List Char} (h : ∀ c ∈ literal, c ≠ '\\') :
    unescapeAfter 0 literal = some literal := by
  induction literal with
  | nil => rfl
  | cons c rest ih =>
    have hc : (c == '\\') = false := by simpa using h c (by simp)
    simp [unescapeAfter, hc, ih fun d hd => h d (by simp [hd])]

end IntegrationBuild.Script
