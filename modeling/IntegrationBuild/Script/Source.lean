import IntegrationBuild.Text.Lines

/-!
The text of a script.  A script is read from bytes, and places in it are
counted in bytes, so each character keeps the number of bytes it was written
with.  A byte that belongs to no character stands for itself as the
replacement character of width one.
-/

namespace IntegrationBuild.Script

/-- A place in a script: a line counted from one and a column counted in bytes
from zero. -/
structure Position where
  line : Nat
  column : Nat
deriving DecidableEq, Repr, Inhabited

namespace Position

/-- The first place of a script. -/
def first : Position := ⟨1, 0⟩

/-- Whether one place comes before another. -/
def before (p q : Position) : Bool :=
  p.line < q.line || (p.line == q.line && p.column < q.column)

end Position

/-- A character with the number of bytes it was written with. -/
structure Rune where
  char : Char
  width : Nat
  stray : Bool := false
deriving DecidableEq, Repr, Inhabited

/-- The place after a rune. -/
def Position.after (p : Position) (r : Rune) : Position :=
  if r.char == '\n' then ⟨p.line + 1, 0⟩ else ⟨p.line, p.column + r.width⟩

/-- The place after some runes. -/
def Position.afterAll (p : Position) (runes : List Rune) : Position :=
  runes.foldl Position.after p

/-- The rune of a character in UTF-8. -/
def Rune.ofChar (c : Char) : Rune :=
  { char := c, width := c.utf8Size }

/-- The rune of a byte that belongs to no character. -/
def Rune.ofStray : Rune :=
  { char := '\ufffd', width := 1, stray := true }

/-- The low six bits of a byte that continues a character. -/
def continuation? (b : UInt8) : Option Nat :=
  let n := b.toNat
  if 0x80 ≤ n && n < 0xc0 then some (n - 0x80) else none

/-- The character written by two bytes. -/
def twoBytes? (a b : UInt8) : Option Rune := do
  let n := a.toNat
  let x ← continuation? b
  if 0xc2 ≤ n && n < 0xe0 then some ⟨Char.ofNat ((n - 0xc0) * 64 + x), 2, false⟩ else none

/-- The character written by three bytes. -/
def threeBytes? (a b c : UInt8) : Option Rune := do
  let n := a.toNat
  let x ← continuation? b
  let y ← continuation? c
  let code := ((n - 0xe0) * 64 + x) * 64 + y
  let valid := 0xe0 ≤ n && n < 0xf0 && 0x800 ≤ code && !(0xd800 ≤ code && code < 0xe000)
  if valid then some ⟨Char.ofNat code, 3, false⟩ else none

/-- The character written by four bytes. -/
def fourBytes? (a b c d : UInt8) : Option Rune := do
  let n := a.toNat
  let x ← continuation? b
  let y ← continuation? c
  let z ← continuation? d
  let code := (((n - 0xf0) * 64 + x) * 64 + y) * 64 + z
  let valid := 0xf0 ≤ n && n < 0xf5 && 0x10000 ≤ code && code < 0x110000
  if valid then some ⟨Char.ofNat code, 4, false⟩ else none

/-- The rune that begins with a byte, given the bytes after it. -/
def leadingRune (a : UInt8) : List UInt8 → Rune
  | [] => if a.toNat < 0x80 then ⟨Char.ofNat a.toNat, 1, false⟩ else Rune.ofStray
  | b :: rest =>
    if a.toNat < 0x80 then ⟨Char.ofNat a.toNat, 1, false⟩
    else
      let three := do threeBytes? a b (← rest[0]?)
      let four := do fourBytes? a b (← rest[0]?) (← rest[1]?)
      ((twoBytes? a b).orElse fun _ => three.orElse fun _ => four).getD Rune.ofStray

/-- The runes of bytes of which the first `skip` belong to an earlier rune. -/
def runesAfter : Nat → List UInt8 → List Rune
  | _, [] => []
  | skip + 1, _ :: rest => runesAfter skip rest
  | 0, a :: rest =>
    let r := leadingRune a rest
    r :: runesAfter (r.width - 1) rest

/-- The runes of bytes in UTF-8, with every other byte on its own. -/
def runesOfBytes (bytes : List UInt8) : List Rune :=
  runesAfter 0 bytes

/-- The runes of a text. -/
def runesOfText (text : List Char) : List Rune :=
  text.map Rune.ofChar

/-- The text of runes, without the bytes that belong to no character. -/
def textOfRunes (runes : List Rune) : List Char :=
  (runes.filter (!·.stray)).map Rune.char

theorem textOfRunes_runesOfText (text : List Char) : textOfRunes (runesOfText text) = text := by
  induction text with
  | nil => rfl
  | cons c rest ih =>
    simp only [textOfRunes, runesOfText] at ih ⊢
    simp [Rune.ofChar, ih]

/-- Whether a rune is a blank that may stand between the tokens of a line or
between lines. -/
def Rune.isBlank (r : Rune) : Bool :=
  r.char == ' ' || r.char == '\t' || r.char == '\r' || r.char == '\x0b' || r.char == '\x0c' ||
    r.char == '\ufeff' || r.char == '\u2060' || r.char == '\u200b'

/-- Where a script begins: its first character that is neither blank nor a
line break, or its end. -/
def contentStart (p : Position) : List Rune → Position
  | [] => p
  | r :: rest => if r.isBlank || r.char == '\n' then contentStart (p.after r) rest else p

end IntegrationBuild.Script
