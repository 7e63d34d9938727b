import IntegrationBuild.Json.Basic

/-!
Reading JSON text.  A repeated key keeps its first place and its last value;
a number with a fraction or an exponent is a floating-point number.
-/

namespace IntegrationBuild.Json

/-- Drops the blanks between JSON tokens. -/
def skipBlanks (s : List Char) : List Char :=
  s.dropWhile fun c => c == ' ' || c == '\t' || c == '\n' || c == '\r'

/-- The value of a hexadecimal digit. -/
def hexValue? (c : Char) : Option Nat :=
  if c.isDigit then some (c.toNat - 0x30)
  else if 'a' ≤ c && c ≤ 'f' then some (c.toNat - 0x57)
  else if 'A' ≤ c && c ≤ 'F' then some (c.toNat - 0x37)
  else none

/-- Reads the four digits of a `\u` escape. -/
def readUnit : List Char → Option (Nat × List Char)
  | a :: b :: c :: d :: rest => do
    let a ← hexValue? a
    let b ← hexValue? b
    let c ← hexValue? c
    let d ← hexValue? d
    some (((a * 16 + b) * 16 + c) * 16 + d, rest)
  | _ => none

/-- Joins two halves of a surrogate pair. -/
def joinSurrogates (high low : Nat) : Char :=
  Char.ofNat (0x10000 + (high - 0xd800) * 0x400 + (low - 0xdc00))

/-- Reads the rest of a string after its opening quote. -/
def readString : Nat → List Char → List Char → Option (String × List Char)
  | 0, _, _ => none
  | fuel + 1, s, acc =>
    match s with
    | [] => none
    | '"' :: rest => some (String.ofList acc.reverse, rest)
    | '\\' :: 'u' :: rest => do
      let (unit, rest) ← readUnit rest
      if 0xd800 ≤ unit && unit < 0xdc00 then
        match rest with
        | '\\' :: 'u' :: tail =>
          match readUnit tail with
          | some (low, tail) =>
            if 0xdc00 ≤ low && low < 0xe000 then
              readString fuel tail (joinSurrogates unit low :: acc)
            else readString fuel rest (Char.ofNat 0xfffd :: acc)
          | none => none
        | _ => readString fuel rest (Char.ofNat 0xfffd :: acc)
      else if 0xdc00 ≤ unit && unit < 0xe000 then
        readString fuel rest (Char.ofNat 0xfffd :: acc)
      else readString fuel rest (Char.ofNat unit :: acc)
    | '\\' :: c :: rest => do
      let c ← match c with
        | '"' => some '"'
        | '\\' => some '\\'
        | '/' => some '/'
        | 'b' => some '\x08'
        | 'f' => some '\x0c'
        | 'n' => some '\n'
        | 'r' => some '\r'
        | 't' => some '\t'
        | _ => none
      readString fuel rest (c :: acc)
    | c :: rest => if c.toNat < 0x20 then none else readString fuel rest (c :: acc)

/-- The value of a run of decimal digits. -/
def digitsValue (s : List Char) : Nat :=
  s.foldl (fun n c => n * 10 + (c.toNat - 0x30)) 0

/-- Splits off the decimal digits at the start. -/
def spanDigits (s : List Char) : List Char × List Char :=
  (s.takeWhile Char.isDigit, s.dropWhile Char.isDigit)

/-- Reads a fraction, a point and at least one digit. -/
def readFraction : List Char → Option (List Char × List Char)
  | '.' :: rest =>
    match spanDigits rest with
    | ([], _) => none
    | (digits, rest) => some (digits, rest)
  | _ => none

/-- Reads an exponent part. -/
def readExponent : List Char → Option (Int × List Char)
  | [] => none
  | e :: rest =>
    if e == 'e' || e == 'E' then
      let (negative, rest) := match rest with
        | '-' :: r => (true, r)
        | '+' :: r => (false, r)
        | r => (false, r)
      match spanDigits rest with
      | ([], _) => none
      | (digits, rest) =>
        let n : Int := digitsValue digits
        some (if negative then -n else n, rest)
    else none

/-- Reads a number. -/
def readNumber (s : List Char) : Option (Json × List Char) :=
  let (negative, s) := match s with
    | '-' :: r => (true, r)
    | r => (false, r)
  match spanDigits s with
  | ([], _) => none
  | (digits, rest) =>
    if digits.length > 1 && digits.head? == some '0' then none
    else
      match readFraction rest, readExponent rest with
      | none, none =>
        let n : Int := digitsValue digits
        some (.int (if negative then -n else n), rest)
      | some (fraction, rest), _ =>
        let (e, rest) := (readExponent rest).getD (0, rest)
        some (.float (.ofDecimal negative (digitsValue (digits ++ fraction))
          (e - fraction.length)), rest)
      | none, some (e, rest) =>
        some (.float (.ofDecimal negative (digitsValue digits) e), rest)

/-- What follows a literal word at the start of a text. -/
def afterWord (word : String) (s : List Char) : Option (List Char) :=
  if word.toList.isPrefixOf s then some (s.drop word.length) else none

mutual

/-- Reads one document, blanks before it allowed. -/
def readValue : Nat → List Char → Option (Json × List Char)
  | 0, _ => none
  | fuel + 1, s =>
    match skipBlanks s with
    | [] => none
    | '"' :: rest => (readString (rest.length + 1) rest []).map fun (t, r) => (.str t, r)
    | '[' :: rest =>
      match skipBlanks rest with
      | ']' :: rest => some (.arr [], rest)
      | rest => readItems fuel rest []
    | '\x7b' :: rest =>
      match skipBlanks rest with
      | '\x7d' :: rest => some (.obj [], rest)
      | rest => readMembers fuel rest []
    | s =>
      match afterWord "null" s with
      | some rest => some (.null, rest)
      | none =>
      match afterWord "true" s with
      | some rest => some (.bool true, rest)
      | none =>
      match afterWord "false" s with
      | some rest => some (.bool false, rest)
      | none =>
      match afterWord "NaN" s with
      | some rest => some (.float .nan, rest)
      | none =>
      match afterWord "Infinity" s with
      | some rest => some (.float (.infinity false), rest)
      | none =>
      match afterWord "-Infinity" s with
      | some rest => some (.float (.infinity true), rest)
      | none => readNumber s

/-- Reads the items of an array up to its closing bracket. -/
def readItems : Nat → List Char → List Json → Option (Json × List Char)
  | 0, _, _ => none
  | fuel + 1, s, acc => do
    let (item, rest) ← readValue fuel s
    match skipBlanks rest with
    | ',' :: rest => readItems fuel rest (item :: acc)
    | ']' :: rest => some (.arr (item :: acc).reverse, rest)
    | _ => none

/-- Reads the members of an object up to its closing brace. -/
def readMembers : Nat → List Char → List (String × Json) → Option (Json × List Char)
  | 0, _, _ => none
  | fuel + 1, s, acc =>
    match skipBlanks s with
    | '"' :: rest => do
      let (key, rest) ← readString (rest.length + 1) rest []
      match skipBlanks rest with
      | ':' :: rest => do
        let (value, rest) ← readValue fuel rest
        let acc := insertMember acc key value
        match skipBlanks rest with
        | ',' :: rest => readMembers fuel rest acc
        | '\x7d' :: rest => some (.obj acc, rest)
        | _ => none
      | _ => none
    | _ => none

end

/-- Reads a whole JSON text. -/
def parse? (text : String) : Option Json :=
  let s := text.toList
  match readValue (2 * s.length + 2) s with
  | some (json, rest) => if (skipBlanks rest).isEmpty then some json else none
  | none => none

end IntegrationBuild.Json
