import IntegrationBuild.Json.Parser
import IntegrationBuild.Value.Basic

/-!
Scalars of TOML: strings in their four forms, whole and floating-point numbers,
days and times.  A reader takes the longest scalar at the start of a text and
returns it with the rest; what may follow is for the caller to say.
-/

namespace IntegrationBuild.Toml

/-- Drops the blanks within a line. -/
def skipBlanks (s : List Char) : List Char :=
  s.dropWhile fun c => c == ' ' || c == '\t'

/-- Drops blanks and line breaks. -/
def skipSpace (s : List Char) : List Char :=
  s.dropWhile fun c => c == ' ' || c == '\t' || c == '\n'

/-- Whether a character may not stand in a line: a control character other
than a tab. -/
def isControl (c : Char) : Bool :=
  (c.toNat < 0x20 && c != '\t') || c.toNat == 0x7f

/-- The character that hexadecimal digits stand for, if it is one. -/
def scalarOf? (digits : List Char) : Option Char := do
  let n ← digits.foldlM (fun n c => (Json.hexValue? c).map fun d => n * 16 + d) 0
  if n < 0xd800 || (0xe000 ≤ n && n ≤ 0x10ffff) then some (Char.ofNat n) else none

/-- Reads a character given by a fixed number of hexadecimal digits. -/
def readScalarEscape (width : Nat) (s : List Char) : Option (Char × List Char) :=
  if s.length < width then none
  else (scalarOf? (s.take width)).map fun c => (c, s.drop width)

/-- The character of a one-letter escape. -/
def letterEscape? : Char → Option Char
  | 'b' => some '\x08'
  | 't' => some '\t'
  | 'n' => some '\n'
  | 'f' => some '\x0c'
  | 'r' => some '\r'
  | '"' => some '"'
  | '\\' => some '\\'
  | _ => none

/-- Reads an escape after its backslash. -/
def readEscape : List Char → Option (Char × List Char)
  | 'u' :: rest => readScalarEscape 4 rest
  | 'U' :: rest => readScalarEscape 8 rest
  | c :: rest => (letterEscape? c).map fun c => (c, rest)
  | [] => none

/-- Skips what a backslash at the end of a line joins: the line break and all
space after it. -/
def skipJoin (s : List Char) : Option (List Char) :=
  match skipBlanks s with
  | '\n' :: rest => some (skipSpace rest)
  | _ => none

/-- Reads the rest of a quoted string after its opening quote. -/
def readBasic : Nat → List Char → List Char → Option (String × List Char)
  | 0, _, _ => none
  | fuel + 1, s, acc =>
    match s with
    | [] => none
    | '"' :: rest => some (String.ofList acc.reverse, rest)
    | '\\' :: rest => do
      let (c, rest) ← readEscape rest
      readBasic fuel rest (c :: acc)
    | c :: rest => if isControl c then none else readBasic fuel rest (c :: acc)

/-- Ends a string of several lines: up to two more quotes belong to its text. -/
def closeLines (quote : Char) (acc s : List Char) : String × List Char :=
  let extra := (s.takeWhile (· == quote)).length.min 2
  (String.ofList (acc.reverse ++ List.replicate extra quote), s.drop extra)

/-- Reads the rest of a quoted string of several lines. -/
def readBasicLines : Nat → List Char → List Char → Option (String × List Char)
  | 0, _, _ => none
  | fuel + 1, s, acc =>
    match s with
    | [] => none
    | '"' :: '"' :: '"' :: rest => some (closeLines '"' acc rest)
    | '\\' :: rest =>
      match skipJoin rest with
      | some rest => readBasicLines fuel rest acc
      | none => do
        let (c, rest) ← readEscape rest
        readBasicLines fuel rest (c :: acc)
    | c :: rest =>
      if isControl c && c != '\n' then none else readBasicLines fuel rest (c :: acc)

/-- Reads the rest of a literal string after its opening apostrophe. -/
def readLiteral : List Char → List Char → Option (String × List Char)
  | [], _ => none
  | '\'' :: rest, acc => some (String.ofList acc.reverse, rest)
  | c :: rest, acc => if isControl c then none else readLiteral rest (c :: acc)

/-- Reads the rest of a literal string of several lines. -/
def readLiteralLines : List Char → List Char → Option (String × List Char)
  | [], _ => none
  | '\'' :: '\'' :: '\'' :: rest, acc => some (closeLines '\'' acc rest)
  | c :: rest, acc =>
    if isControl c && c != '\n' then none else readLiteralLines rest (c :: acc)

/-- Drops a line break right after the opening of a string of several lines. -/
def skipFirstBreak : List Char → List Char
  | '\n' :: rest => rest
  | s => s

/-- Reads a string of any form. -/
def readString : List Char → Option (String × List Char)
  | '"' :: '"' :: '"' :: rest => readBasicLines (rest.length + 1) (skipFirstBreak rest) []
  | '"' :: rest => readBasic (rest.length + 1) rest []
  | '\'' :: '\'' :: '\'' :: rest => readLiteralLines (skipFirstBreak rest) []
  | '\'' :: rest => readLiteral rest []
  | _ => none

/-- Reads exactly `count` decimal digits. -/
def readDigits (count : Nat) (s : List Char) : Option (Nat × List Char) :=
  let digits := s.take count
  if digits.length == count && digits.all Char.isDigit then
    some (Json.digitsValue digits, s.drop count)
  else none

/-- Reads exactly two digits whose value lies between two bounds. -/
def readTwo (low high : Nat) (s : List Char) : Option (Nat × List Char) := do
  let (n, rest) ← readDigits 2 s
  if low ≤ n && n ≤ high then some (n, rest) else none

/-- What follows one expected character. -/
def after (c : Char) : List Char → Option (List Char)
  | d :: rest => if c == d then some rest else none
  | [] => none

/-- Reads a fraction of a second, of which six digits count. -/
def readMicroseconds (s : List Char) : Nat × List Char :=
  match Json.readFraction s with
  | some (digits, rest) =>
    let counted := digits.take 6
    (Json.digitsValue (counted ++ List.replicate (6 - counted.length) '0'), rest)
  | none => (0, s)

/-- Reads a time of day. -/
def readTime (s : List Char) : Option (TimeOfDay × List Char) := do
  let (hour, rest) ← readTwo 0 23 s
  let (minute, rest) ← readTwo 0 59 (← after ':' rest)
  let (second, rest) ← readTwo 0 59 (← after ':' rest)
  let (microsecond, rest) := readMicroseconds rest
  some ({ hour := hour, minute := minute, second := second, microsecond := microsecond }, rest)

/-- Reads the hours and minutes of an offset, as seconds. -/
def readOffsetSpan (s : List Char) : Option (Nat × List Char) := do
  let (hours, rest) ← readTwo 0 23 s
  let (minutes, rest) ← readTwo 0 59 (← after ':' rest)
  some (hours * 3600 + minutes * 60, rest)

/-- Reads the offset from universal time, if one is given. -/
def readOffset (s : List Char) : Option Int × List Char :=
  match s with
  | [] => (none, s)
  | c :: rest =>
    if c == 'Z' || c == 'z' then (some 0, rest)
    else if c == '+' || c == '-' then
      match readOffsetSpan rest with
      | some (seconds, rest) => (some (if c == '-' then -(seconds : Int) else seconds), rest)
      | none => (none, s)
    else (none, s)

/-- Reads the digits of a day. -/
def readDate (s : List Char) : Option (Date × List Char) := do
  let (year, rest) ← readDigits 4 s
  let (month, rest) ← readTwo 1 12 (← after '-' rest)
  let (day, rest) ← readTwo 1 31 (← after '-' rest)
  some ({ year := year, month := month, day := day }, rest)

/-- Whether a day is in the calendar. -/
def isDay (date : Date) : Bool :=
  date.year != 0 && date.day ≤ Date.daysInMonth date.year date.month

/-- Reads the time that may follow a day. -/
def readDayTime : List Char → Option (TimeOfDay × List Char)
  | c :: rest => if c == 'T' || c == 't' || c == ' ' then readTime rest else none
  | [] => none

/-- Reads a day, with a time and an offset if they are given.  A day that is
not in the calendar has no value. -/
def readMoment (s : List Char) : Option (Option Value × List Char) := do
  let (date, rest) ← readDate s
  match readDayTime rest with
  | none => some (if isDay date then some (.date date) else none, rest)
  | some (time, rest) =>
    let (offset, rest) := readOffset rest
    let moment : Moment := { date := date, time := time, offset := offset }
    some (if isDay date then some (.moment moment) else none, rest)

/-- Splits off digits, where one underscore may stand between two of them. -/
def spanDigits (isDigit : Char → Bool) : List Char → List Char × List Char
  | [] => ([], [])
  | '_' :: d :: rest =>
    if isDigit d then
      let (digits, rest) := spanDigits isDigit rest
      (d :: digits, rest)
    else ([], '_' :: d :: rest)
  | c :: rest =>
    if isDigit c then
      let (digits, rest) := spanDigits isDigit rest
      (c :: digits, rest)
    else ([], c :: rest)

/-- Reads digits of a base: the first is no underscore. -/
def readDigitsIn (base : Nat) (s : List Char) : Option (List Char × List Char) :=
  let isDigit (c : Char) : Bool := (Json.hexValue? c).any fun d => d < base
  match s with
  | c :: _ => if isDigit c then some (spanDigits isDigit s) else none
  | [] => none

/-- The value of digits in a base. -/
def digitsValueIn (base : Nat) (digits : List Char) : Nat :=
  digits.foldl (fun n c => n * base + (Json.hexValue? c).getD 0) 0

/-- Reads a whole number with a base mark. -/
def readBased : List Char → Option (Int × List Char)
  | '0' :: mark :: rest =>
    let base := match mark with
      | 'x' => 16
      | 'o' => 8
      | 'b' => 2
      | _ => 0
    (readDigitsIn base rest).map fun (digits, rest) => ((digitsValueIn base digits : Nat), rest)
  | _ => none

/-- Splits off a sign; the first part tells whether it is a minus. -/
def spanSign : List Char → Bool × List Char
  | '-' :: rest => (true, rest)
  | '+' :: rest => (false, rest)
  | s => (false, s)

/-- Reads the whole part of a decimal number, which has no leading zero. -/
def readWhole : List Char → Option (List Char × List Char)
  | '0' :: rest => some (['0'], rest)
  | s => readDigitsIn 10 s

/-- Reads the fraction of a decimal number. -/
def readFraction (s : List Char) : Option (List Char × List Char) :=
  (after '.' s).bind (readDigitsIn 10)

/-- Reads the exponent of a decimal number. -/
def readExponent : List Char → Option (Int × List Char)
  | e :: rest =>
    if e == 'e' || e == 'E' then
      let (negative, rest) := spanSign rest
      (readDigitsIn 10 rest).map fun (digits, rest) =>
        let n : Int := Json.digitsValue digits
        (if negative then -n else n, rest)
    else none
  | [] => none

/-- Reads a decimal number; one with a fraction or an exponent is a
floating-point number. -/
def readDecimal (s : List Char) : Option (Value × List Char) := do
  let (negative, rest) := spanSign s
  let (whole, rest) ← readWhole rest
  match readFraction rest, readExponent rest with
  | none, none =>
    let n : Int := Json.digitsValue whole
    some (.int (if negative then -n else n), rest)
  | some (fraction, rest), _ =>
    let (e, rest) := (readExponent rest).getD (0, rest)
    some (.float (.ofDecimal negative (Json.digitsValue (whole ++ fraction))
      (e - fraction.length)), rest)
  | none, some (e, rest) =>
    some (.float (.ofDecimal negative (Json.digitsValue whole) e), rest)

/-- Reads an infinity or the value that is no number. -/
def readSpecial (s : List Char) : Option (Value × List Char) :=
  let (negative, rest) := spanSign s
  match rest with
  | 'i' :: 'n' :: 'f' :: rest => some (.float (.infinity negative), rest)
  | 'n' :: 'a' :: 'n' :: rest => some (.float .nan, rest)
  | _ => none

/-- Reads a number. -/
def readNumber (s : List Char) : Option (Value × List Char) :=
  match readBased s with
  | some (n, rest) => some (.int n, rest)
  | none => (readDecimal s).or (readSpecial s)

/-- Reads a truth value. -/
def readTruth (s : List Char) : Option (Value × List Char) :=
  match Json.afterWord "true" s with
  | some rest => some (.bool true, rest)
  | none => (Json.afterWord "false" s).map fun rest => (.bool false, rest)

/-- Reads a day, a time or a number. -/
def readPlain (s : List Char) : Option (Value × List Char) :=
  match readMoment s with
  | some (value, rest) => value.map fun value => (value, rest)
  | none =>
    match readTime s with
    | some (time, rest) => some (.time time, rest)
    | none => readNumber s

/-- Reads a scalar. -/
def readScalar (s : List Char) : Option (Value × List Char) :=
  match s with
  | '"' :: _ | '\'' :: _ => (readString s).map fun (t, rest) => (.text t, rest)
  | _ => (readTruth s).or (readPlain s)

end IntegrationBuild.Toml
