import IntegrationBuild.Json.Parser
import IntegrationBuild.Value.Basic

/-!
Scalars.  A plain scalar is a null, a truth value, a number or a date when its
text has that form, and a text otherwise.
-/

namespace IntegrationBuild.Yaml

/-- The kinds of nodes a tag can name. -/
inductive Tag where
  | null
  | bool
  | int
  | float
  | binary
  | timestamp
  | text
  | sequence
  | mapping
  | set
  | orderedMap
  | pairs
  | merge
  | defaultKey
  | unknown (name : String)
deriving DecidableEq, Repr, Inhabited

/-- The tag of a full tag name. -/
def Tag.ofName (name : String) : Tag :=
  match [("tag:yaml.org,2002:null", Tag.null), ("tag:yaml.org,2002:bool", .bool),
      ("tag:yaml.org,2002:int", .int), ("tag:yaml.org,2002:float", .float),
      ("tag:yaml.org,2002:binary", .binary), ("tag:yaml.org,2002:timestamp", .timestamp),
      ("tag:yaml.org,2002:str", .text), ("tag:yaml.org,2002:seq", .sequence),
      ("tag:yaml.org,2002:map", .mapping), ("tag:yaml.org,2002:set", .set),
      ("tag:yaml.org,2002:omap", .orderedMap), ("tag:yaml.org,2002:pairs", .pairs),
      ("tag:yaml.org,2002:merge", .merge), ("tag:yaml.org,2002:value", .defaultKey)].lookup name with
  | some tag => tag
  | none => .unknown name

/-- The words for the truth values. -/
def boolWords : List (String × Bool) :=
  [("yes", true), ("Yes", true), ("YES", true), ("no", false), ("No", false), ("NO", false),
    ("true", true), ("True", true), ("TRUE", true), ("false", false), ("False", false),
    ("FALSE", false), ("on", true), ("On", true), ("ON", true), ("off", false),
    ("Off", false), ("OFF", false)]

/-- The words for null. -/
def nullWords : List String := ["", "~", "null", "Null", "NULL"]

/-- The text without a leading sign. -/
def dropSign : List Char → List Char
  | '-' :: rest => rest
  | '+' :: rest => rest
  | s => s

/-- Whether `c` is a digit or an underscore. -/
def isDigitOrUnderscore (c : Char) : Bool :=
  c.isDigit || c == '_'

/-- Whether the text is an exponent with its sign. -/
def isExponent : List Char → Bool
  | e :: sign :: digits =>
    (e == 'e' || e == 'E') && (sign == '-' || sign == '+') && !digits.isEmpty &&
      digits.all Char.isDigit
  | _ => false

/-- Whether the text is nothing or an exponent. -/
def isExponent? (s : List Char) : Bool :=
  s.isEmpty || isExponent s

/-- Whether the text is one or more groups of a colon and a number below
sixty. -/
def isSexagesimalTail (s : List Char) : Bool :=
  match (String.ofList s).splitOn ":" with
  | "" :: groups =>
    !groups.isEmpty && groups.all fun group =>
      match group.toList with
      | [a] => a.isDigit
      | [a, b] => '0' ≤ a && a ≤ '5' && b.isDigit
      | _ => false
  | _ => false

/-- Whether the text has the form of a floating-point number. -/
def isFloatText (s : List Char) : Bool :=
  let t := dropSign s
  let whole := t.takeWhile isDigitOrUnderscore
  let rest := t.dropWhile isDigitOrUnderscore
  let startsWithDigit := (whole.head?.map Char.isDigit).getD false
  let plain := startsWithDigit &&
    match rest with
    | '.' :: rest => isExponent? (rest.dropWhile isDigitOrUnderscore)
    | _ => false
  let leadingDot :=
    match s with
    | '.' :: d :: rest => d.isDigit && isExponent? (rest.dropWhile isDigitOrUnderscore)
    | _ => false
  let sexagesimal := startsWithDigit &&
    isSexagesimalTail (rest.takeWhile (· != '.')) &&
    match rest.dropWhile (· != '.') with
    | '.' :: rest => rest.all isDigitOrUnderscore
    | _ => false
  let infinite := [".inf", ".Inf", ".INF"].contains (String.ofList t)
  plain || leadingDot || sexagesimal || infinite ||
    [".nan", ".NaN", ".NAN"].contains (String.ofList s)

/-- Whether the text is not empty and all its characters are in a class. -/
def allOf (p : Char → Bool) (s : List Char) : Bool :=
  !s.isEmpty && s.all p

/-- Whether the text has the form of a whole number. -/
def isIntText (s : List Char) : Bool :=
  match dropSign s with
  | '0' :: 'b' :: rest => allOf (fun c => c == '0' || c == '1' || c == '_') rest
  | '0' :: 'x' :: rest => allOf (fun c => (Json.hexValue? c).isSome || c == '_') rest
  | ['0'] => true
  | '0' :: rest => allOf (fun c => ('0' ≤ c && c ≤ '7') || c == '_') rest
  | c :: rest =>
    c.isDigit &&
      match rest.dropWhile isDigitOrUnderscore with
      | [] => true
      | tail => isSexagesimalTail tail
  | [] => false

/-- The parts of a date with an optional time of day, as written. -/
structure DateParts where
  year : List Char
  month : List Char
  day : List Char
  time : Option (List Char × List Char × List Char × List Char × List Char)
deriving Inhabited

/-- Splits off one or two digits. -/
def oneOrTwoDigits (s : List Char) : Option (List Char × List Char) :=
  match s with
  | a :: b :: rest =>
    if a.isDigit then if b.isDigit then some ([a, b], rest) else some ([a], b :: rest)
    else none
  | [a] => if a.isDigit then some ([a], []) else none
  | [] => none

/-- Splits off exactly two digits. -/
def twoDigits : List Char → Option (List Char × List Char)
  | a :: b :: rest => if a.isDigit && b.isDigit then some ([a, b], rest) else none
  | _ => none

/-- Steps over one expected character. -/
def expect (c : Char) : List Char → Option (List Char)
  | d :: rest => if d == c then some rest else none
  | [] => none

/-- Whether the text is a time zone: `Z`, or a sign, hours and minutes. -/
def isZone (s : List Char) : Bool :=
  match s with
  | ['Z'] => true
  | sign :: rest =>
    (sign == '-' || sign == '+') &&
      match oneOrTwoDigits rest with
      | some (_, []) => true
      | some (_, ':' :: rest) => rest.length == 2 && rest.all Char.isDigit
      | _ => false
  | [] => false

/-- Reads a time of day with an optional zone. -/
def timeParts (s : List Char) :
    Option (List Char × List Char × List Char × List Char × List Char) := do
  let (hour, s) ← oneOrTwoDigits s
  let s ← expect ':' s
  let (minute, s) ← twoDigits s
  let s ← expect ':' s
  let (second, s) ← twoDigits s
  let (fraction, s) := match s with
    | '.' :: rest => (rest.takeWhile Char.isDigit, rest.dropWhile Char.isDigit)
    | s => ([], s)
  let zone := s.dropWhile fun c => c == ' ' || c == '\t'
  if s.isEmpty then some (hour, minute, second, fraction, [])
  else if isZone zone then some (hour, minute, second, fraction, zone)
  else none

/-- Reads a date, alone or with a time of day. -/
def dateParts? (s : List Char) : Option DateParts := do
  let year := s.take 4
  if year.length != 4 || !year.all Char.isDigit then none
  else
    let s ← expect '-' (s.drop 4)
    let (month, s) ← oneOrTwoDigits s
    let s ← expect '-' s
    let (day, s) ← oneOrTwoDigits s
    match s with
    | [] => some { year := year, month := month, day := day, time := none }
    | c :: rest =>
      let body :=
        if c == 'T' || c == 't' then some rest
        else if c == ' ' || c == '\t' then
          some (rest.dropWhile fun c => c == ' ' || c == '\t')
        else none
      let time ← timeParts (← body)
      some { year := year, month := month, day := day, time := some time }

/-- Whether a plain scalar is a date: without a time of day all parts have
their full number of digits. -/
def isDateText (s : List Char) : Bool :=
  match dateParts? s with
  | some { month := month, day := day, time := none, .. } => month.length == 2 && day.length == 2
  | some _ => true
  | none => false

/-- The tag of a plain scalar. -/
def plainTag (text : String) : Tag :=
  let s := text.toList
  if (boolWords.lookup text).isSome then .bool
  else if isFloatText s then .float
  else if isIntText s then .int
  else if text == "<<" then .merge
  else if nullWords.contains text then .null
  else if isDateText s then .timestamp
  else if text == "=" then .defaultKey
  else .text

end IntegrationBuild.Yaml
