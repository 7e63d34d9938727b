import IntegrationBuild.Decimal.Shortest
import IntegrationBuild.Text.Quoted
import IntegrationBuild.Value.Basic

/-!
The text of a value in messages and names.  A text stands for itself; inside a
collection it is quoted, and dates are spelled as the calls that make them.
-/

namespace IntegrationBuild

/-- Numbers in messages: positional for points from -3 to 16, exponents of at
least two digits with a sign. -/
def messageStyle : Decimal.Style :=
  { leastPoint := -3, greatestPoint := 16, exponentWidth := 2, exponentPlus := true
    nan := "nan", infinity := "inf", negativeInfinity := "-inf" }

/-- A day as `2024-01-02`. -/
def Date.text (d : Date) : String :=
  Decimal.padded 4 d.year ++ "-" ++ Decimal.padded 2 d.month ++ "-" ++ Decimal.padded 2 d.day

/-- A time as `03:04:05`, with microseconds when there are any. -/
def TimeOfDay.text (t : TimeOfDay) : String :=
  Decimal.padded 2 t.hour ++ ":" ++ Decimal.padded 2 t.minute ++ ":" ++
    Decimal.padded 2 t.second ++
    (if t.microsecond == 0 then "" else "." ++ Decimal.padded 6 t.microsecond)

/-- An offset as `+01:00`, with seconds when there are any. -/
def offsetText (seconds : Int) : String :=
  let n := seconds.natAbs
  (if seconds < 0 then "-" else "+") ++ Decimal.padded 2 (n / 3600) ++ ":" ++
    Decimal.padded 2 (n / 60 % 60) ++
    (if n % 60 == 0 then "" else ":" ++ Decimal.padded 2 (n % 60))

/-- A moment as `2024-01-02 03:04:05+00:00`. -/
def Moment.text (m : Moment) : String :=
  m.date.text ++ " " ++ m.time.text ++
    match m.offset with
    | some seconds => offsetText seconds
    | none => ""

/-- The arguments of a time; seconds and microseconds are left out when they
are zero. -/
def TimeOfDay.arguments (t : TimeOfDay) : List String :=
  [toString t.hour, toString t.minute] ++
    if t.second == 0 && t.microsecond == 0 then []
    else if t.microsecond == 0 then [toString t.second]
    else [toString t.second, toString t.microsecond]

/-- An offset spelled as a call. -/
def offsetCall (seconds : Int) : String :=
  if seconds == 0 then "datetime.timezone.utc"
  else
    let days := seconds.fdiv 86400
    let rest := seconds.fmod 86400
    let parts := (if days == 0 then [] else ["days=" ++ toString days]) ++
      (if rest == 0 then [] else ["seconds=" ++ toString rest])
    "datetime.timezone(datetime.timedelta(" ++ String.intercalate ", " parts ++ "))"

namespace Value

mutual

/-- A value as it stands inside a collection. -/
def inside : Value → String
  | .null => "None"
  | .bool b => if b then "True" else "False"
  | .int n => toString n
  | .float x => messageStyle.text x
  | .text s => Text.quoted s
  | .bytes b => Text.quotedBytes b
  | .date d =>
    "datetime.date(" ++ String.intercalate ", " [toString d.year, toString d.month,
      toString d.day] ++ ")"
  | .time t => "datetime.time(" ++ String.intercalate ", " t.arguments ++ ")"
  | .moment m =>
    let zone := match m.offset with
      | some seconds => ["tzinfo=" ++ offsetCall seconds]
      | none => []
    "datetime.datetime(" ++ String.intercalate ", " ([toString m.date.year,
      toString m.date.month, toString m.date.day] ++ m.time.arguments ++ zone) ++ ")"
  | .list items => "[" ++ String.intercalate ", " (insideAll items) ++ "]"
  | .pair a b => "(" ++ inside a ++ ", " ++ inside b ++ ")"
  | .set [] => "set()"
  | .set items => "\x7b" ++ String.intercalate ", " (insideAll items) ++ "\x7d"
  | .mapping entries => "\x7b" ++ String.intercalate ", " (insideEntries entries) ++ "\x7d"

/-- The values of a collection. -/
def insideAll : List Value → List String
  | [] => []
  | v :: rest => inside v :: insideAll rest

/-- The entries of a mapping. -/
def insideEntries : List (Value × Value) → List String
  | [] => []
  | (k, v) :: rest => (inside k ++ ": " ++ inside v) :: insideEntries rest

end

/-- A value as a text of its own. -/
def describe : Value → String
  | .text s => s
  | .date d => d.text
  | .time t => t.text
  | .moment m => m.text
  | v => v.inside

end Value

end IntegrationBuild
