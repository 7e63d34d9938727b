import IntegrationBuild.Value.Describe
import IntegrationBuild.Yaml.Lexer
import IntegrationBuild.Yaml.Node

/-!
Values of YAML documents.  Scalars are read according to their tags, merge
keys are replaced by the entries they stand for, and a repeated key keeps its
first place and its last value.  Errors are found level by level, so the error
of a document is the first one on its outermost faulty level.  A document with
a node that holds itself has no finite value.
-/

namespace IntegrationBuild.Yaml

/-- Why a scalar has no value under its tag. -/
inductive ScalarFault where
  /-- A date or a number that does not exist. -/
  | outOfRange (message : String)
  /-- A word that is no truth value. -/
  | noTruth (word : String)
  /-- A number without a digit. -/
  | noDigit
  /-- A text that is no timestamp. -/
  | noTimestamp
deriving DecidableEq, Repr

/-- The text of a fault. -/
def ScalarFault.message : ScalarFault → String
  | .outOfRange message => message
  | .noTruth word => Text.quoted word
  | .noDigit => "string index out of range"
  | .noTimestamp => "'NoneType' object has no attribute 'groupdict'"

/-- Why a text has no value: it is not well formed, a scalar does not fit its
tag, or a node holds itself. -/
inductive LoadError where
  | malformed
  | scalar (fault : ScalarFault)
  | circular
deriving DecidableEq, Repr

/-- The error of a date or a number that does not exist. -/
def LoadError.outOfRange (message : String) : LoadError :=
  .scalar (.outOfRange message)

/-- A day, if it exists. -/
def makeDate (year month day : Nat) : Except LoadError Date :=
  if year == 0 then .error (.outOfRange "year 0 is out of range")
  else if month < 1 || 12 < month then .error (.outOfRange "month must be in 1..12")
  else if day < 1 || Date.daysInMonth year month < day then
    .error (.outOfRange "day is out of range for month")
  else .ok { year := year, month := month, day := day }

/-- A time of day, if it exists. -/
def makeTime (hour minute second microsecond : Nat) : Except LoadError TimeOfDay :=
  if 23 < hour then .error (.outOfRange "hour must be in 0..23")
  else if 59 < minute then .error (.outOfRange "minute must be in 0..59")
  else if 59 < second then .error (.outOfRange "second must be in 0..59")
  else .ok { hour := hour, minute := minute, second := second, microsecond := microsecond }

/-- The offset of a zone in seconds; nothing when there is no zone. -/
def zoneOffset (zone : List Char) : Option Int :=
  match zone with
  | [] => none
  | ['Z'] => some 0
  | sign :: rest =>
    let hours := Json.digitsValue (rest.takeWhile (· != ':'))
    let minutes := Json.digitsValue ((rest.dropWhile (· != ':')).drop 1)
    let seconds : Int := (hours * 3600 + minutes * 60 : Nat)
    some (if sign == '-' then -seconds else seconds)

/-- The text of a span of time in a message. -/
def spanText (seconds : Int) : String :=
  let days := seconds.fdiv 86400
  let rest := seconds.fmod 86400
  let parts := (if days == 0 then [] else ["days=" ++ toString days]) ++
    (if rest == 0 then [] else ["seconds=" ++ toString rest])
  "datetime.timedelta(" ++ String.intercalate ", " parts ++ ")"

/-- The day or moment that a timestamp names. -/
def timestampValue (parts : DateParts) : Except LoadError Value := do
  let year := Json.digitsValue parts.year
  let month := Json.digitsValue parts.month
  let day := Json.digitsValue parts.day
  match parts.time with
  | none => .ok (.date (← makeDate year month day))
  | some (hour, minute, second, fraction, zone) =>
    let digits := fraction.take 6
    let micro := Json.digitsValue (digits ++ List.replicate (6 - digits.length) '0')
    let offset := zoneOffset zone
    match offset with
    | some seconds =>
      if 86400 ≤ seconds.natAbs then
        .error (.outOfRange ("offset must be a timedelta strictly between " ++
          "-timedelta(hours=24) and timedelta(hours=24), not " ++ spanText seconds ++ "."))
      else pure ()
    | none => pure ()
    let date ← makeDate year month day
    let time ← makeTime (Json.digitsValue hour) (Json.digitsValue minute)
      (Json.digitsValue second) micro
    .ok (.moment { date := date, time := time, offset := offset })

/-- The number that digits stand for in a base, underscores left out. -/
def digitsIn (base : Nat) (digits : List Char) : Option Nat :=
  if digits.isEmpty then none
  else digits.foldl (fun n c => do
    let n ← n
    let d ← Json.hexValue? c
    if d < base then some (n * base + d) else none) (some 0)

/-- The error of digits that stand for no number. -/
def noNumber (base : Nat) (digits : List Char) : LoadError :=
  .outOfRange ("invalid literal for int() with base " ++ toString base ++ ": " ++
    Text.quoted (String.ofList digits))

/-- The number of base-sixty digits. -/
def sexagesimal (groups : List String) : Except LoadError Nat :=
  groups.foldlM (fun n group =>
    match digitsIn 10 group.toList with
    | some d => .ok (n * 60 + d)
    | none => .error (noNumber 10 group.toList)) 0

/-- The whole number that a text stands for. -/
def intValue (text : String) : Except LoadError Int :=
  let s := text.toList.filter (· != '_')
  let negative := s.head? == some '-'
  let t := dropSign s
  let signed (n : Nat) : Int := if negative then -(n : Int) else n
  let inBase (base : Nat) (digits : List Char) : Except LoadError Int :=
    match digitsIn base digits with
    | some n => .ok (signed n)
    | none => .error (noNumber base digits)
  match t with
  | [] => .error (.scalar .noDigit)
  | ['0'] => .ok 0
  | '0' :: 'b' :: rest => inBase 2 rest
  | '0' :: 'x' :: rest => inBase 16 rest
  | '0' :: _ => inBase 8 t
  | _ =>
    if t.contains ':' then
      (sexagesimal ((String.ofList t).splitOn ":")).map signed
    else inBase 10 t

/-- The number that a decimal text stands for. -/
def decimalValue? (s : List Char) : Option Decimal.Binary64 :=
  let whole := s.takeWhile Char.isDigit
  let rest := s.dropWhile Char.isDigit
  let (fraction, rest) := match rest with
    | '.' :: rest => (rest.takeWhile Char.isDigit, rest.dropWhile Char.isDigit)
    | rest => ([], rest)
  if whole.isEmpty && fraction.isEmpty then none
  else
    let digits := Json.digitsValue (whole ++ fraction)
    match rest with
    | [] => some (.ofDecimal false digits (-(fraction.length : Int)))
    | rest =>
      match Json.readExponent rest with
      | some (e, []) => some (.ofDecimal false digits (e - fraction.length))
      | _ => none

/-- The error of a text that is no number. -/
def noFloat (s : List Char) : LoadError :=
  .outOfRange ("could not convert string to float: " ++ Text.quoted (String.ofList s))

/-- The number that a text without a leading sign stands for. -/
def unsignedFloat (s : List Char) : Except LoadError Decimal.Binary64 :=
  match decimalValue? s with
  | some x => .ok x
  | none =>
    if s == "inf".toList || s == "infinity".toList then .ok (.infinity false)
    else if s == "nan".toList then .ok .nan
    else .error (noFloat s)

/-- The floating-point number that a text stands for. -/
def floatValue (text : String) : Except LoadError Decimal.Binary64 :=
  let s := (text.toList.filter (· != '_')).map Char.toLower
  let negative := s.head? == some '-'
  let t := dropSign s
  let signed (x : Decimal.Binary64) := if negative then x.neg else x
  if s.isEmpty then .error (.scalar .noDigit)
  else if t == ".inf".toList then .ok (.infinity negative)
  else if t == ".nan".toList then .ok .nan
  else if t.contains ':' then do
    let groups ← ((String.ofList t).splitOn ":").mapM fun group => unsignedFloat group.toList
    let (sum, _) := groups.reverse.foldl
      (fun (sum, base) x => (Decimal.Binary64.add sum (x.scale base), base * 60))
      (Decimal.Binary64.ofInt 0, 1)
    .ok (signed sum)
  else (unsignedFloat t).map signed

/-- The value of a base-64 digit. -/
def base64Digit? (c : Char) : Option Nat :=
  if 'A' ≤ c && c ≤ 'Z' then some (c.toNat - 0x41)
  else if 'a' ≤ c && c ≤ 'z' then some (c.toNat - 0x61 + 26)
  else if c.isDigit then some (c.toNat - 0x30 + 52)
  else if c == '+' then some 62
  else if c == '/' then some 63
  else none

/-- Decodes base-64 text; characters outside the alphabet are skipped.  The
state is the number of digits of the current group, the bits left over and the
number of padding marks in a row. -/
def base64Bytes : List Char → Nat → Nat → Nat → List UInt8 → Option (List UInt8)
  | [], group, _, _, acc => if group == 0 then some acc.reverse else none
  | c :: rest, group, left, pads, acc =>
    if c == '=' then
      if 2 ≤ group && 4 ≤ group + pads + 1 then some acc.reverse
      else base64Bytes rest group left (if 2 ≤ group then pads + 1 else pads) acc
    else
      match base64Digit? c with
      | none => base64Bytes rest group left pads acc
      | some d =>
        match group with
        | 0 => base64Bytes rest 1 d 0 acc
        | 1 => base64Bytes rest 2 (d % 16) 0 (UInt8.ofNat (left * 4 + d / 16) :: acc)
        | 2 => base64Bytes rest 3 (d % 4) 0 (UInt8.ofNat (left * 16 + d / 4) :: acc)
        | _ => base64Bytes rest 0 0 0 (UInt8.ofNat (left * 64 + d) :: acc)

/-- The value of a scalar node. -/
def scalarValue (tag : Tag) (text : String) : Except LoadError Value :=
  match tag with
  | .null => .ok .null
  | .text => .ok (.text text)
  | .bool =>
    match boolWords.find? fun (word, _) =>
        word.toList.map Char.toLower == text.toList.map Char.toLower with
    | some (_, b) => .ok (.bool b)
    | none => .error (.scalar (.noTruth (String.ofList (text.toList.map Char.toLower))))
  | .int => (intValue text).map .int
  | .float => (floatValue text).map .float
  | .timestamp =>
    match dateParts? text.toList with
    | some parts => timestampValue parts
    | none => .error (.scalar .noTimestamp)
  | .binary =>
    if text.toList.all fun c => c.toNat < 128 then
      match base64Bytes text.toList 0 0 0 [] with
      | some bytes => .ok (.bytes bytes)
      | none => .error .malformed
    else .error .malformed
  | _ => .error .malformed

/-- An error and the level of the document it is on. -/
structure Located where
  depth : Nat
  error : LoadError

/-- The value of a node, or its error. -/
abbrev Loaded (α : Type) := Except Located α

/-- Both results, or the error on the outer level; of two on one level the
first. -/
def both {α β γ : Type} (f : α → β → γ) (x : Loaded α) (y : Loaded β) : Loaded γ :=
  match x, y with
  | .ok a, .ok b => .ok (f a b)
  | .error e, .ok _ => .error e
  | .ok _, .error e => .error e
  | .error e, .error e' => .error (if e'.depth < e.depth then e' else e)

/-- Whether a node is the merge key. -/
def isMergeKey : Node → Bool
  | .scalar .merge _ => true
  | _ => false

/-- A key that is written `=` is an ordinary text. -/
def plainKey : Node → Node
  | .scalar .defaultKey text => .scalar .text text
  | node => node

mutual

/-- The entries of a mapping node with its merge keys replaced: merged entries
come first, of a list of mappings the last one's first. -/
def flatten : Nat → List (Node × Node) → Option (List (Node × Node))
  | 0, _ => none
  | fuel + 1, entries => do
    let merged ← (entries.filter fun (key, _) => isMergeKey key).mapM fun (_, value) =>
      mergedEntries fuel value
    let own := (entries.filter fun (key, _) => !isMergeKey key).map
      fun (key, value) => (plainKey key, value)
    some (merged.flatten ++ own)

/-- The entries that a merged node contributes. -/
def mergedEntries : Nat → Node → Option (List (Node × Node))
  | 0, _ => none
  | fuel + 1, node =>
    match node with
    | .mapping _ entries => flatten fuel entries
    | .sequence _ items => do
      let all ← items.mapM fun
        | .mapping _ entries => flatten fuel entries
        | _ => none
      some all.reverse.flatten
    | .scalar _ _ | .back _ => none

end

/-- The error of a node on a level. -/
def loadFail {α : Type} (depth : Nat) : Loaded α :=
  .error { depth := depth, error := .malformed }

mutual

/-- The value of a node; `depth` is the level of the node. -/
def loadNode : Nat → Nat → Node → Loaded Value
  | 0, depth, _ => loadFail depth
  | fuel + 1, depth, node =>
    match node with
    | .scalar tag text =>
      match scalarValue tag text with
      | .ok v => .ok v
      | .error e => .error { depth := depth, error := e }
    | .sequence tag items =>
      match tag with
      | .sequence => (loadItems fuel (depth + 1) items).map .list
      | .orderedMap => (loadPairs fuel (depth + 1) items).map .list
      | .pairs => (loadPairs fuel (depth + 1) items).map .list
      | _ => loadFail depth
    | .mapping tag entries =>
      match tag with
      | .mapping => (loadMapping fuel (depth + 1) entries).map .mapping
      | .set => (loadMapping fuel (depth + 1) entries).map fun entries =>
          .set (entries.map (·.1))
      | _ => loadFail depth
    | .back _ => loadFail depth

/-- The values of the items of a sequence. -/
def loadItems : Nat → Nat → List Node → Loaded (List Value)
  | 0, depth, _ => loadFail depth
  | _, _, [] => .ok []
  | fuel + 1, depth, node :: rest =>
    both (· :: ·) (loadNode fuel depth node) (loadItems fuel depth rest)

/-- The pairs of a sequence of mappings with one entry each. -/
def loadPairs : Nat → Nat → List Node → Loaded (List Value)
  | 0, depth, _ => loadFail depth
  | _, _, [] => .ok []
  | fuel + 1, depth, node :: rest =>
    match node with
    | .mapping _ [(key, value)] =>
      both (· :: ·)
        (both Value.pair (loadNode fuel depth key) (loadNode fuel depth value))
        (loadPairs fuel depth rest)
    | _ => loadFail depth

/-- The entries of a mapping. -/
def loadMapping : Nat → Nat → List (Node × Node) → Loaded (List (Value × Value))
  | 0, depth, _ => loadFail depth
  | fuel + 1, depth, entries =>
    match flatten (fuel + 1) entries with
    | none => loadFail depth
    | some entries =>
      (loadEntries fuel depth entries).map fun loaded =>
        loaded.foldl (fun known (key, value) => Value.insertEntry known key value) []

/-- The entries of a mapping without merge keys, in order. -/
def loadEntries : Nat → Nat → List (Node × Node) → Loaded (List (Value × Value))
  | 0, depth, _ => loadFail depth
  | _, _, [] => .ok []
  | fuel + 1, depth, (key, value) :: rest =>
    let key := (loadNode fuel depth key).bind fun k =>
      if k.hashable then .ok k else loadFail depth
    both (· :: ·) (both Prod.mk key (loadNode fuel depth value)) (loadEntries fuel depth rest)

end

mutual

/-- The number of nodes. -/
def Node.size : Node → Nat
  | .scalar _ _ | .back _ => 1
  | .sequence _ items => sizeAll items + 1
  | .mapping _ entries => sizeEntries entries + 1

/-- The number of nodes of the items. -/
def sizeAll : List Node → Nat
  | [] => 0
  | node :: rest => node.size + sizeAll rest

/-- The number of nodes of the keys and values. -/
def sizeEntries : List (Node × Node) → Nat
  | [] => 0
  | (key, value) :: rest => key.size + value.size + sizeEntries rest

end

mutual

/-- Whether there is a way back in a node.  In the node of a document it leads
to a node that holds itself. -/
def Node.isCircular : Node → Bool
  | .scalar _ _ => false
  | .sequence _ items => anyCircular items
  | .mapping _ entries => anyCircularEntry entries
  | .back _ => true

/-- Whether there is a way back in one of the items. -/
def anyCircular : List Node → Bool
  | [] => false
  | node :: rest => node.isCircular || anyCircular rest

/-- Whether there is a way back in one of the keys and values. -/
def anyCircularEntry : List (Node × Node) → Bool
  | [] => false
  | (key, value) :: rest => key.isCircular || value.isCircular || anyCircularEntry rest

end

/-- The value of a text; a text without a document is null. -/
def load (text : List Char) : Except LoadError Value :=
  match tokens? text with
  | none => .error .malformed
  | some tokens =>
    match nodeOfTokens? tokens with
    | none => .error .malformed
    | some none => .ok .null
    | some (some node) =>
      if node.isCircular then .error .circular
      else
        match loadNode (4 * node.size + 8) 0 node with
        | .ok v => .ok v
        | .error e => .error e.error

end IntegrationBuild.Yaml
