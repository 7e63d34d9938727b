import IntegrationBuild.Decimal.Binary64
import IntegrationBuild.Json.Basic

/-!
Configuration values, as a document holds them before it is checked.  A
mapping keeps the order of its keys and may have keys of any scalar kind.
-/

namespace IntegrationBuild

/-- A calendar day. -/
structure Date where
  year : Nat
  month : Nat
  day : Nat
deriving DecidableEq, Repr, Inhabited

/-- Whether a year is a leap year. -/
def Date.isLeapYear (year : Nat) : Bool :=
  year % 4 == 0 && (year % 100 != 0 || year % 400 == 0)

/-- The number of days of a month. -/
def Date.daysInMonth (year month : Nat) : Nat :=
  if month == 2 then if isLeapYear year then 29 else 28
  else if [4, 6, 9, 11].contains month then 30
  else 31

/-- A time of day, down to microseconds. -/
structure TimeOfDay where
  hour : Nat
  minute : Nat
  second : Nat
  microsecond : Nat := 0
deriving DecidableEq, Repr, Inhabited

/-- A day with a time of day and, if known, the offset from universal time in
seconds. -/
structure Moment where
  date : Date
  time : TimeOfDay
  offset : Option Int := none
deriving DecidableEq, Repr, Inhabited

/-- A configuration value. -/
inductive Value where
  | null
  | bool (value : Bool)
  | int (value : Int)
  | float (value : Decimal.Binary64)
  | text (value : String)
  | bytes (value : List UInt8)
  | date (value : Date)
  | time (value : TimeOfDay)
  | moment (value : Moment)
  | list (items : List Value)
  | pair (first second : Value)
  | set (items : List Value)
  | mapping (entries : List (Value × Value))
deriving Inhabited, Repr

namespace Value

/-- The whole number a value equals: booleans count as zero and one. -/
def integer? : Value → Option Int
  | .bool b => some (if b then 1 else 0)
  | .int n => some n
  | .float x => x.toInt?
  | _ => none

/-- Whether two keys are the same key.  Numbers are compared by value, so `1`,
`1.0` and `true` are one key. -/
def sameKey : Value → Value → Bool
  | .null, .null => true
  | .text a, .text b => a == b
  | .bytes a, .bytes b => a == b
  | .date a, .date b => a == b
  | .time a, .time b => a == b
  | .moment a, .moment b => a == b
  | .pair a b, .pair c d => sameKey a c && sameKey b d
  | .float x, .float y => x.eq y
  | a, b =>
    match a.integer?, b.integer? with
    | some m, some n => m == n
    | _, _ => false

/-- Whether a value can be a key. -/
def hashable : Value → Bool
  | .list _ => false
  | .set _ => false
  | .mapping _ => false
  | .pair a b => hashable a && hashable b
  | _ => true

/-- Puts an entry into a mapping: a known key keeps its place and takes the
new value, a new key goes to the end. -/
def insertEntry (entries : List (Value × Value)) (key value : Value) : List (Value × Value) :=
  match entries with
  | [] => [(key, value)]
  | (k, v) :: rest =>
    if sameKey k key then (k, value) :: rest else (k, v) :: insertEntry rest key value

/-- The entries of a mapping. -/
def entries? : Value → Option (List (Value × Value))
  | .mapping entries => some entries
  | _ => none

/-- The value of a text key among entries. -/
def lookup (entries : List (Value × Value)) (key : String) : Option Value :=
  match entries with
  | [] => none
  | (.text k, v) :: rest => if k == key then some v else lookup rest key
  | _ :: rest => lookup rest key

/-- Whether a text key is among entries. -/
def hasKey (entries : List (Value × Value)) (key : String) : Bool :=
  (lookup entries key).isSome

mutual

/-- The value of a JSON document. -/
def ofJson : Json → Value
  | .null => .null
  | .bool b => .bool b
  | .int n => .int n
  | .float x => .float x
  | .str s => .text s
  | .arr items => .list (ofJsonItems items)
  | .obj members => .mapping (ofJsonMembers members)

/-- The values of the items of an array. -/
def ofJsonItems : List Json → List Value
  | [] => []
  | item :: rest => ofJson item :: ofJsonItems rest

/-- The entries of the members of an object. -/
def ofJsonMembers : List (String × Json) → List (Value × Value)
  | [] => []
  | (key, value) :: rest => (.text key, ofJson value) :: ofJsonMembers rest

end

end Value

end IntegrationBuild
