import IntegrationBuild.Decimal.Binary64

/-!
The shortest decimal of a binary number: the fewest digits that read back as
the number, and of those the decimal nearest to it.  A `Style` then fixes where
positional writing ends and how an exponent is spelled.
-/

namespace IntegrationBuild.Decimal

/-- A positive decimal `0.d₁d₂… * 10 ^ point` with a non-zero first digit. -/
structure Digits where
  digits : List Char
  point : Int
deriving DecidableEq, Repr

/-- The open or closed interval of the decimals that read back as the number
`mantissa * 2 ^ exponent`, over a common denominator: the value, the lower end,
the upper end, the denominator, and whether the ends belong to it. -/
structure Interval where
  value : Nat
  low : Nat
  high : Nat
  den : Nat
  closed : Bool

/-- The interval around a finite number.  Below a power of two the gap to the
next smaller number is half as wide. -/
def Interval.around (mantissa : Nat) (exponent : Int) : Interval :=
  let narrow := mantissa == Nat.pow 2 52 && Binary64.minExponent < exponent
  let down := if narrow then 1 else 2
  let (unit, den) := match exponent with
    | .ofNat e => (Nat.pow 2 e, 4)
    | .negSucc e => (1, 4 * Nat.pow 2 (e + 1))
  { value := 4 * mantissa * unit
    low := (4 * mantissa - down) * unit
    high := (4 * mantissa + 2) * unit
    den := den
    closed := mantissa % 2 == 0 }

/-- Whether `n * 10 ^ power` lies in the interval. -/
def Interval.contains (i : Interval) (n : Nat) (power : Int) : Bool :=
  let (a, scale) := match power with
    | .ofNat p => (n * Nat.pow 10 p * i.den, 1)
    | .negSucc p => (n * i.den, Nat.pow 10 (p + 1))
  let low := i.low * scale
  let high := i.high * scale
  if i.closed then low ≤ a && a ≤ high else low < a && a < high

/-- The whole multiple of `10 ^ power` just below the value, and whether the
value is nearer to that multiple (`lt`), to the next one (`gt`) or to neither
(`eq`). -/
def Interval.floorAt (i : Interval) (power : Int) : Nat × Ordering :=
  let (num, den) := match power with
    | .ofNat p => (i.value, i.den * Nat.pow 10 p)
    | .negSucc p => (i.value * Nat.pow 10 (p + 1), i.den)
  let q := num / den
  (q, compare (2 * (num % den)) den)

/-- The multiple of `10 ^ power` that reads back and is nearest to the value;
of two equally near ones the even one. -/
def Interval.pick (i : Interval) (power : Int) : Option Nat :=
  let (q, side) := i.floorAt power
  let low := 0 < q && i.contains q power
  let high := i.contains (q + 1) power
  if low && high then
    some (match side with
      | .lt => q
      | .gt => q + 1
      | .eq => if q % 2 == 0 then q else q + 1)
  else if low then some q
  else if high then some (q + 1)
  else none

/-- The number of decimal places before the point: the least `p` with
`num / den < 10 ^ p`, searched upwards from a starting power. -/
def pointOf (num den : Nat) : Nat → Int → Int
  | 0, p => p
  | fuel + 1, p =>
    let below : Bool := match p with
      | .ofNat e => num < den * Nat.pow 10 e
      | .negSucc e => num * Nat.pow 10 (e + 1) < den
    if below then p else pointOf num den fuel (p + 1)

/-- The first hit among grids of 1, 2, … 17 digits. -/
def shortestFrom (i : Interval) (point : Int) : Nat → Nat → Option (Nat × Int)
  | 0, _ => none
  | fuel + 1, count =>
    let power := point - (count : Int)
    match i.pick power with
    | some n => some (n, power)
    | none => shortestFrom i point fuel (count + 1)

/-- Drops the zeros at the end of a digit list. -/
def dropTrailingZeros (s : List Char) : List Char :=
  (s.reverse.dropWhile (· == '0')).reverse

/-- The shortest digits of a positive finite number. -/
def shortest (mantissa : Nat) (exponent : Int) : Digits :=
  let i := Interval.around mantissa exponent
  let start : Int := ((Nat.log2 i.value : Int) - (Nat.log2 i.den : Int)) * 3 / 10 - 2
  let point := pointOf i.value i.den 8 start
  match shortestFrom i point 17 1 with
  | some (n, power) =>
    let digits := Nat.toDigits 10 n
    { digits := dropTrailingZeros digits
      point := (digits.length : Int) + power }
  | none => { digits := [], point := 0 }

/-- How a number is spelled: the decimal points written positionally, the
least number of exponent digits, whether a positive exponent has a sign, and
the words for the values that are not finite. -/
structure Style where
  leastPoint : Int
  greatestPoint : Int
  exponentWidth : Nat
  exponentPlus : Bool
  nan : String
  infinity : String
  negativeInfinity : String

/-- Pads a number with zeros on the left. -/
def padded (width n : Nat) : String :=
  let digits := Nat.toDigits 10 n
  String.ofList (List.replicate (width - digits.length) '0' ++ digits)

/-- The text of a positive decimal in a style. -/
def Style.write (style : Style) (d : Digits) : String :=
  if style.leastPoint ≤ d.point && d.point ≤ style.greatestPoint then
    match d.point with
    | .negSucc k =>
      "0." ++ String.ofList (List.replicate (k + 1) '0' ++ d.digits)
    | .ofNat 0 => "0." ++ String.ofList d.digits
    | .ofNat p =>
      if d.digits.length ≤ p then
        String.ofList (d.digits ++ List.replicate (p - d.digits.length) '0') ++ ".0"
      else String.ofList (d.digits.take p) ++ "." ++ String.ofList (d.digits.drop p)
  else
    let e := d.point - 1
    let mark := if e < 0 then "e-" else if style.exponentPlus then "e+" else "e"
    let mantissa := match d.digits with
      | [] => ""
      | [c] => String.ofList [c]
      | c :: rest => String.ofList (c :: '.' :: rest)
    mantissa ++ mark ++ padded style.exponentWidth e.natAbs

/-- The text of a number in a style. -/
def Style.text (style : Style) : Binary64 → String
  | .nan => style.nan
  | .infinity negative => if negative then style.negativeInfinity else style.infinity
  | .finite negative m e =>
    let body := if m == 0 then "0.0" else style.write (shortest m e)
    if negative then "-" ++ body else body

end IntegrationBuild.Decimal
