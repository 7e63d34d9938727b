/-!
Binary floating-point numbers with 53 bits of precision, kept as exact values:
a finite number is a sign, a whole mantissa and a power of two.  Reading a
decimal rounds its exact value to the nearest number, a tie going to the even
mantissa.
-/

namespace IntegrationBuild.Decimal

/-- A number of the 64-bit binary format.  A finite number is
`± mantissa * 2 ^ exponent` with the mantissa below `2 ^ 53` and the exponent
at least `-1074`. -/
inductive Binary64 where
  | finite (negative : Bool) (mantissa : Nat) (exponent : Int)
  | infinity (negative : Bool)
  | nan
deriving DecidableEq, Repr, Inhabited

/-- The quotient of two numbers rounded to the nearest whole number, a tie
going to the even one. -/
def roundQuotient (num den : Nat) : Nat :=
  let q := num / den
  let r := num % den
  if 2 * r < den then q
  else if den < 2 * r then q + 1
  else if q % 2 == 0 then q else q + 1

namespace Binary64

/-- The least exponent of a finite number. -/
def minExponent : Int := -1074

/-- The greatest exponent of a finite number. -/
def maxExponent : Int := 971

/-- `num / den` scaled down by `2 ^ exponent`, as a pair of whole numbers. -/
def scaled (num den : Nat) (exponent : Int) : Nat × Nat :=
  match exponent with
  | .ofNat e => (num, den * Nat.pow 2 e)
  | .negSucc e => (num * Nat.pow 2 (e + 1), den)

/-- The exponent at which `num / den` has a mantissa of 53 bits, but never
less than the least one. -/
def exponentOf (num den : Nat) : Int :=
  let guess : Int := (Nat.log2 num : Int) - (Nat.log2 den : Int) - 52
  let (n, d) := scaled num den guess
  let exact := if n / d < Nat.pow 2 52 then guess - 1 else guess
  max exact minExponent

/-- The number nearest to `± num / den`. -/
def ofRatio (negative : Bool) (num den : Nat) : Binary64 :=
  if num == 0 || den == 0 then .finite negative 0 minExponent
  else
    let e := exponentOf num den
    let (n, d) := scaled num den e
    let m := roundQuotient n d
    let (m, e) := if m == Nat.pow 2 53 then (Nat.pow 2 52, e + 1) else (m, e)
    if maxExponent < e then .infinity negative else .finite negative m e

/-- The number nearest to `± digits * 10 ^ exponent`.  Exponents far outside
the range of finite numbers are answered without computing the power. -/
def ofDecimal (negative : Bool) (digits : Nat) (exponent : Int) : Binary64 :=
  if digits == 0 then .finite negative 0 minExponent
  else
    let magnitude : Int := (Nat.toDigits 10 digits).length + exponent
    if 400 < magnitude then .infinity negative
    else if magnitude < -400 then .finite negative 0 minExponent
    else match exponent with
      | .ofNat e => ofRatio negative (digits * Nat.pow 10 e) 1
      | .negSucc e => ofRatio negative digits (Nat.pow 10 (e + 1))

/-- The number nearest to a whole number. -/
def ofInt (n : Int) : Binary64 :=
  ofRatio (n < 0) n.natAbs 1

/-- The exact value as a sign, a numerator and a denominator. -/
def ratio? : Binary64 → Option (Bool × Nat × Nat)
  | .finite negative m (.ofNat e) => some (negative, m * Nat.pow 2 e, 1)
  | .finite negative m (.negSucc e) => some (negative, m, Nat.pow 2 (e + 1))
  | _ => none

/-- The whole number a finite number equals, if it equals one. -/
def toInt? (x : Binary64) : Option Int := do
  let (negative, num, den) ← x.ratio?
  if num % den == 0 then
    let n : Int := (num / den : Nat)
    some (if negative then -n else n)
  else none

/-- Whether the number is zero of either sign. -/
def isZero : Binary64 → Bool
  | .finite _ m _ => m == 0
  | _ => false

/-- The number with the opposite sign. -/
def neg : Binary64 → Binary64
  | .finite negative m e => .finite (!negative) m e
  | .infinity negative => .infinity (!negative)
  | .nan => .nan

/-- The sum of two finite numbers, rounded; any other sum is not a number. -/
def add (x y : Binary64) : Binary64 :=
  match x.ratio?, y.ratio? with
  | some (s, n, d), some (t, m, c) =>
    let a : Int := (n * c : Nat)
    let b : Int := (m * d : Nat)
    let sum := (if s then -a else a) + (if t then -b else b)
    ofRatio (if sum == 0 then s && t else sum < 0) sum.natAbs (d * c)
  | _, _ => .nan

/-- The product of a finite number and a natural number, rounded. -/
def scale (x : Binary64) (k : Nat) : Binary64 :=
  match x.ratio? with
  | some (s, n, d) => ofRatio s (n * k) d
  | none => x

/-- Numeric equality: the zeros are equal and not-a-number equals nothing. -/
def eq (x y : Binary64) : Bool :=
  match x, y with
  | .nan, _ => false
  | _, .nan => false
  | x, y => x == y || (x.isZero && y.isZero)

end Binary64

end IntegrationBuild.Decimal
