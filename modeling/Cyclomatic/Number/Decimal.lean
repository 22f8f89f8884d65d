import Cyclomatic.Number.Binary64

/-!
# Decimal text of a double

Two ways to write a double: with the fewest digits that read back as the same double, and with a
fixed number of places. Both work on exact integers.
-/

namespace Cyclomatic.Decimal

open Binary64

/-! ## Fewest digits -/

/-- A positive decimal number `0.d₁d₂… · 10 ^ (exponent + 1)`, so that `exponent` is the power of ten
of the first digit. -/
structure Digits where
  digits : List Char
  exponent : Int
deriving DecidableEq, Repr

/-- The reals that round to `mantissa · 2 ^ exponent`, in units of `2 ^ (exponent - 2)`. The ends
belong to the interval if the mantissa is even. -/
structure Interval where
  low : Nat
  value : Nat
  high : Nat
  closed : Bool
  exponent : Int

/-- The interval of a double. Below a power of two the doubles lie twice as close. -/
def Interval.of (mantissa : Nat) (exponent : Int) : Interval where
  low := if mantissa = Nat.pow 2 mantissaBits ∧ minExponent < exponent then 4 * mantissa - 1
    else 4 * mantissa - 2
  value := 4 * mantissa
  high := 4 * mantissa + 2
  closed := mantissa % 2 == 0
  exponent := exponent - 2

/-- The power of ten as a pair of factors, one for the numerator and one for the denominator. -/
def scaleTen (exponent : Int) : Nat × Nat :=
  if 0 ≤ exponent then (Nat.pow 10 exponent.toNat, 1) else (1, Nat.pow 10 (-exponent).toNat)

/-- The factors that bring `n` units of an interval and `c · 10 ^ power` to one denominator. -/
def Interval.factors (i : Interval) (power : Int) : Nat × Nat :=
  let (twoUp, twoDown) := scale i.exponent
  let (tenUp, tenDown) := scaleTen power
  (twoUp * tenDown, tenUp * twoDown)

/-- Whether `c · 10 ^ power` rounds to the double. -/
def Interval.contains (i : Interval) (c : Nat) (power : Int) : Bool :=
  let (unit, ten) := i.factors power
  if i.closed then decide (i.low * unit ≤ c * ten ∧ c * ten ≤ i.high * unit)
  else decide (i.low * unit < c * ten ∧ c * ten < i.high * unit)

/-- The nearest multiple of `10 ^ power` that rounds to the double, if the value's neighbours on that
grid do; of two equally near ones the even. -/
def Interval.onGrid? (i : Interval) (power : Int) : Option Nat :=
  let (unit, ten) := i.factors power
  let below := i.value * unit / ten
  let nearest := roundDiv (i.value * unit) ten
  let other := if nearest = below then below + 1 else below
  if i.contains nearest power then some nearest
  else if i.contains other power then some other
  else none

/-- The power of ten of the first digit of the interval's value. -/
def Interval.leadingPower (i : Interval) : Int :=
  let log2 : Int := i.value.log2 + i.exponent
  let guess := (log2 * 30103).fdiv 100000
  let reaches (power : Int) : Bool :=
    let (unit, ten) := i.factors power
    decide (ten ≤ i.value * unit)
  if reaches (guess + 1) then guess + 1 else if reaches guess then guess else guess - 1

/-- Digits without the zeros at their end. -/
def stripZeros (digits : List Char) : List Char :=
  (digits.reverse.dropWhile (· == '0')).reverse

/-- The fewest decimal digits that read back as `mantissa · 2 ^ exponent`, which must be positive;
seventeen always suffice. -/
def shortest (mantissa : Nat) (exponent : Int) : Digits :=
  let i := Interval.of mantissa exponent
  let first := i.leadingPower
  let hit := (List.range 17).findSome? fun (n : Nat) =>
    (i.onGrid? (first - n)).map fun c => (c, first - (n : Int))
  let (c, power) := hit.getD (i.value, 0)
  let digits := Nat.toDigits 10 c
  ⟨stripZeros digits, power + (digits.length - 1 : Nat)⟩

/-! ## Layout -/

/-- The exponents of the first digit for which a number is written positionally. -/
def isPositional (exponent : Int) : Bool :=
  -4 ≤ exponent && exponent < 16

/-- An exponent with its sign and at least two digits. -/
def exponentText (exponent : Int) : String :=
  let digits := toString exponent.natAbs
  (if exponent < 0 then "e-" else "e+") ++ (if digits.length < 2 then "0" ++ digits else digits)

/-- A number with a point, or with an exponent if it is very large or very small. -/
def Digits.text (d : Digits) : String :=
  if isPositional d.exponent then
    if d.exponent < 0 then
      "0." ++ String.ofList (List.replicate (-d.exponent - 1).toNat '0' ++ d.digits)
    else
      let whole := d.exponent.toNat + 1
      let padded := d.digits ++ List.replicate (whole - d.digits.length) '0'
      let fraction := padded.drop whole
      String.ofList (padded.take whole) ++ "." ++
        (if fraction.isEmpty then "0" else String.ofList fraction)
  else
    let rest := d.digits.drop 1
    String.ofList (d.digits.take 1) ++ (if rest.isEmpty then "" else "." ++ String.ofList rest) ++
      exponentText d.exponent

/-- The texts of the doubles that are no numbers. -/
structure Specials where
  notANumber : String
  infinity : String

/-- The text of a double with the fewest digits that read back. -/
def text (specials : Specials) (x : Float) : String :=
  match view x with
  | .notANumber => specials.notANumber
  | .infinite negative => (if negative then "-" else "") ++ specials.infinity
  | .finite negative mantissa exponent =>
    (if negative then "-" else "") ++
      (if mantissa = 0 then "0.0" else (shortest mantissa exponent).text)

/-! ## Fixed places -/

/-- The multiple of `10 ^ -places` nearest to a positive double, as a whole number of such units, a
half to the even one. -/
def unitsOf (places mantissa : Nat) (exponent : Int) : Nat :=
  let (up, down) := scale exponent
  roundDiv (mantissa * up * Nat.pow 10 places) down

/-- The text of a double with a fixed number of places. -/
def fixed (places : Nat) (x : Float) : String :=
  match view x with
  | .notANumber => "nan"
  | .infinite negative => if negative then "-inf" else "inf"
  | .finite negative mantissa exponent =>
    let units := unitsOf places mantissa exponent
    let fraction := toString (units % Nat.pow 10 places)
    (if negative then "-" else "") ++ toString (units / Nat.pow 10 places) ++
      (if places = 0 then ""
       else "." ++ String.ofList (List.replicate (places - fraction.length) '0') ++ fraction)

/-- The double nearest to the decimal number with the given places that is nearest to `x`. -/
def roundTo (places : Nat) (x : Float) : Float :=
  match view x with
  | .finite negative mantissa exponent =>
    ofRatio negative (unitsOf places mantissa exponent) (Nat.pow 10 places)
  | _ => x

end Cyclomatic.Decimal
