/-!
# Binary floating point, exactly

A double is a sign, a mantissa and a power of two. This module takes a double apart and rounds an
exact quotient to the nearest double, ties to the even mantissa.
-/

namespace Cyclomatic

/-- The quotient rounded to the nearest integer, a half to the even one. -/
def roundDiv (num den : Nat) : Nat :=
  let q := num / den
  let twice := 2 * (num % den)
  if twice < den then q else if den < twice then q + 1 else q + q % 2

namespace Binary64

/-- What a double stands for. -/
inductive View where
  | notANumber
  | infinite (negative : Bool)
  /-- The number `± mantissa · 2 ^ exponent`. -/
  | finite (negative : Bool) (mantissa : Nat) (exponent : Int)
deriving DecidableEq, Repr

/-- The bits of a mantissa that are stored. -/
def mantissaBits : Nat := 52

/-- The smallest exponent of a double's last bit. -/
def minExponent : Int := -1074

/-- The bits of positive infinity. -/
def infinityBits : Nat := 0x7FF * Nat.pow 2 mantissaBits

/-- Takes a double apart. -/
def view (x : Float) : View :=
  let bits := x.toBits.toNat
  let negative := bits / Nat.pow 2 63 == 1
  let exponent := bits / Nat.pow 2 mantissaBits % 0x800
  let fraction := bits % Nat.pow 2 mantissaBits
  if exponent = 0x7FF then
    if fraction = 0 then .infinite negative else .notANumber
  else if exponent = 0 then .finite negative fraction minExponent
  else .finite negative (fraction + Nat.pow 2 mantissaBits) (minExponent + (exponent - 1 : Nat))

/-- The power of two as a pair of factors, one for the numerator and one for the denominator. -/
def scale (exponent : Int) : Nat × Nat :=
  if 0 ≤ exponent then (Nat.pow 2 exponent.toNat, 1) else (1, Nat.pow 2 (-exponent).toNat)

/-- The exponent of the last bit of the double nearest to `num / den`. -/
def quotientExponent (num den : Nat) : Int :=
  let guess : Int := (num.log2 : Int) - den.log2 - 53
  let (up, down) := scale guess
  let exponent := if Nat.pow 2 53 ≤ num * down / (den * up) then guess + 1 else guess
  max exponent minExponent

/-- The double nearest to `± num / den`; infinity if that is out of range. -/
def ofRatio (negative : Bool) (num den : Nat) : Float :=
  let magnitude :=
    if num = 0 then 0
    else
      let exponent := quotientExponent num den
      let (up, down) := scale exponent
      let mantissa := roundDiv (num * down) (den * up)
      min infinityBits (mantissa + (exponent - minExponent).toNat * Nat.pow 2 mantissaBits)
  Float.ofBits (UInt64.ofNat (if negative then magnitude + Nat.pow 2 63 else magnitude))

/-- The double nearest to a decimal number `± digits · 10 ^ exponent`. Far beyond the range of the
doubles, which ends below `10 ^ 309` and begins above `10 ^ -324`, the powers are not computed. -/
def ofDecimal (negative : Bool) (digits : Nat) (exponent : Int) : Float :=
  if digits = 0 ∨ exponent + digits.log2 + 1 < -400 then ofRatio negative 0 1
  else if 400 < exponent then ofRatio negative (Nat.pow 10 400) 1
  else if 0 ≤ exponent then ofRatio negative (digits * Nat.pow 10 exponent.toNat) 1
  else ofRatio negative digits (Nat.pow 10 (-exponent).toNat)

end Binary64

end Cyclomatic
