import Cyclomatic.Number.Decimal

/-!
# Numbers

A number in settings is an integer of any size or a double. Comparison is exact; arithmetic turns an
integer into a double where the other operand is one, and the quotient of two integers is the
nearest double.
-/

namespace Cyclomatic

/-- Why arithmetic failed. -/
inductive ArithmeticError where
  | divisionByZero
  | floatDivisionByZero
  /-- A quotient of integers beyond the doubles. -/
  | quotientTooLarge
  /-- An integer beyond the doubles. -/
  | integerTooLarge
  /-- Infinity where an integer is needed. -/
  | infinite
  /-- Not a number where an integer is needed. -/
  | notANumber
deriving DecidableEq, Repr

/-- The wording of an arithmetic error. -/
def ArithmeticError.message : ArithmeticError → String
  | divisionByZero => "division by zero"
  | floatDivisionByZero => "float division by zero"
  | quotientTooLarge => "integer division result too large for a float"
  | integerTooLarge => "int too large to convert to float"
  | infinite => "cannot convert float infinity to integer"
  | notANumber => "cannot convert float NaN to integer"

/-- An integer or a double. -/
inductive Number where
  | int (n : Int)
  | real (x : Float)

namespace Number

open Binary64

/-! ## Comparison -/

/-- Compares an integer with a double exactly; nothing compares with what is no number. -/
def compareInt (n : Int) (x : Float) : Option Ordering :=
  match view x with
  | .notANumber => none
  | .infinite negative => some (if negative then .gt else .lt)
  | .finite negative mantissa exponent =>
    let (up, down) := scale exponent
    let value : Int := if negative then -(mantissa * up : Nat) else (mantissa * up : Nat)
    some (compare (n * down) value)

/-- Compares two numbers exactly. -/
def compare? : Number → Number → Option Ordering
  | int a, int b => some (compare a b)
  | int a, real y => compareInt a y
  | real x, int b => (compareInt b x).map Ordering.swap
  | real x, real y =>
    if x < y then some .lt else if y < x then some .gt else if x == y then some .eq else none

/-- Whether one number is at most the other. -/
def le (a b : Number) : Bool :=
  match a.compare? b with
  | some .gt | none => false
  | _ => true

/-- Whether one number is less than the other. -/
def lt (a b : Number) : Bool :=
  a.compare? b == some .lt

/-! ## Arithmetic -/

/-- The double nearest to a number. -/
def toFloat : Number → Except ArithmeticError Float
  | real x => .ok x
  | int n =>
    let x := ofRatio (n < 0) n.natAbs 1
    match view x with
    | .finite .. => .ok x
    | _ => .error .integerTooLarge

/-- Applies an operation on integers, or the corresponding one on doubles. -/
def lift (onInts : Int → Int → Int) (onFloats : Float → Float → Float) :
    Number → Number → Except ArithmeticError Number
  | int a, int b => .ok (int (onInts a b))
  | a, b => do return real (onFloats (← a.toFloat) (← b.toFloat))

/-- The sum. -/
def add : Number → Number → Except ArithmeticError Number :=
  lift (· + ·) (· + ·)

/-- The difference. -/
def sub : Number → Number → Except ArithmeticError Number :=
  lift (· - ·) (· - ·)

/-- The product. -/
def mul : Number → Number → Except ArithmeticError Number :=
  lift (· * ·) (· * ·)

/-- The quotient, always a double. -/
def div : Number → Number → Except ArithmeticError Number
  | int a, int b =>
    if b = 0 then .error .divisionByZero
    else
      let x := ofRatio ((a < 0) != (b < 0)) a.natAbs b.natAbs
      match view x with
      | .finite .. => .ok (real x)
      | _ => .error .quotientTooLarge
  | a, b => do
    let x ← a.toFloat
    let y ← b.toFloat
    if y == 0 then .error .floatDivisionByZero else return real (x / y)

/-- The greatest integer that is not above a number. -/
def floor : Number → Except ArithmeticError Int
  | int n => .ok n
  | real x =>
    match view x with
    | .notANumber => .error .notANumber
    | .infinite _ => .error .infinite
    | .finite negative mantissa exponent =>
      let (up, down) := scale exponent
      let value : Int := if negative then -(mantissa * up : Nat) else (mantissa * up : Nat)
      .ok (value.fdiv down)

/-- The least integer that is not below a number. -/
def ceil : Number → Except ArithmeticError Int
  | int n => .ok n
  | real x => (floor (real (-x))).map (- ·)

/-! ## Text -/

/-- How doubles are written that are no numbers. -/
def specials : Decimal.Specials :=
  ⟨"nan", "inf"⟩

/-- The text of a number. -/
def text : Number → String
  | int n => toString n
  | real x => Decimal.text specials x

/-- The text of a number with a fixed number of places. -/
def fixed (places : Nat) (n : Number) : Except ArithmeticError String :=
  n.toFloat.map (Decimal.fixed places)

end Number

end Cyclomatic
