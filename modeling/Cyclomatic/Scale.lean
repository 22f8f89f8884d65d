import Cyclomatic.Fault

/-!
# Scales

Scores are computed on an ordered scale of numbers. The scale of settings holds any value, so
comparing and calculating may fail there; on the rational numbers only division by zero does.
-/

namespace Cyclomatic

/-- Values that can be compared, calculated with and rounded to integers, unless they are of the
wrong kind. -/
class Scale (α : Type) where
  ofInt : Int → α
  half : α
  atMost : α → α → Except Fault Bool
  add : α → α → Except Fault α
  sub : α → α → Except Fault α
  mul : α → α → Except Fault α
  div : α → α → Except Fault α
  /-- The greatest integer that is not above. -/
  floor : α → Except Fault Int
  /-- The least integer that is not below. -/
  ceil : α → Except Fault Int

/-- Exact arithmetic. -/
instance : Scale Rat where
  ofInt n := n
  half := 1 / 2
  atMost a b := .ok (a ≤ b)
  add a b := .ok (a + b)
  sub a b := .ok (a - b)
  mul a b := .ok (a * b)
  div a b := if b = 0 then .error (.arithmetic .divisionByZero) else .ok (a / b)
  floor a := .ok a.floor
  ceil a := .ok a.ceil

end Cyclomatic
