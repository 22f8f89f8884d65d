import Cyclomatic.Scale

/-!
# Arithmetic on values

Numbers are compared and calculated with as numbers. Texts, lists and bytes can be joined and
repeated.
Everything else is an error that names the kinds involved.
-/

namespace Cyclomatic.Value

/-- Turns an arithmetic error into a fault. -/
def ofArithmetic {α : Type} : Except ArithmeticError α → Except Fault α
  | .ok a => .ok a
  | .error e => .error (.arithmetic e)

/-- The value of a number. -/
def ofNumber : Number → Value
  | .int n => int n
  | .real x => real x

/-- Whether two values are equal, which is settled unless collections are nested in both by more than a
depth. Numbers are equal by their value, and mappings whatever the order of their entries. -/
def sameWithin : Nat → Value → Value → Except Fault Bool
  | _, scalar s, scalar t => .ok (s.same t)
  | 0, _, _ => .error .endless
  | depth + 1, a, b =>
    match a.collection?, b.collection? with
    | some (.list xs), some (.list ys) =>
      if xs.length = ys.length then (xs.zip ys).allM fun p => sameWithin depth p.1 p.2
      else .ok false
    | some (.pair x x'), some (.pair y y') => do
      if ← sameWithin depth x y then sameWithin depth x' y' else return false
    | some (.set xs), some (.set ys) =>
      .ok (xs.length == ys.length && xs.all fun x => ys.any x.same)
    | some (.dict xs), some (.dict ys) =>
      if xs.length = ys.length then
        xs.allM fun x => ys.anyM fun y =>
          if x.1.same y.1 then sameWithin depth x.2 y.2 else .ok false
      else .ok false
    | _, _ => .ok false

/-- How deep two values may have to be entered to compare them. Further inside, two collections meet that
have met before, and there is no end to comparing them. -/
def levels (a b : Value) : Nat :=
  (a.nesting + 1) * (b.nesting + 1)

/-- An order on values, asked for with a symbol that an error shows. -/
structure Ordering where
  symbol : String
  numbers : Number → Number → Bool
  texts : String → String → Bool
  lengths : Nat → Nat → Bool

/-- Whether two values are in an order, which is settled unless lists are nested in both by more than a
depth. Lists are compared by the first items that differ, or else by their lengths. -/
def inOrder (o : Ordering) : Nat → Value → Value → Except Fault Bool
  | depth, a, b =>
    match a.number?, b.number?, a, b with
    | some x, some y, _, _ => .ok (o.numbers x y)
    | _, _, text s, text t => .ok (o.texts s t)
    | _, _, _, _ =>
      match a.listItems?, b.listItems?, depth with
      | some xs, some ys, depth + 1 => do
        match ← (xs.zip ys).findM? fun p => return !(← sameWithin (levels p.1 p.2) p.1 p.2) with
        | some (x, y) => inOrder o depth x y
        | none => return o.lengths xs.length ys.length
      | some _, some _, 0 => .error .endless
      | _, _, _ => .error (.kind (.unordered o.symbol a b))

/-- Whether a value is at most another, asked with a symbol that an error shows. -/
def atMost (symbol : String) (a b : Value) : Except Fault Bool :=
  inOrder ⟨symbol, Number.le, fun s t => !(t < s), fun m n => m ≤ n⟩ (levels a b) a b

/-- Whether a value is greater than another. -/
def exceeds (a b : Value) : Except Fault Bool :=
  inOrder ⟨">", fun x y => y.lt x, fun s t => decide (t < s), fun m n => n < m⟩ (levels a b) a b

/-- The integer that a value is, if any. -/
def integer? : Value → Option Int
  | bool b => some (if b then 1 else 0)
  | int n => some n
  | _ => none

/-- Several copies of a list, one after the other. -/
def copies {α : Type} (count : Int) (items : List α) : List α :=
  (List.replicate count.toNat items).flatten

/-- The sum of numbers; texts, lists and bytes are joined. -/
def add (a b : Value) : Except Fault Value :=
  match a.number?, b.number?, a.listItems?, b.listItems? with
  | some x, some y, _, _ => (ofArithmetic (x.add y)).map ofNumber
  | _, _, some xs, some ys => .ok (list (xs ++ ys))
  | _, _, some _, none => .error (.kind (.notJoinable a b))
  | _, _, none, _ =>
    match a, b with
    | text s, text t => .ok (text (s ++ t))
    | scalar (.bytes bs), scalar (.bytes cs) => .ok (scalar (.bytes (bs ++ cs)))
    | text _, _ => .error (.kind (.notJoinable a b))
    | scalar (.bytes _), _ => .error (.kind (.notBytes b))
    | _, _ => .error (.kind (.operands "+" a b))

/-- The difference of numbers. -/
def sub (a b : Value) : Except Fault Value :=
  match a.number?, b.number? with
  | some x, some y => (ofArithmetic (x.sub y)).map ofNumber
  | _, _ => .error (.kind (.operands "-" a b))

/-- The product of numbers; an integer repeats a text, a list or bytes. -/
def mul (a b : Value) : Except Fault Value :=
  match a.number?, b.number?, a.integer?, b, b.listItems? with
  | some x, some y, _, _, _ => (ofArithmetic (x.mul y)).map ofNumber
  | _, _, some n, text s, _ => .ok (text (String.ofList (copies n s.toList)))
  | _, _, some n, scalar (.bytes bs), _ => .ok (scalar (.bytes (copies n bs)))
  | _, _, some n, _, some xs => .ok (list (copies n xs))
  | _, _, _, _, _ => .error (.kind (.operands "*" a b))

/-- The quotient of numbers. -/
def div (a b : Value) : Except Fault Value :=
  match a.number?, b.number? with
  | some x, some y => (ofArithmetic (x.div y)).map ofNumber
  | _, _ => .error (.kind (.operands "/" a b))

/-- A value that must be a number. -/
def toNumber (v : Value) : Except Fault Number :=
  match v.number? with
  | some x => .ok x
  | none => .error (.kind (.notNumber v))

/-- Values as a scale. -/
instance : Scale Value where
  ofInt := int
  half := real 0.5
  atMost := atMost "<="
  add := add
  sub := sub
  mul := mul
  div := div
  floor v := do ofArithmetic (← v.toNumber).floor
  ceil v := do ofArithmetic (← v.toNumber).ceil

end Cyclomatic.Value
