import Cyclomatic.Fault

/-!
# Mappings out of pairs

A mapping may also be given as a sequence of pairs, each a sequence of a key and a value. The last
pair of a key gives its value, and the first its place.
-/

namespace Cyclomatic.Value

/-- The entry that an item gives, at its position in a sequence. -/
def pairAt (position : Nat) (v : Value) : Except Fault (Scalar × Value) :=
  match v.items? with
  | some [scalar key, value] => .ok (key, value)
  | some [key, _] => .error (.kind (.notKey key))
  | some parts => .error (.pairSize position parts.length)
  | none => .error (.kind (.notPair position))

/-- Some entries with those of further pairs put to them, the first of which has a position. -/
def putPairs (entries : Entries) (position : Nat) : List Value → Except Fault Entries
  | [] => .ok entries
  | v :: vs => do
    let (key, value) ← pairAt position v
    putPairs (put entries key value) (position + 1) vs

/-- The entries of a mapping or of a sequence of pairs. -/
def toEntries (v : Value) : Except Fault Entries :=
  match v.entries?, v.items? with
  | some entries, _ => .ok entries
  | none, some items => putPairs [] 0 items
  | none, none => .error (.kind (.notIterable v))

end Cyclomatic.Value
