import Cyclomatic.Scalar

/-!
# Collections and webs of them

A collection holds parts in one of four ways. In a web the parts of a collection are scalars or the
places of other collections, so a collection may be part of several others, and even of itself.
-/

namespace Cyclomatic

/-! ## Collections -/

/-- A collection of parts. The keys of a mapping and the members of a set are scalars. -/
inductive Collection (α : Type) where
  | list (items : List α)
  | pair (first second : α)
  | set (members : List Scalar)
  | dict (entries : List (Scalar × α))

namespace Collection

variable {α β : Type}

/-- The collection with each part changed. -/
def map (f : α → β) : Collection α → Collection β
  | list items => list (items.map f)
  | pair first second => pair (f first) (f second)
  | set members => set members
  | dict entries => dict (entries.map fun e => (e.1, f e.2))

/-- The collection with each part changed by an action, in order. -/
def mapM {m : Type → Type} [Monad m] (f : α → m β) : Collection α → m (Collection β)
  | list items => do return list (← items.mapM f)
  | pair first second => do return pair (← f first) (← f second)
  | set members => return set members
  | dict entries => do
    return dict (← entries.mapM fun e => do return (e.1, ← f e.2))

/-- Whether there is nothing in a collection. -/
def isEmpty : Collection α → Bool
  | list items => items.isEmpty
  | pair _ _ => false
  | set members => members.isEmpty
  | dict entries => entries.isEmpty

/-- The kind of a collection, as messages name it. -/
def kind : Collection α → String
  | list _ => "list"
  | pair _ _ => "tuple"
  | set _ => "set"
  | dict _ => "dict"

/-- What a collection yields one by one: its parts, or the members of a set and the keys of a
mapping. -/
def items (ofScalar : Scalar → α) : Collection α → List α
  | list items => items
  | pair first second => [first, second]
  | set members => members.map ofScalar
  | dict entries => entries.map fun e => ofScalar e.1

/-- All parts of a collection, with the keys of a mapping and the members of a set among them. -/
def parts (ofScalar : Scalar → α) : Collection α → List α
  | list items => items
  | pair first second => [first, second]
  | set members => members.map ofScalar
  | dict entries => entries.flatMap fun e => [ofScalar e.1, e.2]

/-- A collection as messages show it, given how they show its parts. -/
def shown (part : α → String) : Collection α → String
  | list items => "[" ++ ", ".intercalate (items.map part) ++ "]"
  | pair first second => "(" ++ part first ++ ", " ++ part second ++ ")"
  | set [] => "set()"
  | set members => "\x7b" ++ ", ".intercalate (members.map (·.shown)) ++ "\x7d"
  | dict entries =>
    "\x7b" ++ ", ".intercalate (entries.map fun e => e.1.shown ++ ": " ++ part e.2) ++ "\x7d"

/-- What messages show for a collection inside itself. -/
def abridged : Collection α → String
  | list _ => "[...]"
  | pair _ _ => "(...)"
  | set _ => "set(...)"
  | dict _ => "\x7b...\x7d"

end Collection

/-! ## Webs -/

/-- A part of a collection in a web: a scalar, or the collection at a place. -/
inductive Part where
  | scalar (s : Scalar)
  | link (place : Nat)
deriving Inhabited

/-- Collections by their places. -/
abbrev Web := Array (Collection Part)

namespace Web

/-- The collection at a place; there is an empty list where there is nothing. -/
def cell (web : Web) (place : Nat) : Collection Part :=
  web[place]?.getD (.list [])

/-- A collection as messages show it, inside of those at the places `around`. A way through different
places spends less fuel than there are places. -/
def shownInside (web : Web) : Nat → List Nat → Nat → String
  | 0, _, place => (web.cell place).abridged
  | fuel + 1, around, place =>
    if around.contains place then (web.cell place).abridged
    else
      (web.cell place).shown fun part =>
        match part with
        | .scalar s => s.shown
        | .link inner => web.shownInside fuel (place :: around) inner

/-- A collection as messages show it. -/
def shown (web : Web) (place : Nat) : String :=
  web.shownInside (web.size + 1) [] place

/-- Whether messages can show a collection, inside of those at the places `around`. -/
def isShowableInside (web : Web) : Nat → List Nat → Nat → Bool
  | 0, _, _ => true
  | fuel + 1, around, place =>
    around.contains place ||
      ((web.cell place).parts .scalar).all fun part =>
        match part with
        | .scalar s => s.isShowable
        | .link inner => web.isShowableInside fuel (place :: around) inner

/-- Whether messages can show a collection. -/
def isShowable (web : Web) (place : Nat) : Bool :=
  web.isShowableInside (web.size + 1) [] place

end Web

end Cyclomatic
