import Cyclomatic.Web

/-!
# Values

Settings are read from files in formats that know scalars, lists, pairs, sets and mappings. What a
setting must be is decided where it is used, so settings are kept as such values. A collection that is
part of itself is given by its place in a web; what a value is does not depend on how it is given.
-/

namespace Cyclomatic

/-- A value of a data format. The entries of a mapping are in the order of their first mention. -/
inductive Value where
  | scalar (s : Scalar)
  | list (items : List Value)
  | pair (first second : Value)
  | set (members : List Scalar)
  | dict (entries : List (Scalar × Value))
  /-- The collection at a place of a web. -/
  | linked (web : Web) (place : Nat)

/-- The entries of a mapping. -/
abbrev Entries := List (Scalar × Value)

namespace Value

/-- The value that is none. -/
@[match_pattern] abbrev null : Value := scalar .null

/-- A truth value. -/
@[match_pattern] abbrev bool (b : Bool) : Value := scalar (.bool b)

/-- An integer. -/
@[match_pattern] abbrev int (n : Int) : Value := scalar (.int n)

/-- A double. -/
@[match_pattern] abbrev real (x : Float) : Value := scalar (.real x)

/-- A text. -/
@[match_pattern] abbrev text (s : String) : Value := scalar (.text s)

instance : Inhabited Value := ⟨null⟩

/-! ## Collections -/

/-- The value of a part of a collection in a web. -/
def ofPart (web : Web) : Part → Value
  | .scalar s => scalar s
  | .link place => linked web place

/-- The value of a collection. -/
def ofCollection : Collection Value → Value
  | .list items => list items
  | .pair first second => pair first second
  | .set members => set members
  | .dict entries => dict entries

/-- The collection that a value is, however it is given; none for a scalar. -/
def collection? : Value → Option (Collection Value)
  | scalar _ => none
  | list items => some (.list items)
  | pair first second => some (.pair first second)
  | set members => some (.set members)
  | dict entries => some (.dict entries)
  | linked web place => some ((web.cell place).map (ofPart web))

/-- The items of a list. -/
def listItems? (v : Value) : Option (List Value) :=
  match v.collection? with
  | some (.list items) => some items
  | _ => none

/-- The entries of a mapping. -/
def entries? (v : Value) : Option Entries :=
  match v.collection? with
  | some (.dict entries) => some entries
  | _ => none

/-! ## Nesting -/

mutual

/-- How many collections may be inside each other in a value. A way through a web that meets no collection
twice leads through its places, and at last perhaps to one where there is nothing. -/
def nesting : Value → Nat
  | scalar _ => 0
  | list items => nestingOfAll items + 1
  | pair first second => max first.nesting second.nesting + 1
  | set _ => 1
  | dict entries => nestingOfEntries entries + 1
  | linked web _ => web.size + 1

/-- The greatest nesting of the items of a list. -/
def nestingOfAll : List Value → Nat
  | [] => 0
  | v :: vs => max v.nesting (nestingOfAll vs)

/-- The greatest nesting of the values of a mapping. -/
def nestingOfEntries : Entries → Nat
  | [] => 0
  | (_, v) :: es => max v.nesting (nestingOfEntries es)

end

/-- The value with every collection given by what it holds, if collections are nested in it by no more
than a depth. -/
def unlinkedWithin : Nat → Value → Option Value
  | _, scalar s => some (scalar s)
  | 0, _ => none
  | depth + 1, v =>
    match v.collection? with
    | some c => (c.mapM (unlinkedWithin depth)).map ofCollection
    | none => some v

/-- The value with every collection given by what it holds. Only a collection that is part of itself has no
such form. -/
def unlinked? (v : Value) : Option Value :=
  v.unlinkedWithin v.nesting

/-! ## Reading -/

/-- The value of a key that is a text. -/
def get? {α : Type} (entries : List (Scalar × α)) (key : String) : Option α :=
  (entries.find? fun e => e.1.same (.text key)).map (·.2)

/-- The entries with a value put under a key, in the place of the key if it is there already. -/
def put {α : Type} (entries : List (Scalar × α)) (key : Scalar) (v : α) : List (Scalar × α) :=
  if entries.any (·.1.same key) then
    entries.map fun e => if e.1.same key then (e.1, v) else e
  else entries ++ [(key, v)]

/-- The number that a value is, if any. -/
def number? : Value → Option Number
  | scalar s => s.number?
  | _ => none

/-- Whether a value counts as true: not null, false, zero or empty. -/
def isTruthy : Value → Bool
  | scalar s => s.isTruthy
  | v => v.collection?.any (!·.isEmpty)

/-- The value, or another in place of null. -/
def orElse (v other : Value) : Value :=
  match v with
  | null => other
  | v => v

/-- The items that a value yields one by one: those of a list or a pair, the characters of a text, the
bytes of bytes, the members of a set, the keys of a mapping. -/
def items? : Value → Option (List Value)
  | text s => some (s.toList.map fun c => text c.toString)
  | scalar (.bytes bs) => some (bs.map fun b => int b.toNat)
  | v => v.collection?.map (·.items scalar)

/-- A list of texts as a value. -/
def ofTexts (texts : List String) : Value :=
  list (texts.map text)

/-! ## Showing -/

/-- The kind of a value, as messages name it. -/
def kind : Value → String
  | scalar s => s.kind
  | v => (v.collection?.map (·.kind)).getD ""

/-- The kind of a value by its own name, without that of the family it belongs to. -/
def plainKind : Value → String
  | scalar (.date _) => "date"
  | scalar (.moment _) => "datetime"
  | v => v.kind

mutual

/-- A value as messages show it. -/
def shown : Value → String
  | scalar s => s.shown
  | list items => Collection.shown id (.list (shownItems items))
  | pair first second => Collection.shown id (.pair first.shown second.shown)
  | set members => Collection.shown id (.set members)
  | dict entries => Collection.shown id (.dict (shownEntries entries))
  | linked web place => web.shown place

/-- The items of a list as messages show them. -/
def shownItems : List Value → List String
  | [] => []
  | v :: vs => v.shown :: shownItems vs

/-- The entries of a mapping, with their values as messages show them. -/
def shownEntries : List (Scalar × Value) → List (Scalar × String)
  | [] => []
  | (key, v) :: es => (key, v.shown) :: shownEntries es

end

mutual

/-- Whether messages can show a value: no integer in it has too many digits. -/
def isShowable : Value → Bool
  | scalar s => s.isShowable
  | list items => allShowable items
  | pair first second => first.isShowable && second.isShowable
  | set members => members.all (·.isShowable)
  | dict entries => entriesShowable entries
  | linked web place => web.isShowable place

/-- Whether messages can show all items of a list. -/
def allShowable : List Value → Bool
  | [] => true
  | v :: vs => v.isShowable && allShowable vs

/-- Whether messages can show all entries of a mapping. -/
def entriesShowable : List (Scalar × Value) → Bool
  | [] => true
  | (key, v) :: es => key.isShowable && v.isShowable && entriesShowable es

end

/-- A value as a text: a text as it is, anything else as messages show it. -/
def asText : Value → String
  | scalar s => s.asText
  | v => v.shown

end Value

end Cyclomatic
