/-!
# Parameter lists

Counting the entries of a bracketed list, one token at a time. Only commas directly inside the list
separate entries; an empty entry, such as the one after a trailing comma, does not count, and
neither does an entry that is a single marker.
-/

namespace Cyclomatic

/-- The tokens that open a bracket. -/
def isOpening (text : String) : Bool :=
  text == "(" || text == "[" || text == "\x7b"

/-- The tokens that close a bracket. -/
def isClosing (text : String) : Bool :=
  text == ")" || text == "]" || text == "\x7d"

/-- A list that is being read. `entry` holds the tokens of the current entry, newest first. -/
structure ParameterList where
  markers : List String := []
  depth : Int := 0
  count : Nat := 0
  entry : List String := []
deriving DecidableEq, Repr

namespace ParameterList

/-- Whether an entry counts as a parameter. -/
def isParameter (markers : List String) : List String → Bool
  | [] => false
  | [text] => !markers.contains text
  | _ => true

/-- Ends the current entry. -/
def endEntry (p : ParameterList) : ParameterList :=
  { p with count := if isParameter p.markers p.entry then p.count + 1 else p.count, entry := [] }

/-- Takes a token into the current entry. -/
def extend (p : ParameterList) (text : String) : ParameterList :=
  { p with entry := text :: p.entry }

/-- Reads a token. The flag tells whether it closed the list. -/
def feed (p : ParameterList) (text : String) : Bool × ParameterList :=
  if isOpening text then
    if p.depth + 1 = 1 then (false, { p with depth := 1, count := 0, entry := [] })
    else (false, { p with depth := p.depth + 1 }.extend text)
  else if isClosing text then
    if p.depth - 1 ≤ 0 then (true, { p with depth := p.depth - 1 }.endEntry)
    else (false, { p with depth := p.depth - 1 }.extend text)
  else if text = "," ∧ p.depth = 1 then (false, p.endEntry)
  else (false, p.extend text)

end ParameterList

end Cyclomatic
