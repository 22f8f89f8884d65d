import Cyclomatic.Yaml.Node

/-!
# Documents

A text holds at most one document, which may have directives before it and marks around it.
-/

namespace Cyclomatic.Yaml

/-- What handles stand for unless a directive says otherwise. -/
def defaultHandles : List (String × String) :=
  [("!", "!"), ("!!", Tag.standard)]

/-- How deeply nodes may be nested. -/
def maxDepth : Nat := 488

/-- The nodes of a document, and the number of the one that holds all. -/
structure Document where
  nodes : Graph
  top : Nat

/-- Where a document begins. -/
def Document.mark (d : Document) : Mark :=
  (d.nodes.node d.top).mark

/-- What the directives before a document say. -/
structure Directives where
  hasVersion : Bool := false
  handles : List (String × String) := []

/-- Takes a directive into account. A text of another major version is not read. -/
def Directives.add (ds : Directives) (d : Directive) (place : Mark) : Except Failure Directives :=
  match d with
  | .version major =>
    if ds.hasVersion then complain none none .versionAgain place
    else if major ≠ 1 then complain none none .versionUnknown place
    else .ok { ds with hasVersion := true }
  | .handle handle expansion =>
    if (ds.handles.lookup handle).isSome then complain none none (.handleAgain handle) place
    else .ok { ds with handles := (handle, expansion) :: ds.handles }
  | .other => .ok ds

/-- Takes directives. -/
def directives : Nat → Directives → Reading Directives
  | 0, ds => return ds
  | fuel + 1, ds => do
    let next ← peek
    match next.symbol with
    | .directive d => do
      let _ ← take
      directives fuel (← ds.add d next.start)
    | _ => return ds

/-- Goes past marks for the end of a document. -/
def skipEnds : Nat → Reading Unit
  | 0 => return
  | fuel + 1 => do
    if (← peek).symbol = .documentEnd then
      let _ ← take
      skipEnds fuel

/-- The beginning of a document that is marked: its handles and where it begins. None at the end of
the text. -/
def documentStart? : Reading (Option (List (String × String) × Mark)) := do
  let fuel := (← get).steps
  skipEnds fuel
  let first ← peek
  if first.symbol = .streamEnd then return none
  let ds ← directives fuel {}
  let next ← peek
  if next.symbol = .documentStart then
    let _ ← take
    return some (ds.handles ++ defaultHandles, first.start)
  else refuse none none (.documentStartExpected next.symbol.label) next.start

/-- The content of a document with the given handles. Every few steps take a symbol, and a character
makes a few symbols at most. -/
def content (handles : List (String × String)) : Reading Document := do
  let fuel := 32 * ((← get).steps + 1)
  let (top, c) ← (node { handles, room := maxDepth } .block fuel).run {}
  return ⟨c.nodes, top⟩

/-- Whether a document without content ends with a symbol. -/
def endsDocument : Symbol → Bool
  | .directive _ | .documentStart | .documentEnd | .streamEnd => true
  | _ => false

/-- The first document, if there is one. -/
def firstDocument? : Reading (Option Document) := do
  match (← peek).symbol with
  | .directive _ | .documentStart | .streamEnd => do
    match ← documentStart? with
    | none => return none
    | some (handles, _) => do
      let next ← peek
      if endsDocument next.symbol then return some ⟨#[.missing next.start], 0⟩
      else return some (← content handles)
  | _ => return some (← content defaultHandles)

/-- The only document, if there is one. -/
def singleDocument? : Reading (Option Document) := do
  match ← firstDocument? with
  | none => return none
  | some d => do
    if (← peek).symbol = .documentEnd then
      let _ ← take
    match ← documentStart? with
    | none => return some d
    | some (_, start) => refuse (some .stream) (some d.mark) .anotherDocument start

end Cyclomatic.Yaml
