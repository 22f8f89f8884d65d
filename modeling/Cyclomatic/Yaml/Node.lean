import Cyclomatic.Yaml.Feed
import Cyclomatic.Yaml.Tag

/-!
# Nodes

The symbols of a text make up a graph of nodes: scalars, sequences and mappings. A reference to an
anchor stands for the node that has the anchor, which may be one around the reference.
-/

namespace Cyclomatic.Yaml

/-- What a node holds. Other nodes are given by their numbers. -/
inductive Content where
  | scalar (text : String)
  | sequence (items : List Nat)
  | mapping (entries : List (Nat × Nat))

/-- The kind of a content, as messages name it. -/
def Content.kind : Content → String
  | scalar _ => "scalar"
  | sequence _ => "sequence"
  | mapping _ => "mapping"

/-- A node with its tag and the place where it begins. -/
structure Node where
  tag : Tag
  content : Content
  mark : Mark

/-- A node of which nothing is written. -/
def Node.missing (m : Mark) : Node :=
  ⟨.null, .scalar "", m⟩

/-- Nodes by their numbers. -/
abbrev Graph := Array Node

/-- The node with a number. -/
def Graph.node (g : Graph) (n : Nat) : Node :=
  g[n]?.getD (.missing {})

/-! ## Properties -/

/-- What is known besides the symbols while a document is read. -/
structure Scope where
  /-- What the handles of tags stand for. -/
  handles : List (String × String)
  /-- How many nodes more may be nested. -/
  room : Nat

/-- The nodes that have been read or begun, and the numbers of those with anchors. -/
structure Composition where
  nodes : Graph := #[]
  anchors : List (String × Nat) := []

/-- A step that reads nodes. -/
abbrev Composing := StateT Composition Reading

/-- What stands before the content of a node. -/
structure Properties where
  anchor : Option String := none
  tag : Option TagText := none
  start : Option Mark := none
  tagPlace : Option Mark := none
  stop : Option Mark := none

/-- Takes an anchor, if there is one. -/
def takeAnchor (p : Properties) : Reading Properties := do
  let next ← peek
  match next.symbol with
  | .anchor name =>
    let _ ← take
    return { p with anchor := some name, start := p.start.or (some next.start) }
  | _ => return p

/-- Takes a tag, if there is one. -/
def takeTag (p : Properties) : Reading Properties := do
  let next ← peek
  match next.symbol with
  | .tag t =>
    let _ ← take
    return { p with
      tag := some t, start := p.start.or (some next.start), tagPlace := some next.start }
  | _ => return p

/-- Takes an anchor and a tag in either order; either can be missing. -/
def properties : Reading Properties := do
  let first ← takeAnchor {}
  if first.anchor.isSome then takeTag first
  else
    let second ← takeTag first
    if second.tag.isSome then takeAnchor second else return second

/-- The name of the tag that is written; none for the mark that asks for the implied one. -/
def tagName? (scope : Scope) (p : Properties) : Reading (Option String) :=
  match p.tag with
  | none => return none
  | some ⟨none, suffix⟩ => return some suffix
  | some ⟨some handle, suffix⟩ =>
    match scope.handles.lookup handle with
    | some expansion => return some (expansion ++ suffix)
    | none => refuse (some .node) p.start (.handleUnknown handle) (p.tagPlace.getD {})

/-- The tag that the text of a scalar implies. A line break at its end is not looked at. -/
def textTag (s : String) : Tag :=
  match s.toList.reverse with
  | '\n' :: c :: cs => impliedTag (String.ofList (c :: cs).reverse)
  | '\n' :: [] => .text
  | _ => impliedTag s

/-- The tag of a scalar. -/
def scalarTag (name? : Option String) (text : String) (plain : Bool) : Tag :=
  match name? with
  | none => if plain then textTag text else .text
  | some name => if name = "!" then textTag text else .ofName name

/-- The tag of a collection. -/
def collectionTag (name? : Option String) (implied : Tag) : Tag :=
  match name? with
  | none => implied
  | some name => if name = "!" then implied else .ofName name

/-! ## Nodes and anchors -/

/-- Adds a node and gives its number. -/
def addNode (n : Node) : Composing Nat := do
  let number := (← get).nodes.size
  modify fun c => { c with nodes := c.nodes.push n }
  return number

/-- Adds a node that may have an anchor and gives its number. An anchor can only be given once. -/
def anchored (anchor : Option String) (n : Node) : Composing Nat := do
  match anchor with
  | none => addNode n
  | some name =>
    let c ← get
    match c.anchors.lookup name with
    | some first =>
      refuse (some (.anchorAgain name)) (some (c.nodes.node first).mark) .secondOccurrence n.mark
    | none => do
      let number ← addNode n
      modify fun c => { c with anchors := (name, number) :: c.anchors }
      return number

/-- Fills in what a node holds. -/
def complete (number : Nat) (content : Content) : Composing Unit :=
  modify fun c => { c with nodes := c.nodes.modify number fun n => { n with content } }

/-- Adds a node of which nothing is written. -/
def missing (m : Mark) : Composing Nat :=
  addNode (.missing m)

/-- The node that a reference stands for. -/
def refer (name : String) (place : Mark) : Composing Nat := do
  match (← get).anchors.lookup name with
  | none => refuse none none (.referenceUnknown name) place
  | some number => return number

/-! ## Reading nodes -/

/-- Where a node stands, which decides the forms that it can have. -/
inductive Position where
  /-- Inside a flow collection. -/
  | flow
  /-- As an item of a block sequence or as a document. -/
  | block
  /-- In a block mapping, where a sequence need not be indented. -/
  | entry
deriving DecidableEq, Repr

/-- The forms of a collection. -/
inductive Form where
  | flowSequence
  | flowMapping
  | blockSequence
  | blockMapping
  | indentlessSequence
deriving DecidableEq, Repr

/-- The collection that a symbol opens at a position, if any. -/
def Position.form? : Position → Symbol → Option Form
  | .entry, .blockEntry => some .indentlessSequence
  | _, .flowSequenceStart => some .flowSequence
  | _, .flowMappingStart => some .flowMapping
  | .flow, _ => none
  | _, .blockSequenceStart => some .blockSequence
  | _, .blockMappingStart => some .blockMapping
  | _, _ => none

/-- The tag of a collection of a form that has none of its own. -/
def Form.tag : Form → Tag
  | .flowMapping | .blockMapping => .mapping
  | _ => .sequence

/-- Whether a symbol ends an item without content in a form. -/
def Form.endsItem : Form → Symbol → Bool
  | .blockSequence, s => s == .blockEntry || s == .blockEnd
  | .indentlessSequence, s => s == .blockEntry || s == .key || s == .value || s == .blockEnd
  | _, _ => false

/-- Fails because nothing more fits in. -/
def tooDeep {α : Type} : Composing α :=
  fun _ _ => .error .depth

/-- Takes the comma before an item, unless the collection is closed here. -/
def separator (closing : Symbol) (activity : Activity) (start : Mark) : Reading Unit := do
  let next ← peek
  if next.symbol = closing then return
  if next.symbol = .flowEntry then
    let _ ← take
  else
    refuse (some activity) (some start) (.flowMarkExpected closing.label next.symbol.label) next.start

mutual

/-- A node. Each step spends fuel; every few steps take a symbol. -/
def node (scope : Scope) (position : Position) : Nat → Composing Nat
  | 0 => tooDeep
  | fuel + 1 => do
    if scope.room = 0 then tooDeep
    let first ← peek
    match first.symbol with
    | .reference name => do
      let _ ← take
      refer name first.start
    | _ => do
      let p ← properties
      let name? ← tagName? scope p
      let next ← peek
      let start := p.start.getD next.start
      match next.symbol, position.form? next.symbol with
      | .scalar text plain, _ => do
        let _ ← take
        anchored p.anchor ⟨scalarTag name? text plain, .scalar text, start⟩
      | _, some form => do
        let number ← anchored p.anchor ⟨collectionTag name? form.tag, .sequence [], start⟩
        complete number (← collection scope form fuel)
        return number
      | _, none => do
        if p.anchor.isSome || name?.isSome then
          anchored p.anchor ⟨scalarTag name? "" true, .scalar "", start⟩
        else
          refuse (some (if position = .flow then .flowNode else .blockNode)) (some start)
            (.contentExpected next.symbol.label) next.start

/-- What a collection of a given form holds; its opening symbol is next. -/
def collection (scope : Scope) (form : Form) : Nat → Composing Content
  | 0 => tooDeep
  | fuel + 1 => do
    let inner := { scope with room := scope.room - 1 }
    let opening ← peek
    if form ≠ .indentlessSequence then let _ ← take
    match form with
    | .flowSequence => return .sequence (← flowItems inner opening.start [] fuel)
    | .flowMapping => return .mapping (← flowEntries inner opening.start [] fuel)
    | .blockMapping => return .mapping (← blockEntries inner opening.start [] fuel)
    | form => return .sequence (← blockItems inner form opening.start [] fuel)

/-- The items of a block sequence; `done` holds those before, newest first. -/
def blockItems (scope : Scope) (form : Form) (start : Mark) (done : List Nat) :
    Nat → Composing (List Nat)
  | 0 => tooDeep
  | fuel + 1 => do
    let next ← peek
    match next.symbol, form with
    | .blockEntry, _ => do
      let _ ← take
      let content ← peek
      let item ←
        if form.endsItem content.symbol then missing next.stop
        else node scope .block fuel
      blockItems scope form start (item :: done) fuel
    | _, .indentlessSequence => return done.reverse
    | .blockEnd, _ => do
      let _ ← take
      return done.reverse
    | s, _ => refuse (some .blockSequence) (some start) (.blockEndExpected s.label) next.start

/-- The entries of a block mapping; `done` holds those before, newest first. -/
def blockEntries (scope : Scope) (start : Mark) (done : List (Nat × Nat)) :
    Nat → Composing (List (Nat × Nat))
  | 0 => tooDeep
  | fuel + 1 => do
    let next ← peek
    match next.symbol with
    | .key => do
      let _ ← take
      let key ← blockPart scope next.stop fuel
      let mark ← peek
      let value ←
        if mark.symbol = .value then do
          let _ ← take
          blockPart scope mark.stop fuel
        else missing mark.start
      blockEntries scope start ((key, value) :: done) fuel
    | .blockEnd => do
      let _ ← take
      return done.reverse
    | s => refuse (some .blockMapping) (some start) (.blockEndExpected s.label) next.start

/-- The key or the value of an entry of a block mapping after its mark, which may be missing. -/
def blockPart (scope : Scope) (after : Mark) : Nat → Composing Nat
  | 0 => tooDeep
  | fuel + 1 => do
    let next ← peek
    match next.symbol with
    | .key | .value | .blockEnd => missing after
    | _ => node scope .entry fuel

/-- The items of a flow sequence; `done` holds those before, newest first. An item may be a single
entry of a mapping. -/
def flowItems (scope : Scope) (start : Mark) (done : List Nat) : Nat → Composing (List Nat)
  | 0 => tooDeep
  | fuel + 1 => do
    if !done.isEmpty then separator .flowSequenceEnd .flowSequence start
    let next ← peek
    match next.symbol with
    | .flowSequenceEnd => do
      let _ ← take
      return done.reverse
    | .key => do
      let _ ← take
      let inner := { scope with room := scope.room - 1 }
      let key ← flowPart inner .flowSequenceEnd next.stop true fuel
      let value ← flowValue inner .flowSequenceEnd fuel
      let single ← addNode ⟨.mapping, .mapping [(key, value)], next.start⟩
      flowItems scope start (single :: done) fuel
    | _ => do
      let item ← node scope .flow fuel
      flowItems scope start (item :: done) fuel

/-- The entries of a flow mapping; `done` holds those before, newest first. -/
def flowEntries (scope : Scope) (start : Mark) (done : List (Nat × Nat)) :
    Nat → Composing (List (Nat × Nat))
  | 0 => tooDeep
  | fuel + 1 => do
    if !done.isEmpty then separator .flowMappingEnd .flowMapping start
    let next ← peek
    match next.symbol with
    | .flowMappingEnd => do
      let _ ← take
      return done.reverse
    | .key => do
      let _ ← take
      let key ← flowPart scope .flowMappingEnd next.stop true fuel
      let value ← flowValue scope .flowMappingEnd fuel
      flowEntries scope start ((key, value) :: done) fuel
    | _ => do
      let key ← node scope .flow fuel
      let after ← peek
      let value ← missing after.start
      flowEntries scope start ((key, value) :: done) fuel

/-- The key or the value of an entry of a flow collection after its mark, which may be missing. -/
def flowPart (scope : Scope) (closing : Symbol) (after : Mark) (isKey : Bool) :
    Nat → Composing Nat
  | 0 => tooDeep
  | fuel + 1 => do
    let next ← peek
    if next.symbol = .flowEntry || next.symbol = closing || (isKey && next.symbol = .value) then
      missing after
    else node scope .flow fuel

/-- The value of an entry of a flow collection, which may be missing with its mark. -/
def flowValue (scope : Scope) (closing : Symbol) : Nat → Composing Nat
  | 0 => tooDeep
  | fuel + 1 => do
    let next ← peek
    if next.symbol = .value then do
      let _ ← take
      flowPart scope closing next.stop false fuel
    else missing next.start

end

end Cyclomatic.Yaml
