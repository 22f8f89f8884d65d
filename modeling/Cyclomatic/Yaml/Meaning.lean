import Cyclomatic.Text.Base64
import Cyclomatic.Text.LowerCase
import Cyclomatic.Value
import Cyclomatic.Yaml.Document

/-!
# What nodes stand for

The value of a node by its tag. A scalar has its value at once, while a collection is begun where it is
first met and completed later, in the order in which collections are begun. So a collection may be
part of itself, and of several failures the one that is nested least shows.
-/

namespace Cyclomatic.Yaml

/-! ## Scalars -/

/-- The integer that a text is, in the base that its beginning tells, or in base sixty. Underscores
are dropped. -/
def integerMeaning (s : String) : Except Failure Int := do
  let whole (base : Nat) (ds : List Char) : Except Failure Int :=
    (Literal.integer base (String.ofList ds)).mapError .integer
  let cs := s.toList.filter (· != '_')
  let (negative, body) := Literal.splitSign cs
  let n ←
    match body with
    | [] => .error .emptyNumber
    | ['0'] => pure 0
    | '0' :: 'b' :: ds => whole 2 ds
    | '0' :: 'x' :: ds => whole 16 ds
    | '0' :: ds => whole 8 ('0' :: ds)
    | body => do
      let parts ← (body.splitOn ':').mapM (whole 10)
      pure (parts.foldl (fun n d => 60 * n + d) 0)
  return if negative then -n else n

/-- The double that a text is, with a word for infinity and for no number, or in base sixty.
Underscores are dropped. -/
def realMeaning (s : String) : Except Failure Float := do
  let part (ds : List Char) : Except Failure Float :=
    match Literal.double? (String.ofList ds) with
    | some x => .ok x
    | none => .error (.notReal (String.ofList ds))
  let cs := (Text.lower (String.ofList (s.toList.filter (· != '_')))).toList
  if cs.isEmpty then .error .emptyNumber
  else
    let (negative, body) := Literal.splitSign cs
    let x ←
      if body = ['.', 'i', 'n', 'f'] then pure (Float.ofBits 0x7FF0000000000000)
      else if body = ['.', 'n', 'a', 'n'] then return Float.ofBits 0x7FF8000000000000
      else if body.contains ':' then do
        let parts ← (body.splitOn ':').mapM part
        let step (sum : Number × Int) (x : Float) : Except ArithmeticError (Number × Int) := do
          let product ← (Number.real x).mul (.int sum.2)
          return (← sum.1.add product, 60 * sum.2)
        let sum ← ((parts.reverse.foldlM step (Number.real 0, 1)).mapError Failure.arithmetic)
        sum.1.toFloat.mapError .arithmetic
      else part body
    return if negative then -x else x

/-- The date or the moment that a text is. -/
def momentMeaning (s : String) : Except Failure Scalar := do
  let cs := s.toList
  let cs := if cs.getLast? = some '\n' then cs.dropLast else cs
  match stamp? cs with
  | none => .error .notMoment
  | some stamp =>
    let (year, month, day) := (decimal stamp.year, decimal stamp.month, decimal stamp.day)
    match stamp.time with
    | none => return .date (← (Date.make year month day).mapError .calendar)
    | some (hour, minute, second, fraction, offset) =>
      let micro := (fraction ++ List.replicate 6 '0').take 6
      return .moment (← (Moment.make year month day (decimal hour) (decimal minute) (decimal second)
        (decimal micro) offset).mapError .calendar)

/-- The truth value that a word is. -/
def boolMeaning (s : String) : Except Failure Bool :=
  let word := Text.lower s
  match boolWords.lookup word with
  | some b => .ok b
  | none => .error (.notBool word)

/-- The bytes that a text holds in base 64. -/
def bytesMeaning (mark : Mark) (s : String) : Except Failure (List UInt8) :=
  let cs := s.toList
  if cs.any fun c => 0x80 ≤ c.toNat then
    complain none none (.notAscii (Text.asciiError cs)) mark
  else
    match Text.base64Bytes {} [] cs with
    | .ok bs => .ok bs
    | .error e => complain none none (.notBase64 e.message) mark

/-- The text of a node that must be a scalar. A mapping may name the value that it stands for, and one
that names itself never comes to an end. -/
def scalarText (g : Graph) : Nat → Nat → Except Failure String
  | 0, _ => .error .depth
  | fuel + 1, n =>
    let node := g.node n
    match node.content with
    | .scalar s => .ok s
    | .sequence _ => complain none none (.nodeExpected "scalar" "sequence") node.mark
    | .mapping entries =>
      match entries.find? fun e => (g.node e.1).tag == .value with
      | some (_, v) => scalarText g fuel v
      | none => complain none none (.nodeExpected "scalar" "mapping") node.mark

/-- The date or the moment of a node, which must be a scalar itself. -/
def stampMeaning (content : Content) (s : String) : Except Failure Scalar :=
  match content with
  | .scalar _ => momentMeaning s
  | _ => .error .notStamp

/-- The value of a node with the tag of a scalar; none for other tags. -/
def scalarMeaning? (g : Graph) (n : Nat) : Option (Except Failure Scalar) :=
  let node := g.node n
  let s := scalarText g (g.size + 1) n
  match node.tag with
  | .null => some (s.map fun _ => .null)
  | .bool => some (do return .bool (← boolMeaning (← s)))
  | .int => some (do return .int (← integerMeaning (← s)))
  | .real => some (do return .real (← realMeaning (← s)))
  | .binary => some (do return .bytes (← bytesMeaning node.mark (← s)))
  | .timestamp => some (do stampMeaning node.content (← s))
  | .text => some (s.map .text)
  | _ => none

/-! ## Construction -/

/-- What has been made of the nodes of a document. -/
structure Construction where
  /-- The nodes, in which merging changes the entries of mappings. -/
  nodes : Graph
  /-- At most so many entries are left to merge. -/
  merges : Nat
  /-- What has been made of each node, if it was met. -/
  parts : Array (Option Part)
  /-- The collections, each at the number of its node, and pairs behind them. -/
  web : Web
  /-- The collections that were begun and are not complete, newest first. -/
  waiting : List Nat := []

/-- A step of a construction. -/
abbrev Constructing := StateT Construction (Except Failure)

/-- How many entries the mappings of a graph merge. -/
def mergeCount (g : Graph) : Nat :=
  g.foldl (fun count node =>
    match node.content with
    | .mapping entries => count + entries.countP fun e => (g.node e.1).tag == .merge
    | _ => count) 0

/-- A construction that has not begun. -/
def Construction.ofGraph (g : Graph) : Construction :=
  { nodes := g
    merges := mergeCount g
    parts := Array.replicate g.size none
    web := Array.replicate g.size (.list []) }

/-- The node with a number. -/
def nodeAt (n : Nat) : Constructing Node := do
  return (← get).nodes.node n

/-- Changes the node with a number. -/
def changeNode (n : Nat) (f : Node → Node) : Constructing Unit :=
  modify fun c => { c with nodes := c.nodes.modify n f }

/-- Fails if there is a failure. -/
def orFail {α : Type} (r : Except Failure α) : Constructing α :=
  fun c => r.map (·, c)

/-- Whether a tag is one of a collection. -/
def isCollectionTag : Tag → Bool
  | .sequence | .mapping | .set | .orderedMap | .pairs => true
  | _ => false

/-- The part that a node stands for. A collection that is met for the first time is begun. -/
def part (n : Nat) : Constructing Part := do
  let c ← get
  match c.parts[n]?.join with
  | some p => return p
  | none =>
    let node := c.nodes.node n
    match scalarMeaning? c.nodes n with
    | some r => do
      let p := Part.scalar (← orFail r)
      modify fun c => { c with parts := c.parts.setIfInBounds n (some p) }
      return p
    | none =>
      if isCollectionTag node.tag then
        let p := Part.link n
        modify fun c =>
          { c with parts := c.parts.setIfInBounds n (some p), waiting := n :: c.waiting }
        return p
      else orFail (complain none none (.tagUnknown node.tag.name) node.mark)

/-- Completes the collection of a node. -/
def fillIn (n : Nat) (content : Collection Part) : Constructing Unit :=
  modify fun c => { c with web := c.web.setIfInBounds n content }

/-! ## Merging -/

/-- The entries of a node, if it is a mapping. -/
def entriesAt (n : Nat) : Constructing (List (Nat × Nat)) := do
  match (← nodeAt n).content with
  | .mapping entries => return entries
  | _ => return []

/-- Takes the first entry that merges out of a mapping, and gives the node of its value. -/
def takeMerge? (n : Nat) : Constructing (Option Nat) := do
  let g := (← get).nodes
  let entries ← entriesAt n
  let own := entries.takeWhile fun e => (g.node e.1).tag != .merge
  match entries.drop own.length with
  | [] => return none
  | (_, v) :: rest => do
    changeNode n fun node => { node with content := .mapping (own ++ rest) }
    return some v

/-- A key that names the value of its mapping is a text where it is a key. -/
def settleKeys (n : Nat) : Constructing Unit := do
  for e in ← entriesAt n do
    changeNode e.1 fun node => if node.tag == .value then { node with tag := .text } else node

mutual

/-- Merges into a mapping what its entries ask for: the entries `before`, and those of the mappings
that are left to merge, come before its own. Each step but the last takes out an entry. -/
def merge (n : Nat) (before : List (Nat × Nat)) : Nat → Constructing Unit
  | 0 => return
  | fuel + 1 => do
    match ← takeMerge? n with
    | none => do
      settleKeys n
      unless before.isEmpty do
        let own ← entriesAt n
        changeNode n fun node => { node with content := .mapping (before ++ own) }
    | some v => do
      let more ← mergeable n v fuel
      merge n (before ++ more) fuel

/-- The entries that a node gives to a mapping that merges it: those of a mapping, or of the mappings
in a sequence, the last of which come first. -/
def mergeable (owner v : Nat) : Nat → Constructing (List (Nat × Nat))
  | 0 => return []
  | fuel + 1 => do
    let mark := (← nodeAt owner).mark
    let node ← nodeAt v
    match node.content with
    | .mapping _ => do
      merge v [] fuel
      entriesAt v
    | .sequence items => do
      let groups ← items.mapM fun item => do
        let node ← nodeAt item
        match node.content with
        | .mapping _ => do
          merge item [] fuel
          entriesAt item
        | content =>
          orFail (complain (some .mappingValue) (some mark) (.mappingToMerge content.kind) node.mark)
      return groups.reverse.flatten
    | content =>
      orFail (complain (some .mappingValue) (some mark) (.mergeable content.kind) node.mark)

end

/-! ## Collections -/

/-- An entry of a mapping with the node of its key. -/
structure KeyedPart where
  node : Nat
  key : Scalar
  part : Part

/-- Puts an entry to others, in the place of one with the same key. The key of one node is the same
also if it is no number, which equals nothing. -/
def putKeyed (done : List KeyedPart) (new : KeyedPart) : List KeyedPart :=
  let same (e : KeyedPart) : Bool := e.node == new.node || e.key.same new.key
  if done.any same then
    done.map fun e => if same e then { e with part := new.part } else e
  else done ++ [new]

/-- The entries of a mapping. Keys are scalars, and the last value of a key counts. -/
def mappingParts (n : Nat) : Constructing (List (Scalar × Part)) := do
  let node ← nodeAt n
  match node.content with
  | .mapping _ => do
    merge n [] (2 * (← get).merges + 2)
    let keyed ← (← entriesAt n).foldlM (fun done e => do
      match ← part e.1 with
      | .scalar key => return putKeyed done ⟨e.1, key, ← part e.2⟩
      | .link _ =>
        orFail (complain (some .mappingValue) (some node.mark) .unhashableKey
          (← nodeAt e.1).mark)) []
    return keyed.map fun e => (e.key, e.part)
  | content => orFail (complain none none (.nodeExpected "mapping" content.kind) node.mark)

/-- The items of a sequence. -/
def sequenceParts (n : Nat) : Constructing (List Part) := do
  let node ← nodeAt n
  match node.content with
  | .sequence items => items.mapM part
  | content => orFail (complain none none (.nodeExpected "sequence" content.kind) node.mark)

/-- The single entry of an item of an ordered mapping, as a pair with a place of its own. -/
def pairPart (activity : Activity) (outer : Mark) (item : Nat) : Constructing Part := do
  let node ← nodeAt item
  match node.content with
  | .mapping [(k, v)] => do
    let pair := Collection.pair (← part k) (← part v)
    let place := (← get).web.size
    modify fun c => { c with web := c.web.push pair }
    return .link place
  | .mapping es =>
    orFail (complain (some activity) (some outer) (.singlePairExpected es.length) node.mark)
  | content => orFail (complain (some activity) (some outer) (.pairExpected content.kind) node.mark)

/-- The pairs of an ordered mapping. -/
def pairParts (activity : Activity) (n : Nat) : Constructing (List Part) := do
  let node ← nodeAt n
  match node.content with
  | .sequence items => items.mapM (pairPart activity node.mark)
  | content =>
    orFail (complain (some activity) (some node.mark) (.sequenceExpected content.kind) node.mark)

/-- Completes the collection of a node by its tag. -/
def completeAt (n : Nat) : Constructing Unit := do
  match (← nodeAt n).tag with
  | .mapping => fillIn n (.dict (← mappingParts n))
  | .set => fillIn n (.set ((← mappingParts n).map (·.1)))
  | .orderedMap => fillIn n (.list (← pairParts .orderedMapValue n))
  | .pairs => fillIn n (.list (← pairParts .pairsValue n))
  | _ => fillIn n (.list (← sequenceParts n))

/-- Completes collections round by round, each round those that were begun in the one before. A node
is begun once, so there are no more rounds than nodes. -/
def completeAll : Nat → Constructing Unit
  | 0 => return
  | fuel + 1 => do
    match (← get).waiting.reverse with
    | [] => return
    | round => do
      modify fun c => { c with waiting := [] }
      round.forM completeAt
      completeAll fuel

/-! ## Values -/

/-- The values of the collections of a web as far as they are known: none where a collection has not
been met, and none inside where it is not complete. -/
abbrev Visits := Array (Option (Option Value))

/-- The value of a part, without links. A collection that is part of itself has no such value. -/
def visit (web : Web) : Nat → Part → StateT Visits Option Value
  | _, .scalar s => return .scalar s
  | 0, _ => failure
  | fuel + 1, .link place => do
    match (← get)[place]?.join with
    | some (some v) => return v
    | some none => failure
    | none => do
      modify (·.setIfInBounds place (some none))
      let v := Value.ofCollection (← (web.cell place).mapM (visit web fuel))
      modify (·.setIfInBounds place (some (some v)))
      return v

/-- The value of a part; links are kept only if a collection is part of itself. -/
def valueOf (web : Web) (p : Part) : Value :=
  match (visit web (web.size + 1) p).run (Array.replicate web.size none) with
  | some (v, _) => v
  | none => .ofPart web p

/-- The value of a document. -/
def Document.meaning (d : Document) : Except Failure Value := do
  let construct : Constructing Part := do
    let top ← part d.top
    completeAll (d.nodes.size + 1)
    return top
  let (top, c) ← construct.run (.ofGraph d.nodes)
  return valueOf c.web top

end Cyclomatic.Yaml
