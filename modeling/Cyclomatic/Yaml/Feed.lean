import Cyclomatic.Yaml.Plain
import Cyclomatic.Yaml.Symbol

/-!
# The feed of symbols

The symbols of a text, one after the other, as far as they are asked for. A key without a mark of its
own is only known to be one when its colon has been found, so symbols are held back as long as one of
them may turn out to be a key. Indentation opens and closes blocks outside flow collections.
-/

namespace Cyclomatic.Yaml

/-- A place where a key may have begun. Where a block mapping goes on, a key is required. -/
structure PossibleKey where
  /-- The number of the symbol that the key begins with. -/
  number : Nat
  required : Bool
  mark : Mark

/-- The symbols of a text as far as they have been read. -/
structure Feed where
  cursor : Cursor
  /-- As many steps as the text can take. -/
  steps : Nat
  /-- How many flow collections are open; less than none if too many have been closed. -/
  flow : Int := 0
  /-- The column of the innermost block. -/
  indent : Int := -1
  /-- The columns of the blocks around it. -/
  indents : List Int := []
  /-- Whether a key may begin here. -/
  keyAllowed : Bool := true
  /-- The possible keys, by the number of open flow collections. -/
  keys : List (Int × PossibleKey) := []
  /-- The symbols that are held back. -/
  queue : List Placed := []
  /-- How many symbols have been given out. -/
  taken : Nat := 0
  /-- Whether the end of the text has been reached. -/
  done : Bool := false

namespace Feed

/-- The feed of a text. -/
def ofText (cs : List Char) : Feed :=
  { cursor := ⟨cs, {}⟩, steps := cs.length + 1 }

/-- The place that has been reached. -/
def mark (f : Feed) : Mark :=
  f.cursor.mark

/-- The column that has been reached. -/
def column (f : Feed) : Int :=
  f.mark.column

/-- Whether a flow collection is open. -/
def inFlow (f : Feed) : Bool :=
  f.flow != 0

/-- Adds a symbol. -/
def push (f : Feed) (p : Placed) : Feed :=
  { f with queue := f.queue ++ [p] }

/-- Adds a symbol of some characters. -/
def pushChars (f : Feed) (s : Symbol) (length : Nat) : Feed :=
  let after := f.cursor.skip length
  { f.push ⟨s, f.mark, after.mark⟩ with cursor := after }

/-! ## Possible keys -/

/-- How long a key may be that has no mark of its own. -/
def maxKeyLength : Nat := 1024

/-- A key that was required has no colon. -/
def colonMissing {α : Type} (f : Feed) (k : PossibleKey) : Except Failure α :=
  complain (some .simpleKey) (some k.mark) .colonMissing f.mark

/-- Whether a possible key can be one no more: it must be on one line, and not too long. -/
def isStale (f : Feed) (k : PossibleKey) : Bool :=
  k.mark.line != f.mark.line || decide (maxKeyLength < f.mark.index - k.mark.index)

/-- Gives up the possible keys that can be none. -/
def dropStale (f : Feed) : Except Failure Feed :=
  match f.keys.find? fun k => f.isStale k.2 && k.2.required with
  | some (_, k) => f.colonMissing k
  | none => .ok { f with keys := f.keys.filter fun k => !f.isStale k.2 }

/-- Gives up the possible key at this level of nesting. -/
def dropKey (f : Feed) : Except Failure Feed :=
  match f.keys.lookup f.flow with
  | none => .ok f
  | some k =>
    if k.required then f.colonMissing k
    else .ok { f with keys := f.keys.filter (·.1 != f.flow) }

/-- Notes that a key may begin with the next symbol. -/
def saveKey (f : Feed) : Except Failure Feed :=
  if f.keyAllowed then do
    let required := !f.inFlow && f.indent == f.column
    let f ← f.dropKey
    return { f with keys := (f.flow, ⟨f.taken + f.queue.length, required, f.mark⟩) :: f.keys }
  else .ok f

/-! ## Indentation -/

/-- Closes the blocks that are indented by more than the given column, of which there are at most as
many as are open. -/
def unwindTo (column : Int) : List Int → Feed → Feed
  | [], f => f
  | outer :: rest, f =>
    if column < f.indent then
      unwindTo column rest { f.push (Symbol.blockEnd.mark f.mark) with indent := outer, indents := rest }
    else f

/-- Closes the blocks that are indented by more than the given column. -/
def unwind (f : Feed) (column : Int) : Feed :=
  if f.inFlow then f else unwindTo column f.indents f

/-- Opens a block in the given column, if that is further in. The flag tells whether it is. -/
def indentTo (f : Feed) (column : Int) : Bool × Feed :=
  if f.indent < column then (true, { f with indents := f.indent :: f.indents, indent := column })
  else (false, f)

/-- Opens a block at the place that has been reached, if that is further in. -/
def openBlock (f : Feed) (s : Symbol) : Feed :=
  match f.indentTo f.column with
  | (true, f) => f.push (s.mark f.mark)
  | (false, f) => f

/-! ## Symbols -/

/-- Takes the end of the text. -/
def takeEnd (f : Feed) : Except Failure Feed := do
  let f ← (f.unwind (-1)).dropKey
  let f := { f with keyAllowed := false, keys := [] }
  return { f.push (Symbol.streamEnd.mark f.mark) with done := true }

/-- Takes a directive. -/
def takeDirective (f : Feed) : Except Failure Feed := do
  let f ← (f.unwind (-1)).dropKey
  let (d, stop, after) ← directive f.steps f.cursor
  return { f.push ⟨.directive d, f.mark, stop⟩ with cursor := after, keyAllowed := false }

/-- Takes a separator of documents. -/
def takeSeparator (f : Feed) (s : Symbol) : Except Failure Feed := do
  let f ← (f.unwind (-1)).dropKey
  return { f.pushChars s 3 with keyAllowed := false }

/-- Takes the opening mark of a flow collection. -/
def takeOpening (f : Feed) (s : Symbol) : Except Failure Feed := do
  let f ← f.saveKey
  return { f.pushChars s 1 with flow := f.flow + 1, keyAllowed := true }

/-- Takes the closing mark of a flow collection. -/
def takeClosing (f : Feed) (s : Symbol) : Except Failure Feed := do
  let f ← f.dropKey
  return { f.pushChars s 1 with flow := f.flow - 1, keyAllowed := false }

/-- Takes a comma. -/
def takeFlowEntry (f : Feed) : Except Failure Feed := do
  let f ← f.dropKey
  return { f.pushChars .flowEntry 1 with keyAllowed := true }

/-- Takes the mark of an item. -/
def takeBlockEntry (f : Feed) : Except Failure Feed := do
  if !f.inFlow && !f.keyAllowed then complain none none .entryNotAllowed f.mark
  else
    let f := if f.inFlow then f else f.openBlock .blockSequenceStart
    let f ← f.dropKey
    return { f.pushChars .blockEntry 1 with keyAllowed := true }

/-- Takes the mark of a key. -/
def takeKey (f : Feed) : Except Failure Feed := do
  if !f.inFlow && !f.keyAllowed then complain none none .keyNotAllowed f.mark
  else
    let f := if f.inFlow then f else f.openBlock .blockMappingStart
    let f ← f.dropKey
    return { f.pushChars .key 1 with keyAllowed := !f.inFlow }

/-- Puts symbols before the one with the given number. -/
def putBefore (f : Feed) (number : Nat) (symbols : List Placed) : Feed :=
  let position := number - f.taken
  { f with queue := f.queue.take position ++ symbols ++ f.queue.drop position }

/-- Takes the mark of a value. What may have been a key before it is one. -/
def takeValue (f : Feed) : Except Failure Feed :=
  match f.keys.lookup f.flow with
  | some k =>
    let f := { f with keys := f.keys.filter (·.1 != f.flow), keyAllowed := false }
    let (opened, f) := if f.inFlow then (false, f) else f.indentTo k.mark.column
    let f := f.putBefore k.number
      ((if opened then [Symbol.blockMappingStart.mark k.mark] else []) ++ [Symbol.key.mark k.mark])
    .ok (f.pushChars .value 1)
  | none =>
    if !f.inFlow && !f.keyAllowed then complain none none .valueNotAllowed f.mark
    else do
      let f := if f.inFlow then f else f.openBlock .blockMappingStart
      let f ← f.dropKey
      return { f.pushChars .value 1 with keyAllowed := !f.inFlow }

/-- Takes a symbol with which a key may begin, given how it is read. -/
def takeContent (f : Feed) (read : Cursor → Except Failure (Symbol × Cursor)) :
    Except Failure Feed := do
  let f ← f.saveKey
  let (s, after) ← read f.cursor
  return { f.push ⟨s, f.mark, after.mark⟩ with cursor := after, keyAllowed := false }

/-- Takes a block scalar. -/
def takeBlockScalar (f : Feed) : Except Failure Feed := do
  let f ← f.dropKey
  let (text, stop, after) ← blockScalar f.indent f.steps f.cursor
  return { f.push ⟨.scalar text false, f.mark, stop⟩ with cursor := after, keyAllowed := true }

/-- Takes a plain scalar. After a line break a key may begin. -/
def takePlain (f : Feed) : Except Failure Feed := do
  let f ← f.saveKey
  let p := plainScalar f.inFlow (f.indent + 1) f.steps f.cursor
  return { f.push ⟨.scalar p.text true, f.mark, p.stop⟩ with
    cursor := p.after, keyAllowed := p.broken }

/-- Takes the symbol that a character begins. -/
def takeSymbol (f : Feed) : Except Failure Feed :=
  let c := f.cursor
  let ch := c.peek
  let gapNext := isGap (c.ahead 1)
  let atStart := c.mark.column == 0
  if c.rest.isEmpty then f.takeEnd
  else if ch == '%' && atStart then f.takeDirective
  else if atStart && c.atTriple '-' then f.takeSeparator .documentStart
  else if atStart && c.atTriple '.' then f.takeSeparator .documentEnd
  else if ch = '[' then f.takeOpening .flowSequenceStart
  else if ch = '\x7b' then f.takeOpening .flowMappingStart
  else if ch = ']' then f.takeClosing .flowSequenceEnd
  else if ch = '\x7d' then f.takeClosing .flowMappingEnd
  else if ch = ',' then f.takeFlowEntry
  else if ch == '-' && gapNext then f.takeBlockEntry
  else if ch == '?' && (f.inFlow || gapNext) then f.takeKey
  else if ch == ':' && (f.inFlow || gapNext) then f.takeValue
  else if ch = '*' then f.takeContent fun c => do
    let (name, after) ← anchorName c
    return (.reference name, after)
  else if ch = '&' then f.takeContent fun c => do
    let (name, after) ← anchorName c
    return (.anchor name, after)
  else if ch = '!' then f.takeContent fun c => do
    let (t, after) ← tagText f.steps c
    return (.tag t, after)
  else if (ch == '|' || ch == '>') && !f.inFlow then f.takeBlockScalar
  else if ch = '\'' ∨ ch = '"' then f.takeContent fun c => do
    let (text, after) ← quotedScalar f.steps c
    return (.scalar text false, after)
  else if startsPlain f.inFlow c then f.takePlain
  else complain (some .nextToken) none (.cannotStart ch) f.mark

/-- Goes to the next thing and takes it. Outside flow collections a key may begin on a new line. A
byte order mark at the start of the text is passed over. -/
def takeNext (f : Feed) : Except Failure Feed := do
  let start := if f.mark.index = 0 ∧ f.cursor.peek = '\uFEFF' then f.cursor.next else f.cursor
  let (broken, c) := Cursor.toNextThing f.steps false start
  let f := { f with cursor := c, keyAllowed := f.keyAllowed || (broken && !f.inFlow) }
  let f ← f.dropStale
  (f.unwind f.column).takeSymbol

/-- Reads on until the first symbol that is held back is known. -/
def fill : Nat → Feed → Except Failure Feed
  | 0, f => .ok f
  | fuel + 1, f =>
    if f.done then .ok f
    else if f.queue.isEmpty then do fill fuel (← f.takeNext)
    else do
      let f ← f.dropStale
      if f.keys.any (·.2.number == f.taken) then fill fuel (← f.takeNext) else .ok f

end Feed

/-! ## Reading from the feed -/

/-- A step that takes symbols from the feed. -/
abbrev Reading := StateT Feed (Except Failure)

/-- The next symbol, which stays in the feed. -/
def peek : Reading Placed := fun f => do
  let f ← f.fill (f.steps + 1)
  return (f.queue.headD (Symbol.streamEnd.mark f.mark), f)

/-- The next symbol, which is taken from the feed. -/
def take : Reading Placed := fun f => do
  let (p, f) ← peek f
  return (p, { f with queue := f.queue.tail, taken := f.taken + 1 })

/-- Fails with a problem. -/
def refuse {α : Type} (activity : Option Activity) (began : Option Mark) (complaint : Complaint)
    (place : Mark) : Reading α :=
  fun _ => complain activity began complaint place

end Cyclomatic.Yaml
