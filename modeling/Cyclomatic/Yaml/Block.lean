import Cyclomatic.Yaml.Cursor

/-!
# Block scalars

A scalar that is a block of indented lines. A literal block keeps its line breaks; a folded one joins
lines that begin with no blank. The header says what becomes of the line breaks at the end, and may
give the indentation.
-/

namespace Cyclomatic.Yaml

/-- What becomes of the line breaks at the end of a block. -/
inductive Chomping where
  | strip
  | clip
  | keep
deriving DecidableEq, Repr

/-! ## Headers -/

/-- Takes a mark for the end of a block. -/
def chompingMark? (c : Cursor) : Option (Chomping × Cursor) :=
  if c.peek = '+' then some (.keep, c.next)
  else if c.peek = '-' then some (.strip, c.next)
  else none

/-- Takes a digit for the indentation, which must not be zero. -/
def indentationMark? (start : Mark) (c : Cursor) : Except Failure (Option Nat × Cursor) :=
  let ch := c.peek
  if ch = '0' then complain (some .blockScalar) (some start) .zeroIndentation c.mark
  else if ch.isDigit then .ok (some (ch.toNat - '0'.toNat), c.next)
  else .ok (none, c)

/-- Takes the two marks of a header in either order. -/
def blockMarks (start : Mark) (c : Cursor) :
    Except Failure (Chomping × Option Nat × Cursor) := do
  let (chomping, increment, c) ←
    match chompingMark? c with
    | some (chomping, c) => do
      let (increment, c) ← indentationMark? start c
      pure (chomping, increment, c)
    | none => do
      let (increment, c) ← indentationMark? start c
      match increment, chompingMark? c with
      | some _, some (chomping, c) => pure (chomping, increment, c)
      | _, _ => pure (Chomping.clip, increment, c)
  if isStop c.peek then return (chomping, increment, c)
  complain (some .blockScalar) (some start) (.indicatorExpected c.peek) c.mark

/-- Goes past the rest of a line, on which there may only be a comment. -/
def ignoredLine (activity : Activity) (start : Mark) (c : Cursor) : Except Failure Cursor :=
  let c := c.skipBlanks.skipComment
  match c.takeBreak with
  | some (_, c) => .ok c
  | none =>
    if c.rest.isEmpty then .ok c
    else complain (some activity) (some start) (.lineEndExpected c.peek) c.mark

/-! ## Lines -/

/-- Empty lines: their breaks, where the last of them ends, and what follows. -/
structure EmptyLines where
  breaks : String
  stop : Mark
  after : Cursor

/-- Takes the empty lines before a block, and the greatest column that their blanks reach. -/
def leadingLines : Nat → Nat → EmptyLines → Nat × EmptyLines
  | 0, widest, done => (widest, done)
  | fuel + 1, widest, done =>
    let blanks := (done.after.run (· == ' ')).length
    let c := done.after.skip blanks
    let widest := if blanks = 0 then widest else max widest c.mark.column
    match c.takeBreak with
    | none => (widest, { done with after := c })
    | some (b, c) => leadingLines fuel widest ⟨done.breaks.push b, c.mark, c⟩

/-- Takes empty lines inside a block, and the indentation of the line after them. -/
def emptyLines (indent : Nat) : Nat → EmptyLines → EmptyLines
  | 0, done => done
  | fuel + 1, done =>
    let c := done.after
    let c := c.skip (min (indent - c.mark.column) (c.run (· == ' ')).length)
    match c.takeBreak with
    | none => { done with after := c }
    | some (b, c) => emptyLines indent fuel ⟨done.breaks.push b, c.mark, c⟩

/-- What has been read of a block: the text, the break after its last line, and the empty lines after
that. -/
structure BlockText where
  text : String
  lastBreak : String
  empty : EmptyLines

/-- Whether a line of a block begins here. -/
def atBlockLine (indent : Nat) (c : Cursor) : Bool :=
  c.mark.column == indent && !c.rest.isEmpty

/-- Takes the lines of a block. Each step spends fuel and takes a line. -/
def blockLines (isFolded : Bool) (indent : Nat) : Nat → BlockText → BlockText
  | 0, done => done
  | fuel + 1, done =>
    let c := done.empty.after
    if atBlockLine indent c then
      let startsBlank := c.peek == ' ' || c.peek == '\t'
      let line := c.run (!endsLine ·)
      let text := done.text ++ done.empty.breaks ++ String.ofList line
      let c := c.skip line.length
      let (lastBreak, c) :=
        match c.takeBreak with
        | some (b, c) => (b.toString, c)
        | none => ("", c)
      let empty := emptyLines indent fuel ⟨"", c.mark, c⟩
      let next := empty.after
      if atBlockLine indent next then
        let joins := isFolded && lastBreak == "\n" && !startsBlank &&
          !(next.peek == ' ' || next.peek == '\t')
        let between :=
          if joins then (if empty.breaks.isEmpty then " " else "") else lastBreak
        blockLines isFolded indent fuel ⟨text ++ between, lastBreak, empty⟩
      else ⟨text, lastBreak, empty⟩
    else done

/-- A block scalar under the given indentation: its text, where it ends, and what follows. The cursor
is at the mark that opens it. -/
def blockScalar (outer : Int) (fuel : Nat) (c : Cursor) :
    Except Failure (String × Mark × Cursor) := do
  let start := c.mark
  let (chomping, increment, after) ← blockMarks start c.next
  let after ← ignoredLine .blockScalar start after
  let least := max 1 (outer + 1).toNat
  let (indent, empty) :=
    match increment with
    | none =>
      let (widest, empty) := leadingLines fuel 0 ⟨"", after.mark, after⟩
      (max least widest, empty)
    | some n =>
      let indent := least + n - 1
      (indent, emptyLines indent fuel ⟨"", after.mark, after⟩)
  let block := blockLines (c.peek == '>') indent fuel ⟨"", "", empty⟩
  let tail :=
    match chomping with
    | .strip => ""
    | .clip => block.lastBreak
    | .keep => block.lastBreak ++ block.empty.breaks
  return (block.text ++ tail, block.empty.stop, block.empty.after)

end Cyclomatic.Yaml
