import Cyclomatic.Yaml.Quotation

/-!
# Plain scalars

A scalar without quotes ends at a comment, at a colon that makes it a key, at a mark of a flow
collection inside one, and where the indentation ends. It may go on over several lines, which are
folded.
-/

namespace Cyclomatic.Yaml

/-- Whether a character opens, closes or separates inside flow collections. -/
def isFlowMark (c : Char) : Bool :=
  c == ',' || c == '[' || c == ']' || c == '\x7b' || c == '\x7d'

/-- Whether a colon with this character after it ends a key. -/
def endsKey (inFlow : Bool) (next : Char) : Bool :=
  isGap next || (inFlow && isFlowMark next)

/-- The word of a plain scalar at the front of a text. -/
def plainWord (inFlow : Bool) : List Char → List Char
  | [] => []
  | c :: cs =>
    if isGap c || (c == ':' && endsKey inFlow (cs.headD endMark)) ||
        (inFlow && (isFlowMark c || c == '?')) then []
    else c :: plainWord inFlow cs

/-- Takes further line breaks with the blanks around them. At a separator of documents the scalar
ends, and there is no result. -/
def plainBreaks : Nat → String → Cursor → Option String × Cursor
  | 0, done, c => (some done, c)
  | fuel + 1, done, c =>
    let c := c.skipBlanks
    match c.takeBreak with
    | none => (some done, c)
    | some (b, c) => if c.atSeparator then (none, c) else plainBreaks fuel (done.push b) c

/-- What stands between two words of a plain scalar; empty if the scalar ends. The flag tells whether
a line was broken. -/
structure PlainGap where
  text : String
  broken : Bool
  after : Cursor

/-- Takes the blanks after a word, or the line breaks there. -/
def plainGap (fuel : Nat) (c : Cursor) : PlainGap :=
  let blanks := c.run (· == ' ')
  let c := c.skip blanks.length
  match c.takeBreak with
  | none => ⟨String.ofList blanks, false, c⟩
  | some (first, c) =>
    if c.atSeparator then ⟨"", true, c⟩
    else
      match plainBreaks fuel "" c with
      | (some more, c) => ⟨folded first more, true, c⟩
      | (none, c) => ⟨"", true, c⟩

/-- A plain scalar: its text, where its last word ends, and whether the line was broken after that. -/
structure PlainScalar where
  text : String
  stop : Mark
  broken : Bool
  after : Cursor

/-- The rest of a plain scalar that is indented by at least so much, after what has been read and the
gap behind that. Each step spends fuel and takes a word. -/
def plainRest (inFlow : Bool) (least : Int) : Nat → PlainScalar → String → PlainScalar
  | 0, done, _ => done
  | fuel + 1, done, gap =>
    let c := done.after
    let word := if c.peek = '#' then [] else plainWord inFlow c.rest
    if word.isEmpty then done
    else
      let c := c.skip word.length
      let next := plainGap fuel c
      let read : PlainScalar :=
        ⟨done.text ++ gap ++ String.ofList word, c.mark, next.broken, next.after⟩
      let ends := next.text.isEmpty || next.after.peek == '#' ||
        (!inFlow && decide ((next.after.mark.column : Int) < least))
      if ends then read else plainRest inFlow least fuel read next.text

/-- A plain scalar that is indented by at least so much. -/
def plainScalar (inFlow : Bool) (least : Int) (fuel : Nat) (c : Cursor) : PlainScalar :=
  plainRest inFlow least fuel ⟨"", c.mark, false, c⟩ ""

/-- Whether a plain scalar can begin here. -/
def startsPlain (inFlow : Bool) (c : Cursor) : Bool :=
  let ch := c.peek
  !(isGap ch || "-?:,[]\x7b\x7d#&*!|>'\"%@\x60".contains ch) ||
    (!isGap (c.ahead 1) && (ch == '-' || (!inFlow && (ch == '?' || ch == ':'))))

end Cyclomatic.Yaml
