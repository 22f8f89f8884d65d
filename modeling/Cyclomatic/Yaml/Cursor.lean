import Cyclomatic.Yaml.Problem

/-!
# Walking through YAML text

A cursor is what is left of a text together with the place where that begins. Line ends have been
unified before, apart from those that are not ASCII.
-/

namespace Cyclomatic.Yaml

/-- What is left of a text, and where it begins. -/
structure Cursor where
  rest : List Char
  mark : Mark := {}

/-- The character that stands for the end of a text. -/
def endMark : Char := '\x00'

/-- Whether a character is a blank, a line break or the end of the text. -/
def isGap (c : Char) : Bool :=
  c == endMark || c == ' ' || c == '\t' || isBreak c

/-- Whether a character ends a line or the text. -/
def endsLine (c : Char) : Bool :=
  c == endMark || isBreak c

/-- Whether a character is a blank that is no tab, or ends the line. -/
def isStop (c : Char) : Bool :=
  c == ' ' || endsLine c

/-- Whether a character belongs to the name of an anchor, a handle or a directive. -/
def isNameChar (c : Char) : Bool :=
  c.isAlphanum || c == '-' || c == '_'

/-- Whether a character is a hexadecimal digit. -/
def isHexDigit (c : Char) : Bool :=
  c.isDigit || ('a' ≤ c && c ≤ 'f') || ('A' ≤ c && c ≤ 'F')

/-- The place after a character. A byte order mark takes no column. -/
def Mark.after (m : Mark) (c : Char) : Mark :=
  if isBreak c then ⟨m.index + 1, m.line + 1, 0⟩
  else ⟨m.index + 1, m.line, if c == '\uFEFF' then m.column else m.column + 1⟩

namespace Cursor

/-- The character some way ahead. -/
def ahead (c : Cursor) (n : Nat) : Char :=
  (c.rest.drop n).headD endMark

/-- The next character. -/
def peek (c : Cursor) : Char :=
  c.rest.headD endMark

/-- Goes past one character. -/
def next (c : Cursor) : Cursor :=
  match c.rest with
  | [] => c
  | ch :: rest => ⟨rest, c.mark.after ch⟩

/-- Goes past some characters. -/
def skip : Nat → Cursor → Cursor
  | 0, c => c
  | n + 1, c => skip n c.next

/-- The characters at the front that satisfy `p`. -/
def run (c : Cursor) (p : Char → Bool) : List Char :=
  c.rest.takeWhile p

/-- Goes past the characters that satisfy `p`. -/
def skipWhile (c : Cursor) (p : Char → Bool) : Cursor :=
  c.skip (c.run p).length

/-- Goes past blanks. -/
def skipBlanks (c : Cursor) : Cursor :=
  c.skipWhile (· == ' ')

/-- Goes past a comment, if there is one. -/
def skipComment (c : Cursor) : Cursor :=
  if c.peek = '#' then c.skipWhile (!endsLine ·) else c

/-- Takes a line break: what it stands for, and what follows. -/
def takeBreak (c : Cursor) : Option (Char × Cursor) :=
  let ch := c.peek
  if isBreak ch then some (if ch = '\u0085' then '\n' else ch, c.next) else none

/-- Whether the text goes on with three of a character and a gap, which separates documents. -/
def atTriple (c : Cursor) (ch : Char) : Bool :=
  [ch, ch, ch].isPrefixOf c.rest && isGap (c.ahead 3)

/-- Whether a separator of documents follows. -/
def atSeparator (c : Cursor) : Bool :=
  c.atTriple '-' || c.atTriple '.'

/-- Goes to the next thing that is neither blank nor comment nor line break. The flag tells whether
lines were broken on the way. Each step spends fuel and passes a line. -/
def toNextThing : Nat → Bool → Cursor → Bool × Cursor
  | 0, broken, c => (broken, c)
  | fuel + 1, broken, c =>
    let c := c.skipBlanks.skipComment
    match c.takeBreak with
    | none => (broken, c)
    | some (_, c) => toNextThing fuel true c

end Cursor

end Cyclomatic.Yaml
