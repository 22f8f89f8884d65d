import Cyclomatic.Yaml.Cursor

/-!
# Quoted scalars

A scalar between quotes may go on over several lines, which are folded: a line break counts as a
blank, further breaks count as themselves, and the blanks around breaks are dropped. Between single
quotes only the quote itself is written differently, as two quotes; between double quotes there are
escapes.
-/

namespace Cyclomatic.Yaml

/-! ## Lines -/

/-- Whether a character is a blank or a tab. -/
def isSpacing (c : Char) : Bool :=
  c == ' ' || c == '\t'

/-- What a line break, and those after it, become by folding. -/
def folded (first : Char) (more : String) : String :=
  (if first ≠ '\n' then first.toString else if more.isEmpty then " " else "") ++ more

/-- Takes further line breaks with the blanks around them. No line may begin with a separator of
documents. -/
def quotedBreaks (start : Mark) : Nat → String → Cursor → Except Failure (String × Cursor)
  | 0, done, c => .ok (done, c)
  | fuel + 1, done, c =>
    if c.atSeparator then complain (some .quoted) (some start) .documentSeparator c.mark
    else
      let c := c.skipWhile isSpacing
      match c.takeBreak with
      | none => .ok (done, c)
      | some (b, c) => quotedBreaks start fuel (done.push b) c

/-- Takes the blanks between two words of a quoted scalar, or the line breaks there. -/
def quotedGap (start : Mark) (fuel : Nat) (c : Cursor) : Except Failure (String × Cursor) :=
  let blanks := c.run isSpacing
  let c := c.skip blanks.length
  match c.takeBreak with
  | some (first, c) => do
    let (more, c) ← quotedBreaks start fuel "" c
    return (folded first more, c)
  | none =>
    if c.rest.isEmpty then complain (some .quoted) (some start) .endOfText c.mark
    else .ok (String.ofList blanks, c)

/-! ## Escapes -/

/-- The characters of escapes with one letter. -/
def escapes : List (Char × Char) :=
  [('0', '\x00'), ('a', '\x07'), ('b', '\x08'), ('t', '\t'), ('\t', '\t'), ('n', '\n'),
   ('v', '\x0b'), ('f', '\x0c'), ('r', '\r'), ('e', '\x1b'), (' ', ' '), ('"', '"'), ('/', '/'),
   ('\\', '\\'), ('N', '\u0085'), ('_', '\u00a0'), ('L', '\u2028'), ('P', '\u2029')]

/-- The number of hexadecimal digits of an escape; zero for a letter that begins none. -/
def escapeDigits : Char → Nat
  | 'x' => 2
  | 'u' => 4
  | 'U' => 8
  | _ => 0

/-- The number that hexadecimal digits spell. -/
def hexValue (ds : List Char) : Nat :=
  Literal.digitsValue 16 (ds.filterMap (Literal.digit? 16))

/-- Whether a number is the first half of a character beyond the basic plane. -/
def isHighHalf (n : Nat) : Bool :=
  0xD800 ≤ n && n < 0xDC00

/-- Whether a number is the second half of such a character. -/
def isLowHalf (n : Nat) : Bool :=
  0xDC00 ≤ n && n < 0xE000

/-- The second half of a character in the escape that follows, if there is one. -/
def lowHalf? (c : Cursor) : Option Nat :=
  match c.rest with
  | '\\' :: 'u' :: rest =>
    let ds := (rest.take 4).takeWhile isHexDigit
    if ds.length = 4 ∧ isLowHalf (hexValue ds) then some (hexValue ds) else none
  | _ => none

/-- The character of an escape by its number. A half without its other half is no character. -/
def codePoint (start : Mark) (digits : Nat) (c : Cursor) : Except Failure (Char × Cursor) :=
  let ds := (c.rest.take digits).takeWhile isHexDigit
  if ds.length < digits then
    complain (some .doubleQuoted) (some start) (.hexExpected digits (c.ahead ds.length)) c.mark
  else
    let n := hexValue ds
    let c := c.skip digits
    if 0x110000 ≤ n then .error (.codePoint n)
    else
      match lowHalf? c with
      | some low =>
        if isHighHalf n then
          .ok (Char.ofNat (0x10000 + (n - 0xD800) * 0x400 + (low - 0xDC00)), c.skip 6)
        else .ok (Char.ofNat n, c)
      | none => .ok (if isHighHalf n || isLowHalf n then '\uFFFD' else Char.ofNat n, c)

/-- What an escape stands for; the cursor is after the backslash. An escaped line break stands for
nothing. -/
def escape (start : Mark) (fuel : Nat) (c : Cursor) : Except Failure (String × Cursor) :=
  let ch := c.peek
  match escapes.lookup ch, escapeDigits ch with
  | some e, _ => .ok (e.toString, c.next)
  | none, 0 =>
    match c.takeBreak with
    | some (_, c) => quotedBreaks start fuel "" c
    | none => complain (some .doubleQuoted) (some start) (.unknownEscape ch) c.mark
  | none, digits => do
    let (e, c) ← codePoint start digits c.next
    return (e.toString, c)

/-! ## Scalars -/

/-- Whether a character stands for itself inside quotes of both kinds. -/
def isQuotedWord (c : Char) : Bool :=
  !(isGap c || c == '\'' || c == '"' || c == '\\')

/-- The rest of a quoted scalar, and what follows its closing quote. Each step spends fuel and takes a
word, a quote, an escape or a gap. -/
def quotedRest (double : Bool) (start : Mark) :
    Nat → String → Cursor → Except Failure (String × Cursor)
  | 0, done, c => .ok (done, c)
  | fuel + 1, done, c =>
    let word := c.run isQuotedWord
    let c := c.skip word.length
    let done := done ++ String.ofList word
    let ch := c.peek
    if !double && ch == '\'' && c.ahead 1 == '\'' then
      quotedRest double start fuel (done.push '\'') (c.skip 2)
    else if ch = (if double then '"' else '\'') then .ok (done, c.next)
    else if double && ch == '\\' then do
      let (s, c) ← escape start fuel c.next
      quotedRest double start fuel (done ++ s) c
    else if ch = '\'' ∨ ch = '"' ∨ ch = '\\' then quotedRest double start fuel (done.push ch) c.next
    else do
      let (s, c) ← quotedGap start fuel c
      quotedRest double start fuel (done ++ s) c

/-- A quoted scalar; the cursor is at its opening quote. -/
def quotedScalar (fuel : Nat) (c : Cursor) : Except Failure (String × Cursor) :=
  quotedRest (c.peek == '"') c.mark fuel "" c.next

end Cyclomatic.Yaml
