import Cyclomatic.Text.LetterTable
import Cyclomatic.Text.NumeralTable
import Cyclomatic.Text.PrintableTable

/-!
# Character classes

The classes that tokens and quoted text are made of: blanks, digits, letters, word characters and
printable characters. The first 128 code points are spelled out; the others come from tables.
-/

namespace Cyclomatic.Text

/-! ## Blanks -/

/-- The blanks from U+0080 on. -/
def blankRanges : Ranges :=
  ⟨[(0x85, 0x85), (0xA0, 0xA0), (0x1680, 0x1680), (0x2000, 0x200A), (0x2028, 0x2029),
    (0x202F, 0x202F), (0x205F, 0x205F), (0x3000, 0x3000)]⟩

/-- Horizontal and vertical space: tab to carriage return, the four information separators, the
space, and the wide, thin and non-breaking spaces of other scripts. -/
def isBlank (c : Char) : Bool :=
  if isBasic c then
    (0x09 ≤ c.toNat && c.toNat ≤ 0x0D) || (0x1C ≤ c.toNat && c.toNat ≤ 0x20)
  else
    blankRanges.contains c.toNat

/-! ## Digits, letters and words -/

/-- A decimal digit of any script. -/
def isDigit (c : Char) : Bool :=
  if isBasic c then '0' ≤ c && c ≤ '9' else digitRanges.contains c.toNat

/-- A letter of any script. -/
def isLetter (c : Char) : Bool :=
  if isBasic c then ('A' ≤ c && c ≤ 'Z') || ('a' ≤ c && c ≤ 'z') else letterRanges.contains c.toNat

/-- A character that stands for a number and is no letter. -/
def isNumeral (c : Char) : Bool :=
  if isBasic c then '0' ≤ c && c ≤ '9' else numeralRanges.contains c.toNat

/-- A character that a word may hold: a letter, a numeral or the underscore. -/
def isWord (c : Char) : Bool :=
  isLetter c || isNumeral c || c == '_'

/-- A text that begins like a name: with a letter or one of the given extra characters. -/
def startsName (extra : List Char) (text : String) : Bool :=
  match text.toList with
  | [] => false
  | c :: _ => isLetter c || extra.contains c

/-! ## Printable characters -/

/-- A character that quoted text shows as it is. -/
def isPrintable (c : Char) : Bool :=
  if isBasic c then 0x20 ≤ c.toNat && c.toNat ≤ 0x7E else printableRanges.contains c.toNat

/-! ## Trimming -/

/-- The text without the blanks at its two ends. -/
def trimmed (cs : List Char) : List Char :=
  ((cs.dropWhile isBlank).reverse.dropWhile isBlank).reverse

end Cyclomatic.Text
