import Cyclomatic.Number.Binary64
import Cyclomatic.Text.Quoted

/-!
# Numbers in text

The integer or the double that a text spells. There may be blanks around it and a sign before it, and
digits may be those of any script. Integers can be read in bases other than ten, with or without the
mark of the base, and single underscores may stand between their digits.
-/

namespace Cyclomatic.Literal

open Text

/-! ## Blanks and digits -/

/-- The blanks that may stand around a number: all but the four information separators. -/
def isMargin (c : Char) : Bool :=
  isBlank c && !decide (0x1C ≤ c.toNat ∧ c.toNat ≤ 0x1F)

/-- A text without the blanks around it. -/
def withoutMargins (cs : List Char) : List Char :=
  ((cs.dropWhile isMargin).reverse.dropWhile isMargin).reverse

/-- The value of a decimal digit of any script. Digits come in runs of ten, each from zero to nine. -/
def decimalDigit? (c : Char) : Option Nat :=
  if '0' ≤ c ∧ c ≤ '9' then some (c.toNat - '0'.toNat)
  else (digitRanges.ranges.find? fun r => decide (r.1 ≤ c.toNat ∧ c.toNat ≤ r.2)).map
    fun r => (c.toNat - r.1) % 10

/-- The value of a digit; beyond nine digits are letters. -/
def digit? (base : Nat) (c : Char) : Option Nat :=
  let value :=
    if 'a' ≤ c ∧ c ≤ 'z' then some (c.toNat - 'a'.toNat + 10)
    else if 'A' ≤ c ∧ c ≤ 'Z' then some (c.toNat - 'A'.toNat + 10)
    else decimalDigit? c
  value.filter (· < base)

/-- Takes a sign from the front. -/
def splitSign : List Char → Bool × List Char
  | '-' :: cs => (true, cs)
  | '+' :: cs => (false, cs)
  | cs => (false, cs)

/-! ## Integers -/

/-- Why a text is no integer. -/
inductive IntegerError where
  | malformed (base : Nat) (text : String)
  | tooLong (digits : Nat)
deriving DecidableEq, Repr

/-- The greatest number of decimal digits that are read. -/
def maxDigits : Nat := 4300

/-- The wording of an error. Only the beginning of a long text is shown. -/
def IntegerError.message : IntegerError → String
  | malformed base text =>
    "invalid literal for int() with base " ++ toString base ++ ": " ++
      String.ofList ((quoted text).toList.take 200)
  | tooLong digits =>
    "Exceeds the limit (" ++ toString maxDigits ++
      " digits) for integer string conversion: value has " ++ toString digits ++
      " digits; use sys.set_int_max_str_digits() to increase the limit"

/-- The mark of a base. -/
def baseMark? : Nat → Option Char
  | 2 => some 'b'
  | 8 => some 'o'
  | 16 => some 'x'
  | _ => none

/-- Drops the mark of the base, and one underscore after it. -/
def withoutMark (base : Nat) : List Char → List Char
  | '0' :: m :: cs =>
    if baseMark? base = some m.toLower then
      match cs with
      | '_' :: cs => cs
      | cs => cs
    else '0' :: m :: cs
  | cs => cs

/-- The digits at the front, with single underscores between them, and the rest. -/
def leadingDigits (base : Nat) : List Char → List Nat × List Char
  | [] => ([], [])
  | '_' :: c :: cs =>
    match digit? base c with
    | some d =>
      let (ds, rest) := leadingDigits base cs
      (d :: ds, rest)
    | none => ([], '_' :: c :: cs)
  | c :: cs =>
    match digit? base c with
    | some d =>
      let (ds, rest) := leadingDigits base cs
      (d :: ds, rest)
    | none => ([], c :: cs)

/-- The number that digits spell. -/
def digitsValue (base : Nat) (ds : List Nat) : Nat :=
  ds.foldl (fun n d => base * n + d) 0

/-- Whether a base is a power of two, in which numbers of any length are read. -/
def isBinaryBase (base : Nat) : Bool :=
  base == 2 || base == 8 || base == 16

/-- The integer that a text spells in a base. -/
def integer (base : Nat) (text : String) : Except IntegerError Int :=
  let (negative, body) := splitSign (withoutMargins text.toList)
  let body := withoutMark base body
  let (ds, rest) := leadingDigits base body
  if body.head? = some '_' ∨ ds.isEmpty then .error (.malformed base text)
  else if !isBinaryBase base ∧ maxDigits < ds.length then .error (.tooLong ds.length)
  else if !rest.isEmpty then .error (.malformed base text)
  else
    let n : Int := digitsValue base ds
    .ok (if negative then -n else n)

/-! ## Doubles -/

/-- The digits at the front and the rest. -/
def plainDigits (cs : List Char) : List Nat × List Char :=
  (cs.takeWhile (decimalDigit? · |>.isSome) |>.filterMap decimalDigit?,
   cs.dropWhile (decimalDigit? · |>.isSome))

/-- The exponent that makes up a whole text; an empty text is the exponent zero. -/
def exponent? : List Char → Option Int
  | [] => some 0
  | e :: cs =>
    if e = 'e' ∨ e = 'E' then
      let (negative, body) := splitSign cs
      match plainDigits body with
      | ([], _) => none
      | (ds, []) =>
        let n : Int := digitsValue 10 ds
        some (if negative then -n else n)
      | _ => none
    else none

/-- The double that a text without its sign spells: a word, or digits with a point and an exponent. -/
def unsigned? (negative : Bool) (cs : List Char) : Option Float :=
  let word := String.ofList (cs.map Char.toLower)
  if word = "inf" ∨ word = "infinity" then
    some (Float.ofBits (if negative then 0xFFF0000000000000 else 0x7FF0000000000000))
  else if word = "nan" then some (Float.ofBits 0x7FF8000000000000)
  else
    let (whole, rest) := plainDigits cs
    let (fraction, rest) :=
      match rest with
      | '.' :: rest => plainDigits rest
      | rest => ([], rest)
    if whole.isEmpty && fraction.isEmpty then none
    else
      (exponent? rest).map fun e =>
        Binary64.ofDecimal negative (digitsValue 10 (whole ++ fraction)) (e - fraction.length)

/-- The double that a text spells. -/
def double? (text : String) : Option Float :=
  let (negative, body) := splitSign (withoutMargins text.toList)
  unsigned? negative body

end Cyclomatic.Literal
