import Cyclomatic.Number.Literal
import Cyclomatic.Value

/-!
# Reading JSON

A reader of JSON text. Integers keep their size, up to a number of digits; a number with a point or
an exponent is a double. Besides JSON's own values the three doubles that are no numbers can be read.
Of two entries with one key the later counts. Nesting is read up to a depth.
-/

namespace Cyclomatic.Json

/-! ## Errors -/

/-- What a reader missed. -/
inductive Expectation where
  | value
  | propertyName
  | colon
  | comma
  | endOfText
  | closingQuote
  | controlCharacter
  | escape
  | unicodeEscape
  | noByteOrderMark
deriving DecidableEq, Repr

/-- The wording of what was missed. -/
def Expectation.message : Expectation → String
  | value => "Expecting value"
  | propertyName => "Expecting property name enclosed in double quotes"
  | colon => "Expecting ':' delimiter"
  | comma => "Expecting ',' delimiter"
  | endOfText => "Extra data"
  | closingQuote => "Unterminated string starting at"
  | controlCharacter => "Invalid control character at"
  | escape => "Invalid \\escape"
  | unicodeEscape => "Invalid \\uXXXX escape"
  | noByteOrderMark => "Unexpected UTF-8 BOM (decode using utf-8-sig)"

/-- Why reading failed. -/
inductive Failure where
  /-- Something was missed with so many characters left. -/
  | missing (missed : Expectation) (remaining : Nat)
  /-- An integer has too many digits. -/
  | digits (e : Literal.IntegerError)
  /-- Lists, or mappings, are nested too deeply. -/
  | depth (inList : Bool)
deriving DecidableEq, Repr

/-- What is wrong with a text. -/
inductive Error where
  /-- Something was missed at a place. -/
  | malformed (missed : Expectation) (line column offset : Nat)
  | digits (e : Literal.IntegerError)
  | depth (inList : Bool)
deriving DecidableEq, Repr

/-- The wording of an error. -/
def Error.message : Error → String
  | malformed missed line column offset =>
    missed.message ++ ": line " ++ toString line ++ " column " ++ toString column ++
      " (char " ++ toString offset ++ ")"
  | digits e => e.message
  | depth inList =>
    "maximum recursion depth exceeded while decoding a JSON " ++
      (if inList then "array" else "object") ++ " from a unicode string"

/-- Finds the place of a failure in its text. -/
def Failure.locate (text : List Char) : Failure → Error
  | missing missed remaining =>
    let offset := text.length - remaining
    let before := text.take offset
    .malformed missed (before.count '\n' + 1)
      ((before.reverse.takeWhile (· != '\n')).length + 1) offset
  | digits e => .digits e
  | depth inList => .depth inList

/-- Fails at the given rest. A reading step gives a result and the rest of the text. -/
def missing {α : Type} (missed : Expectation) (rest : List Char) : Except Failure (α × List Char) :=
  .error (.missing missed rest.length)

/-! ## Blanks and numbers -/

/-- The blanks between JSON's tokens. -/
def isSpace (c : Char) : Bool :=
  c == ' ' || c == '\t' || c == '\n' || c == '\r'

/-- Drops blanks. -/
def skip (cs : List Char) : List Char :=
  cs.dropWhile isSpace

/-- The number that ASCII digits spell. -/
def digitsValue (ds : List Char) : Nat :=
  ds.foldl (fun n c => 10 * n + (c.toNat - '0'.toNat)) 0

/-- An integer part: a zero, or digits that do not begin with one. -/
def wholePart? : List Char → Option (List Char × List Char)
  | '0' :: cs => some (['0'], cs)
  | cs =>
    match cs.takeWhile Char.isDigit with
    | [] => none
    | ds => some (ds, cs.dropWhile Char.isDigit)

/-- The digits after a point, or none. -/
def fractionPart : List Char → List Char × List Char
  | '.' :: cs =>
    match cs.takeWhile Char.isDigit with
    | [] => ([], '.' :: cs)
    | ds => (ds, cs.dropWhile Char.isDigit)
  | cs => ([], cs)

/-- The exponent, or nothing. -/
def exponentPart : List Char → Option Int × List Char
  | [] => (none, [])
  | e :: cs =>
    if e = 'e' ∨ e = 'E' then
      let (negative, ds) :=
        match cs with
        | '-' :: ds => (true, ds)
        | '+' :: ds => (false, ds)
        | ds => (false, ds)
      match ds.takeWhile Char.isDigit with
      | [] => (none, e :: cs)
      | digits =>
        let n : Int := digitsValue digits
        (some (if negative then -n else n), ds.dropWhile Char.isDigit)
    else (none, e :: cs)

/-- A number without its sign, if the text begins with one. -/
def unsignedNumber? (negative : Bool) (cs : List Char) :
    Except Failure (Option (Value × List Char)) :=
  match wholePart? cs with
  | none => .ok none
  | some (whole, rest) =>
    let (fraction, rest) := fractionPart rest
    let (exponent, rest) := exponentPart rest
    if fraction.isEmpty && exponent.isNone then
      if Literal.maxDigits < whole.length then .error (.digits (.tooLong whole.length))
      else
        let n : Int := digitsValue whole
        .ok (some (.int (if negative then -n else n), rest))
    else
      .ok (some (.real (Binary64.ofDecimal negative (digitsValue (whole ++ fraction))
        (exponent.getD 0 - fraction.length)), rest))

/-! ## Texts -/

/-- The number that four hexadecimal digits spell. -/
def hexQuad? : List Char → Option (Nat × List Char)
  | a :: b :: c :: d :: cs =>
    let value (c : Char) : Option Nat :=
      if c.isDigit then some (c.toNat - '0'.toNat)
      else if 'a' ≤ c ∧ c ≤ 'f' then some (c.toNat - 'a'.toNat + 10)
      else if 'A' ≤ c ∧ c ≤ 'F' then some (c.toNat - 'A'.toNat + 10)
      else none
    do return (((← value a) * 16 + (← value b)) * 256 + (← value c) * 16 + (← value d), cs)
  | _ => none

/-- The character of a simple escape. -/
def simpleEscape? : Char → Option Char
  | '"' => some '"'
  | '\\' => some '\\'
  | '/' => some '/'
  | 'b' => some '\x08'
  | 'f' => some '\x0c'
  | 'n' => some '\n'
  | 'r' => some '\r'
  | 't' => some '\t'
  | _ => none

/-- The character of a UTF-16 unit, joined with the unit after it where the two are a pair. -/
def unicodeEscape (unit : Nat) (rest : List Char) : Char × List Char :=
  if 0xD800 ≤ unit ∧ unit < 0xDC00 then
    match rest with
    | '\\' :: 'u' :: cs =>
      match hexQuad? cs with
      | some (low, cs) =>
        if 0xDC00 ≤ low ∧ low < 0xE000 then
          (Char.ofNat (0x10000 + (unit - 0xD800) * 0x400 + (low - 0xDC00)), cs)
        else ('\uFFFD', rest)
      | none => ('\uFFFD', rest)
    | _ => ('\uFFFD', rest)
  else if 0xDC00 ≤ unit ∧ unit < 0xE000 then ('\uFFFD', rest)
  else (Char.ofNat unit, rest)

/-- The rest of a text after its opening quote; `opened` is the number of characters left at that
quote, `done` what has been read, newest first. Each step spends one unit of fuel and reads at least
one character. -/
def readText (opened : Nat) : Nat → List Char → List Char → Except Failure (String × List Char)
  | 0, _, _ => .error (.missing .closingQuote opened)
  | _, _, [] => .error (.missing .closingQuote opened)
  | fuel + 1, done, c :: cs =>
    if c = '"' then .ok (String.ofList done.reverse, cs)
    else if c = '\\' then
      match cs with
      | [] => .error (.missing .closingQuote opened)
      | 'u' :: rest =>
        match hexQuad? rest with
        | none | some (_, []) => missing .unicodeEscape ('u' :: rest)
        | some (unit, rest) =>
          let (c, rest) := unicodeEscape unit rest
          readText opened fuel (c :: done) rest
      | e :: rest =>
        match simpleEscape? e with
        | some c => readText opened fuel (c :: done) rest
        | none => missing .escape (c :: cs)
    else if c.toNat < 0x20 then missing .controlCharacter (c :: cs)
    else readText opened fuel (c :: done) cs

/-- A text with its opening quote. -/
def readQuoted (cs : List Char) : Except Failure (String × List Char) :=
  readText (cs.length + 1) (cs.length + 1) [] cs

/-! ## Values -/

/-- The words that stand for values. -/
def words : List (String × Value) :=
  [("null", .null), ("true", .bool true), ("false", .bool false),
   ("NaN", .real (Float.ofBits 0x7FF8000000000000)),
   ("Infinity", .real (Float.ofBits 0x7FF0000000000000)),
   ("-Infinity", .real (Float.ofBits 0xFFF0000000000000))]

/-- A word or a number. -/
def readScalar (cs : List Char) : Except Failure (Value × List Char) :=
  match words.find? (·.1.toList.isPrefixOf cs) with
  | some (word, v) => .ok (v, cs.drop word.length)
  | none => do
    let number ←
      match cs with
      | '-' :: rest => unsignedNumber? true rest
      | _ => unsignedNumber? false cs
    match number with
    | some result => return result
    | none => missing .value cs

/-- How deeply lists and mappings may be nested. -/
def maxDepth : Nat := 990

mutual

/-- A value at the front of a text, inside `depth` lists and mappings. -/
def readValue : Nat → (depth : Nat) → List Char → Except Failure (Value × List Char)
  | 0, _, cs => missing .value cs
  | fuel + 1, depth, cs =>
    match cs with
    | '"' :: rest => do
      let (s, rest) ← readQuoted rest
      return (.text s, rest)
    | '[' :: rest =>
      if maxDepth ≤ depth then .error (.depth true)
      else
        match skip rest with
        | ']' :: rest => .ok (.list [], rest)
        | rest => do
          let (items, rest) ← readItems fuel (depth + 1) [] rest
          return (.list items, rest)
    | '\x7b' :: rest =>
      if maxDepth ≤ depth then .error (.depth false)
      else
        match skip rest with
        | '\x7d' :: rest => .ok (.dict [], rest)
        | rest => do
          let (entries, rest) ← readEntries fuel (depth + 1) [] rest
          return (.dict entries, rest)
    | _ => readScalar cs

/-- The items of a list up to its closing bracket; `done` holds those before, newest first. -/
def readItems : Nat → (depth : Nat) → List Value → List Char →
    Except Failure (List Value × List Char)
  | 0, _, _, cs => missing .value cs
  | fuel + 1, depth, done, cs => do
    let (v, rest) ← readValue fuel depth cs
    match skip rest with
    | ']' :: rest => return ((v :: done).reverse, rest)
    | ',' :: rest => readItems fuel depth (v :: done) (skip rest)
    | rest => missing .comma rest

/-- The entries of a mapping up to its closing brace. -/
def readEntries : Nat → (depth : Nat) → Entries → List Char → Except Failure (Entries × List Char)
  | 0, _, _, cs => missing .value cs
  | fuel + 1, depth, done, cs =>
    match cs with
    | '"' :: rest => do
      let (key, rest) ← readQuoted rest
      match skip rest with
      | ':' :: rest =>
        let (v, rest) ← readValue fuel depth (skip rest)
        let entries := Value.put done key v
        match skip rest with
        | '\x7d' :: rest => return (entries, rest)
        | ',' :: rest => readEntries fuel depth entries (skip rest)
        | rest => missing .comma rest
      | rest => missing .colon rest
    | _ => missing .propertyName cs

end

/-- Reads a whole text. Every step of the reader takes a character, so the length of the text bounds
their number. -/
def readWhole (cs : List Char) : Except Failure Value := do
  if cs.head? = some '\uFEFF' then throw (.missing .noByteOrderMark cs.length)
  let (v, rest) ← readValue (2 * cs.length + 2) 0 (skip cs)
  match skip rest with
  | [] => return v
  | rest => throw (.missing .endOfText rest.length)

/-- The value of a JSON text. -/
def parse (s : String) : Except Error Value :=
  (readWhole s.toList).mapError (Failure.locate s.toList)

end Cyclomatic.Json
