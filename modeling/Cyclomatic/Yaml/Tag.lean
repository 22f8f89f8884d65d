import Cyclomatic.Calendar
import Cyclomatic.Number.Literal

/-!
# Tags

A tag says what a node stands for. A plain scalar without a tag has the one that its text implies:
null, a truth value, a number, a date, or text.
-/

namespace Cyclomatic.Yaml

/-- What a node stands for. -/
inductive Tag where
  | null
  | bool
  | int
  | real
  | binary
  | timestamp
  | orderedMap
  | pairs
  | set
  | text
  | sequence
  | mapping
  /-- The key whose value is merged into a mapping. -/
  | merge
  /-- The key whose value a mapping stands for. -/
  | value
  | other (name : String)
deriving DecidableEq, Repr

namespace Tag

/-- What the names of the tags known to all have in common. -/
def standard : String := "tag:yaml.org,2002:"

/-- The tags known to all, by name. -/
def named : List (String × Tag) :=
  [("null", null), ("bool", bool), ("int", int), ("float", real), ("binary", binary),
   ("timestamp", timestamp), ("omap", orderedMap), ("pairs", pairs), ("set", set), ("str", text),
   ("seq", sequence), ("map", mapping), ("merge", merge), ("value", value)]

/-- The tag with a name. -/
def ofName (name : String) : Tag :=
  ((named.map fun e => (standard ++ e.1, e.2)).lookup name).getD (other name)

/-- The name of a tag. -/
def name : Tag → String
  | other name => name
  | tag => standard ++ ((named.find? (·.2 == tag)).map (·.1)).getD ""

end Tag

/-! ## Words -/

/-- The words for null. -/
def nullWords : List String :=
  ["", "~", "null", "Null", "NULL"]

/-- The truth values by their words in lower case. -/
def boolWords : List (String × Bool) :=
  [("yes", true), ("no", false), ("true", true), ("false", false), ("on", true), ("off", false)]

/-- A word in its three spellings: small, with a capital, and large. -/
def spellings (word : String) : List String :=
  [word, String.ofList (match word.toList with
    | [] => []
    | c :: cs => c.toUpper :: cs), word.toUpper]

/-- Whether a text is a word for a truth value. -/
def isBoolWord (s : String) : Bool :=
  boolWords.any fun e => (spellings e.1).contains s

/-! ## Numbers -/

/-- Whether a character is a digit or an underscore. -/
def isLooseDigit (c : Char) : Bool :=
  c.isDigit || c == '_'

/-- Whether a text is digits with underscores between them, beginning with a digit. -/
def isLooseNumber : List Char → Bool
  | [] => false
  | c :: cs => c.isDigit && cs.all isLooseDigit

/-- Whether a text is a part of a number in base sixty: one or two digits below sixty. -/
def isSixtieth : List Char → Bool
  | [a] => a.isDigit
  | [a, b] => '0' ≤ a && a ≤ '5' && b.isDigit
  | _ => false

/-- Whether a text is a number in base sixty, with colons between its parts. -/
def isSixtieths (cs : List Char) : Bool :=
  match cs.splitOn ':' with
  | first :: second :: more => isLooseNumber first && (second :: more).all isSixtieth
  | _ => false

/-- Whether a text is an integer. -/
def isIntegerWord (cs : List Char) : Bool :=
  match (Literal.splitSign cs).2 with
  | '0' :: 'b' :: ds => !ds.isEmpty && ds.all fun c => c == '0' || c == '1' || c == '_'
  | '0' :: 'x' :: ds =>
    !ds.isEmpty && ds.all fun c => (Literal.digit? 16 c).isSome && c.toNat < 0x80 || c == '_'
  | '0' :: ds => ds.all fun c => ('0' ≤ c && c ≤ '7') || c == '_'
  | body => isLooseNumber body || isSixtieths body

/-- Whether a text is nothing or an exponent with its sign. -/
def isExponent : List Char → Bool
  | [] => true
  | e :: sign :: ds =>
    (e == 'e' || e == 'E') && (sign == '-' || sign == '+') && !ds.isEmpty && ds.all Char.isDigit
  | _ => false

/-- Whether a text is a double: it has a point. Digits before the point may only be missing if there
is no sign. -/
def isRealWord (cs : List Char) : Bool :=
  let body := (Literal.splitSign cs).2
  let signed := body.length < cs.length
  let whole := body.takeWhile (· != '.')
  match body.dropWhile (· != '.') with
  | [] => false
  | _ :: rest =>
    let isWord (words : List String) : Bool := words.contains (String.ofList rest)
    let tail := rest.dropWhile isLooseDigit
    if whole.isEmpty then
      isWord ["inf", "Inf", "INF"] || (!signed &&
        (isWord ["nan", "NaN", "NAN"] || (rest.head?.any Char.isDigit && isExponent tail)))
    else (isLooseNumber whole && isExponent tail) || (isSixtieths whole && tail.isEmpty)

/-! ## Dates and times -/

/-- The parts of a date, and of the time after it if there is one, as they are written. -/
structure Stamp where
  year : List Char
  month : List Char
  day : List Char
  time : Option (List Char × List Char × List Char × List Char × Option Int) := none

/-- Takes at least `least` and at most `most` digits. -/
def takeDigits? (least most : Nat) (cs : List Char) : Option (List Char × List Char) :=
  let ds := (cs.take most).takeWhile Char.isDigit
  if ds.length < least then none else some (ds, cs.drop ds.length)

/-- Takes a character. -/
def takeChar? (p : Char → Bool) : List Char → Option (List Char)
  | [] => none
  | c :: cs => if p c then some cs else none

/-- The number that ASCII digits spell. -/
def decimal (ds : List Char) : Nat :=
  Literal.digitsValue 10 (ds.filterMap Literal.decimalDigit?)

/-- The distance from universal time, in minutes, that makes up the rest of a text. Nothing is an
unknown distance. -/
def offset? (cs : List Char) : Option (Option Int) :=
  match cs with
  | [] => some none
  | cs =>
    match cs.dropWhile fun c => c == ' ' || c == '\t' with
    | ['Z'] => some (some 0)
    | sign :: rest => do
      if sign ≠ '+' ∧ sign ≠ '-' then none
      let (hours, rest) ← takeDigits? 1 2 rest
      let minutes ←
        match rest with
        | [] => some []
        | rest => do
          let (ds, rest) ← takeDigits? 2 2 (← takeChar? (· == ':') rest)
          if rest.isEmpty then some ds else none
      let span : Int := 60 * decimal hours + decimal minutes
      return some (if sign = '-' then -span else span)
    | [] => none

/-- The time that makes up the rest of a text after a date. -/
def time? (cs : List Char) :
    Option (List Char × List Char × List Char × List Char × Option Int) := do
  let rest ←
    match cs with
    | 'T' :: rest => some rest
    | 't' :: rest => some rest
    | ' ' :: rest => some (rest.dropWhile fun c => c == ' ' || c == '\t')
    | '\t' :: rest => some (rest.dropWhile fun c => c == ' ' || c == '\t')
    | _ => none
  let (hour, rest) ← takeDigits? 1 2 rest
  let (minute, rest) ← takeDigits? 2 2 (← takeChar? (· == ':') rest)
  let (second, rest) ← takeDigits? 2 2 (← takeChar? (· == ':') rest)
  let (fraction, rest) :=
    match rest with
    | '.' :: rest => (rest.takeWhile Char.isDigit, rest.dropWhile Char.isDigit)
    | rest => ([], rest)
  return (hour, minute, second, fraction, ← offset? rest)

/-- The date, with or without a time, that a text is. -/
def stamp? (cs : List Char) : Option Stamp := do
  let (year, rest) ← takeDigits? 4 4 cs
  let (month, rest) ← takeDigits? 1 2 (← takeChar? (· == '-') rest)
  let (day, rest) ← takeDigits? 1 2 (← takeChar? (· == '-') rest)
  if rest.isEmpty then return { year, month, day }
  return { year, month, day, time := some (← time? rest) }

/-- Whether a text is a date or a time. A date alone has two digits for the month and the day. -/
def isStampWord (cs : List Char) : Bool :=
  match stamp? cs with
  | some s => s.time.isSome || (s.month.length == 2 && s.day.length == 2)
  | none => false

/-! ## Implied tags -/

/-- The tag that an unquoted text implies. -/
def impliedTag (s : String) : Tag :=
  let cs := s.toList
  if isBoolWord s then .bool
  else if isRealWord cs then .real
  else if isIntegerWord cs then .int
  else if s = "<<" then .merge
  else if nullWords.contains s then .null
  else if isStampWord cs then .timestamp
  else if s = "=" then .value
  else .text

end Cyclomatic.Yaml
