import Cyclomatic.Value

/-!
# Writing JSON

A value as JSON text, in ASCII: everything else is escaped, in UTF-16 units. With an indentation each
item stands on a line of its own; without one the text is a single line.
-/

namespace Cyclomatic.Json

/-! ## Texts -/

/-- The UTF-16 units of a code point. -/
def units16 (n : Nat) : List Nat :=
  if n < 0x10000 then [n] else [0xD800 + (n - 0x10000) / 0x400, 0xDC00 + (n - 0x10000) % 0x400]

/-- A character inside a JSON text. -/
def escapedChar (c : Char) : List Char :=
  match c with
  | '"' => ['\\', '"']
  | '\\' => ['\\', '\\']
  | '\n' => ['\\', 'n']
  | '\r' => ['\\', 'r']
  | '\t' => ['\\', 't']
  | '\x08' => ['\\', 'b']
  | '\x0c' => ['\\', 'f']
  | c =>
    if ' ' ≤ c ∧ c ≤ '~' then [c]
    else (units16 c.toNat).flatMap fun u => '\\' :: 'u' :: Text.hex 4 u

/-- A text between double quotes. -/
def textLiteral (s : String) : String :=
  String.ofList ('"' :: s.toList.flatMap escapedChar ++ ['"'])

/-! ## Layout -/

/-- How doubles are written that are no numbers. -/
def specials : Decimal.Specials :=
  ⟨"NaN", "Infinity"⟩

/-- An indentation by a number of blanks. -/
def blanks (width : Nat) : String :=
  String.ofList (List.replicate width ' ')

/-- The break before an item at the given depth. -/
def lineStart (indent : Option String) (depth : Nat) : String :=
  match indent with
  | none => ""
  | some unit => "\n" ++ String.join (List.replicate depth unit)

/-- What stands between two items at the given depth. -/
def separator (indent : Option String) (depth : Nat) : String :=
  match indent with
  | none => ", "
  | some _ => "," ++ lineStart indent depth

/-- Items between brackets; without items the brackets stand together. -/
def bracketed (indent : Option String) (depth : Nat) (left right : String) (items : List String) :
    String :=
  if items.isEmpty then left ++ right
  else left ++ lineStart indent (depth + 1) ++ (separator indent (depth + 1)).intercalate items ++
    lineStart indent depth ++ right

/-- A scalar. What the format does not know is written as the text that it prints. -/
def writeScalar : Scalar → String
  | .null => "null"
  | .bool b => if b then "true" else "false"
  | .int n => toString n
  | .real x => Decimal.text specials x
  | s => textLiteral s.asText

/-- A key, which is always a text. -/
def writeKey : Scalar → String
  | .text s => textLiteral s
  | s => textLiteral (writeScalar s)

mutual

/-- A value at the given depth. What the format does not know is written as the text that messages
show. -/
def write (indent : Option String) (depth : Nat) : Value → String
  | .scalar s => writeScalar s
  | .list items => bracketed indent depth "[" "]" (writeItems indent (depth + 1) items)
  | .pair first second =>
    bracketed indent depth "[" "]"
      [write indent (depth + 1) first, write indent (depth + 1) second]
  | .dict entries => bracketed indent depth "\x7b" "\x7d" (writeEntries indent (depth + 1) entries)
  | .set members => textLiteral (Value.set members).shown
  | .linked web place => textLiteral (web.shown place)

/-- The items of a list. -/
def writeItems (indent : Option String) (depth : Nat) : List Value → List String
  | [] => []
  | v :: vs => write indent depth v :: writeItems indent depth vs

/-- The entries of a mapping. -/
def writeEntries (indent : Option String) (depth : Nat) : List (Scalar × Value) → List String
  | [] => []
  | (key, v) :: es => (writeKey key ++ ": " ++ write indent depth v) :: writeEntries indent depth es

end

/-- The JSON text of a value, indented by the given width. -/
def pretty (width : Nat) (v : Value) : String :=
  write (some (blanks width)) 0 v

/-- The JSON text of a value on one line. -/
def compact (v : Value) : String :=
  write none 0 v

end Cyclomatic.Json
