import Cyclomatic.Value
import Cyclomatic.Yaml.Tag

/-!
# Writing YAML

A value as YAML text in block style. Mappings are indented by two blanks under their key; lists begin
in the column of their key.
-/

namespace Cyclomatic.Yaml

/-- Whether a text can stand without quotes: it does not read as another value, and no character in
it has a meaning of its own. -/
def isPlain (s : String) : Bool :=
  let cs := s.toList
  impliedTag s == .text && cs.all (fun c => ' ' ≤ c && c ≤ '~') &&
    !cs.head?.any (fun c => " -?:,[]\x7b\x7d#&*!|>'\"%@`".contains c) &&
    cs.getLast? != some ' ' && cs.getLast? != some ':' &&
    !s.contains '#' && !s.contains ": "

/-- A text as a scalar, in single quotes if it needs them. -/
def writeText (s : String) : String :=
  if isPlain s then s
  else "'" ++ String.ofList (s.toList.flatMap fun c => if c = '\'' then [c, c] else [c]) ++ "'"

/-- How doubles are written that are no numbers. -/
def specials : Decimal.Specials :=
  ⟨".nan", ".inf"⟩

/-- A scalar as it is written. -/
def writeScalar : Scalar → String
  | .null => "null"
  | .bool b => if b then "true" else "false"
  | .real x => Decimal.text specials x
  | .text s => writeText s
  | s => s.asText

/-- What a value can be written as on one line; none for a list or a mapping with entries. Of other
collections the text is written that messages show. -/
def inline? : Value → Option String
  | .scalar s => some (writeScalar s)
  | .list [] => some "[]"
  | .dict [] => some "\x7b\x7d"
  | .list _ => none
  | .dict _ => none
  | v => some (writeText v.shown)

/-- Blanks. -/
def blanks (column : Nat) : String :=
  String.ofList (List.replicate column ' ')

mutual

/-- The lines of a value in the given column. -/
def lines (column : Nat) : Value → List String
  | .list items => itemLines column items
  | .dict entries => entryLines column entries
  | v => [blanks column ++ (inline? v).getD ""]

/-- The lines of the items of a list. -/
def itemLines (column : Nat) : List Value → List String
  | [] => []
  | v :: rest =>
    (match inline? v with
      | some s => [blanks column ++ "- " ++ s]
      | none =>
        match lines (column + 2) v with
        | [] => []
        | first :: more => (blanks column ++ "- " ++ String.ofList (first.toList.drop (column + 2)))
            :: more) ++ itemLines column rest

/-- The lines of the entries of a mapping. -/
def entryLines (column : Nat) : Entries → List String
  | [] => []
  | (key, v) :: rest =>
    (match inline? v with
      | some s => [blanks column ++ writeScalar key ++ ": " ++ s]
      | none =>
        (blanks column ++ writeScalar key ++ ":") ::
          lines (if v matches .list _ then column else column + 2) v) ++ entryLines column rest

end

/-- The YAML text of a value. -/
def write (v : Value) : String :=
  match inline? v with
  | some s => s ++ "\n"
  | none => String.join ((lines 0 v).map (· ++ "\n"))

end Cyclomatic.Yaml
