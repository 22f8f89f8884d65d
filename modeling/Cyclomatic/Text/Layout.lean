/-!
# Laying out text

Padding and cutting texts to a width, counted in characters.
-/

namespace Cyclomatic.Text

/-- A text with blanks after it, up to a width. -/
def padRight (width : Nat) (s : String) : String :=
  s ++ String.ofList (List.replicate (width - s.length) ' ')

/-- A text with blanks before it, up to a width. -/
def padLeft (width : Nat) (s : String) : String :=
  String.ofList (List.replicate (width - s.length) ' ') ++ s

/-- A character repeated. -/
def rule (c : Char) (width : Nat) : String :=
  String.ofList (List.replicate width c)

/-- The items before an index. A negative index counts from the end. -/
def takeTo {α : Type} (stop : Int) (items : List α) : List α :=
  items.take (if 0 ≤ stop then stop else items.length + stop).toNat

/-- A text cut to a length, the suffix included, if it is longer. -/
def truncated (s : String) (maxLength : Int) (suffix : String) : String :=
  if s.length ≤ maxLength then s
  else String.ofList (takeTo (maxLength - suffix.length) s.toList) ++ suffix

/-- The suffix of a text that was cut. -/
def ellipsis : String :=
  "..."

end Cyclomatic.Text
