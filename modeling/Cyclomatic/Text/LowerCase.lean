import Cyclomatic.Text.Ranges
import Cyclomatic.Text.CaseTable
import Cyclomatic.Text.CaseContextTable

/-!
# Lower case

Full lower-case mapping of a text. Two characters need more than a table of single characters: the
dotted capital I becomes two characters, and a capital sigma takes its final form at the end of a
word.
-/

namespace Cyclomatic.Text

/-- A character with a case that case context does not see through. -/
def isCased (c : Char) : Bool :=
  if isBasic c then ('A' ≤ c && c ≤ 'Z') || ('a' ≤ c && c ≤ 'z') else casedRanges.contains c.toNat

/-- A character that case context sees through, such as an apostrophe or a combining accent. -/
def isCaseIgnorable (c : Char) : Bool :=
  if isBasic c then ['\'', '.', ':', '^', '\x60'].contains c else caseIgnorableRanges.contains c.toNat

/-- The lower-case form of a single character, apart from the two that need more. -/
def lowerChar (c : Char) : Char :=
  if isBasic c then
    if 'A' ≤ c && c ≤ 'Z' then Char.ofNat (c.toNat + 32) else c
  else
    match caseRuns.find? (·.contains c.toNat) with
    | some run => Char.ofNat (c.toNat + run.offset).toNat
    | none => c

/-- Whether the nearest character that case context sees in `cs` has a case. -/
def nearestIsCased (cs : List Char) : Bool :=
  match cs.dropWhile isCaseIgnorable with
  | [] => false
  | c :: _ => isCased c

/-- Lower-cases `cs`, where `before` holds the characters already read, nearest first. -/
def lowerFrom (before : List Char) : List Char → List Char
  | [] => []
  | c :: cs =>
    let lowered :=
      if c = 'Σ' then
        if nearestIsCased before && !nearestIsCased cs then ['ς'] else ['σ']
      else if c = 'İ' then ['i', '\u0307']
      else [lowerChar c]
    lowered ++ lowerFrom (c :: before) cs

/-- The text in lower case. -/
def lower (s : String) : String :=
  String.ofList (lowerFrom [] s.toList)

end Cyclomatic.Text
