import Cyclomatic.Yaml.Meaning

/-!
# Reading YAML

The value of the document that a text holds. A text without a document is null.
-/

namespace Cyclomatic.Yaml

/-- Whether a character may occur in a text. -/
def isAllowed (c : Char) : Bool :=
  let n := c.toNat
  n == 9 || n == 10 || n == 13 || (0x20 ≤ n && n ≤ 0x7E) || n == 0x85 ||
    (0xA0 ≤ n && n ≤ 0xFFFD) || 0x10000 ≤ n

/-- The value of the document in some characters. -/
def documentValue (cs : List Char) : Except Failure Value := do
  match ← (singleDocument?.run (Feed.ofText cs)) with
  | (none, _) => return .null
  | (some d, _) => d.meaning

/-- The value of a YAML text. -/
def parse (s : String) : Except Error Value :=
  let cs := s.toList
  match cs.dropWhile isAllowed with
  | c :: rest => .error (.unprintable c (cs.length - rest.length - 1))
  | [] => (documentValue cs).mapError (.failed s)

end Cyclomatic.Yaml
