import Cyclomatic.Language

/-!
# Decision tables

The literal tokens of a language that open one more path through a function.
-/

namespace Cyclomatic

/-- The decision tokens of a language, by category. -/
structure DecisionTable where
  controlFlow : List String := []
  logicalOperators : List String := []
  caseKeywords : List String := []
  ternaryOperators : List String := []
  exceptionHandling : List String := []
deriving DecidableEq, Repr

namespace DecisionTable

/-- All decision tokens, category by category. -/
def tokens (t : DecisionTable) : List String :=
  t.controlFlow ++ t.logicalOperators ++ t.caseKeywords ++ t.ternaryOperators ++ t.exceptionHandling

/-- Whether a text is a decision token. -/
def decides (t : DecisionTable) (text : String) : Bool :=
  t.tokens.contains text

/-- The table of TypeScript and JavaScript. -/
def script : DecisionTable where
  controlFlow := ["if", "for", "while", "do"]
  logicalOperators := ["&&", "||"]
  caseKeywords := ["case"]
  ternaryOperators := ["?"]
  exceptionHandling := ["catch"]

/-- The table of Go, which has no conditional operator and reports errors by value. -/
def go : DecisionTable where
  controlFlow := ["if", "for", "range"]
  logicalOperators := ["&&", "||"]
  caseKeywords := ["case"]

/-- The table of Python. -/
def python : DecisionTable where
  controlFlow := ["if", "for", "while", "elif"]
  logicalOperators := ["and", "or"]
  caseKeywords := ["case"]
  exceptionHandling := ["except"]

/-- The table of a language. -/
def of : Language → DecisionTable
  | .typescript => script
  | .javascript => script
  | .go => go
  | .python => python

end DecisionTable

end Cyclomatic
