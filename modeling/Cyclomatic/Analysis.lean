import Cyclomatic.Recognizer
import Cyclomatic.Lexicon.Lexeme

/-!
# Analysis

Measuring a source text: its functions, found by the recognizer of its language, or, when a bracket
is left open, an estimate over the whole text. An analysis always has a result.
-/

namespace Cyclomatic

/-! ## Results -/

/-- How the numbers of an analysis came about. -/
inductive AnalysisMode where
  /-- Function by function. -/
  | function
  /-- As an estimate over the whole text. -/
  | aggregate
deriving DecidableEq, Repr

/-- The name of a mode. -/
def AnalysisMode.name : AnalysisMode → String
  | function => "function"
  | aggregate => "aggregate"

/-- The measures of a source text. -/
structure Analysis where
  totalCcn : Int
  nloc : Int
  tokenCount : Int
  decisionPoints : Int
  functions : List FunctionMeasure := []
  language : Option Language := none
  filename : String := "unknown"
  mode : AnalysisMode := .function
deriving DecidableEq, Repr

namespace Analysis

/-- The number of functions. -/
def functionCount (a : Analysis) : Nat :=
  a.functions.length

/-- The greatest of a list of numbers, or 0 if the list is empty. -/
def greatest : List Int → Int
  | [] => 0
  | n :: ns => ns.foldl max n

/-- The complexity of the most complex function, or 0 without functions. -/
def maxFunctionCcn (a : Analysis) : Int :=
  greatest (a.functions.map (·.ccn))

/-! ## Measuring -/

/-- The code lines of a token stream: those that a code or string token touches. -/
def codeLines (tokens : List Token) : LineSet :=
  tokens.foldl (fun s t => if t.isSubstance then s.insertRun t.line t.lineSpan else s) .empty

/-- The number of lines of a source text that hold code. -/
def countCodeLines (language : Option Language) (source : String) : Nat :=
  (codeLines ((Lexicon.of language).tokens source)).size

/-- The significant tokens of a source text. -/
def sourceTokens (language : Language) (source : String) : List Token :=
  significantTokens ((Lexicon.of language).tokens source)

/-- Measures a source text without looking for functions: every decision token counts once. -/
def aggregate (language : Language) (filename source : String) : Analysis :=
  let table := DecisionTable.of language
  let tokens := (sourceTokens language source).filter (!·.isNewline)
  let decisions := tokens.countP fun t => t.isCode && table.decides t.text
  { totalCcn := 1 + decisions
    nloc := countCodeLines language source
    tokenCount := tokens.length
    decisionPoints := decisions
    language
    filename
    mode := .aggregate }

/-- Runs the recognizer of a language over a source text. -/
def recognize (language : Language) (source : String) : Recognizer × Option ScopeError :=
  ((Recognizer.start language).run (DecisionTable.of language) (sourceTokens language source)).finish

/-- Measures a source text function by function, which fails if scopes are left open. -/
def byFunction (language : Language) (filename source : String) : Except ScopeError Analysis :=
  match recognize language source with
  | (_, some e) => .error e
  | (r, none) =>
    let functions := r.ledger.closeAll.functions
    let ccn := (functions.map (·.ccn)).foldr (· + ·) 0
    .ok
      { totalCcn := if ccn = 0 then 1 else ccn
        nloc := countCodeLines language source
        tokenCount := (sourceTokens language source).countP (!·.isNewline)
        decisionPoints := ccn - functions.length
        functions
        language
        filename }

/-- The warning that an analysis is an estimate. -/
def fallbackWarning (language : Language) (filename : String) (e : ScopeError) : String :=
  "Function-level analysis failed for " ++ filename ++ " (" ++ language.name ++
    "), using aggregate: " ++ e.message

/-- Measures a source text, function by function if that succeeds and as a whole otherwise, with the
error that made it an estimate. -/
def ofSource (language : Language) (filename source : String) : Analysis × Option ScopeError :=
  match byFunction language filename source with
  | .ok a => (a, none)
  | .error e => (aggregate language filename source, some e)

end Analysis

end Cyclomatic
