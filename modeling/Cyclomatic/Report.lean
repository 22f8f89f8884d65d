import Cyclomatic.Score

/-!
# Reports

What a scan found, file by file, with totals over the files that could be analyzed. Reports of
several scans can be merged into one.
-/

namespace Cyclomatic

/-- What became of one file: a result and its score, or an error. -/
structure FileReport where
  path : String
  language : Option Language
  result : Option Analysis := none
  score : Option Score := none
  error : Option String := none
deriving DecidableEq, Repr

/-- The outcome of a scan. -/
structure Report where
  files : List FileReport := []
  /-- The time that the scan took, in seconds. -/
  scanTime : Number := .real 0
  languages : List String := []
  errors : List String := []

/-- Whether one text comes before another or is the same, by code points. -/
def textLe (a b : String) : Bool :=
  decide (a ≤ b)

/-- Texts in order, each once. -/
def sortedUnique (texts : List String) : List String :=
  texts.eraseDups.mergeSort textLe

/-- Files in the order of their paths; files of one path keep their order. -/
def sortedByPath (files : List FileReport) : List FileReport :=
  files.mergeSort fun a b => textLe a.path b.path

namespace Report

/-! ## Totals -/

/-- The analyses of a report. -/
def analyses (r : Report) : List Analysis :=
  r.files.filterMap (·.result)

/-- The number of analyzed files. -/
def filesScanned (r : Report) : Nat :=
  r.analyses.length

/-- The total complexity. -/
def totalCcn (r : Report) : Int :=
  (r.analyses.map (·.totalCcn)).foldr (· + ·) 0

/-- The total number of code lines. -/
def totalNloc (r : Report) : Int :=
  (r.analyses.map (·.nloc)).foldr (· + ·) 0

/-- The number of functions. -/
def functionCount (r : Report) : Nat :=
  (r.analyses.map (·.functionCount)).foldr (· + ·) 0

/-- The complexity of the most complex function. -/
def maxFunctionCcn (r : Report) : Int :=
  Analysis.greatest (r.analyses.map (·.maxFunctionCcn))

/-! ## Merging -/

/-- The total of some times, to the millisecond. -/
def totalTime (times : List Number) : Except ArithmeticError Number := do
  let total ← times.foldlM Number.add (.real 0)
  return .real (Decimal.roundTo 3 (← total.toFloat))

/-- Several reports as one that took the given time. -/
def combine (reports : List Report) (scanTime : Number) : Report :=
  { files := sortedByPath (reports.flatMap (·.files))
    scanTime
    languages := sortedUnique (reports.flatMap (·.languages))
    errors := reports.flatMap (·.errors) }

/-- Several reports as one. -/
def merge (reports : List Report) : Except ArithmeticError Report :=
  (totalTime (reports.map (·.scanTime))).map (combine reports)

/-! ## The limit on complexity -/

/-- The complexity by which an analysis is judged: that of its worst function, or the total if it
has no functions. -/
def worstCcn (a : Analysis) : Int :=
  if a.functions.isEmpty then a.totalCcn else a.maxFunctionCcn

/-- Whether one of some analyses is above a limit. -/
def anyExceeds (limit : Value) : List Analysis → Except Fault Bool
  | [] => .ok false
  | a :: as => do
    if ← (Value.int (worstCcn a)).exceeds limit then return true else anyExceeds limit as

/-- Whether a report is above a limit, if there is one. -/
def exceeds (r : Report) : Value → Except Fault Bool
  | .null => .ok false
  | limit => anyExceeds limit r.analyses

end Report

end Cyclomatic
