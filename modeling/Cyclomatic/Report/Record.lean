import Cyclomatic.Report
import Cyclomatic.Json.Writer

/-!
# Reports as records

Measures, scores and reports as mappings for other programs, and as JSON text.
-/

namespace Cyclomatic

/-- What a missing part of a record is written as. -/
def Value.orNull {α : Type} (write : α → Value) : Option α → Value
  | some a => write a
  | none => .null

/-- The name of a language as a value. -/
def Language.toValue (l : Language) : Value :=
  .text l.name

/-- The measures of a function as a record. -/
def FunctionMeasure.toValue (f : FunctionMeasure) : Value :=
  .dict
    [("name", .text f.name), ("start_line", .int f.startLine), ("end_line", .int f.endLine),
     ("cyclomatic_complexity", .int f.ccn), ("nloc", .int f.nloc),
     ("parameter_count", .int f.parameterCount), ("token_count", .int f.tokenCount),
     ("nesting_depth", .int f.nestingDepth)]

/-- An analysis as the entries of a record. -/
def Analysis.toEntries (a : Analysis) : Entries :=
  [("total_ccn", .int a.totalCcn), ("nloc", .int a.nloc), ("token_count", .int a.tokenCount),
   ("decision_points", .int a.decisionPoints),
   ("language", .orNull Language.toValue a.language), ("filename", .text a.filename),
   ("mode", .text a.mode.name), ("functions", .list (a.functions.map (·.toValue)))]

/-- A score as a record. -/
def Score.toValue (s : Score) : Value :=
  .dict
    [("score", .int s.score), ("ccn", .int s.ccn), ("nloc", .int s.nloc),
     ("function_count", .int s.functionCount),
     ("breakdown", .dict [("ccn_score", .int s.ccnScore), ("size_score", .int s.sizeScore)])]

/-- The report of a file as a record. -/
def FileReport.toValue (f : FileReport) : Value :=
  .dict
    [("path", .text f.path), ("language", .orNull Language.toValue f.language),
     ("result", .orNull (fun a => .dict a.toEntries) f.result),
     ("score", .orNull Score.toValue f.score), ("error", .orNull .text f.error)]

namespace Report

/-- A report as a record. -/
def toValue (r : Report) : Value :=
  .dict
    [("summary", .dict
        [("files_scanned", .int r.filesScanned), ("scan_time_seconds", .ofNumber r.scanTime),
         ("languages_detected", .ofTexts r.languages), ("total_ccn", .int r.totalCcn),
         ("total_nloc", .int r.totalNloc), ("function_count", .int r.functionCount),
         ("max_function_ccn", .int r.maxFunctionCcn)]),
     ("files", .list (r.files.map (·.toValue))), ("errors", .ofTexts r.errors)]

/-- A report as JSON text. -/
def json (indent : Option String) (r : Report) : String :=
  Json.write indent 0 r.toValue

end Report

end Cyclomatic
