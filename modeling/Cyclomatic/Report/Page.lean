import Cyclomatic.Report
import Cyclomatic.Text.Layout

/-!
# Reports as pages

A report for people to read, with a summary, a line for each file and, if wanted, one for each
function. On a terminal parts of it are coloured.
-/

namespace Cyclomatic

/-! ## Colours -/

/-- How a piece of text stands out on a terminal. -/
inductive Style where
  | bold
  | dim
  | red
  | green
  | yellow
  | magenta
  | cyan
deriving DecidableEq, Repr

namespace Style

/-- The number of a style. -/
def number : Style → Nat
  | bold => 1
  | dim => 2
  | red => 91
  | green => 92
  | yellow => 93
  | magenta => 95
  | cyan => 96

/-- The control sequence with a number. -/
def sequence (n : Nat) : String :=
  "\x1b[" ++ toString n ++ "m"

end Style

/-- The style of a level. -/
def Level.style : Level → Style
  | low => .green
  | medium => .yellow
  | high => .red
  | veryHigh => .magenta

/-! ## Pages -/

/-- What a page shows. -/
structure PageOptions where
  color : Bool := false
  verbose : Bool := false
  showFunctions : Bool := false

namespace Page

/-- A text in a style, if the page has colours. -/
def paint (o : PageOptions) (style : Style) (s : String) : String :=
  if o.color then Style.sequence style.number ++ s ++ Style.sequence 0 else s

/-- A score with its level. -/
def scoreLabel (o : PageOptions) (score : Int) : String :=
  let level := Level.ofScore score
  paint o level.style ("[" ++ Text.padLeft 2 (toString score) ++ " " ++ level.name ++ "]")

/-- The complexity above which a function stands out. -/
def noticeableCcn : Int := 10

/-- The line of a function. -/
def functionLine (o : PageOptions) (f : FunctionMeasure) : String :=
  let ccn := if f.ccn > noticeableCcn then paint o .red (toString f.ccn) else toString f.ccn
  "      " ++ Text.padRight 32 (Text.truncated f.name 32 Text.ellipsis) ++
    " lines " ++ Text.padRight 11 (toString f.startLine ++ "-" ++ toString f.endLine) ++
    " CCN " ++ Text.padRight 4 ccn ++ " NLOC " ++ Text.padRight 5 (toString f.nloc) ++
    " params " ++ toString f.parameterCount

/-- Functions in the order of their first lines; those of one line keep their order. -/
def sortedByStart (functions : List FunctionMeasure) : List FunctionMeasure :=
  functions.mergeSort fun f g => decide (f.startLine ≤ g.startLine)

/-- The lines of a file that was analyzed. -/
def analysisLines (o : PageOptions) (path : String) (a : Analysis) (score : Int) : List String :=
  ["  " ++ scoreLabel o score ++ " " ++ paint o .cyan path ++ "  CCN " ++ toString a.totalCcn ++
    ", NLOC " ++ toString a.nloc ++ ", " ++ toString a.functionCount ++ " function(s)"] ++
  (if o.verbose && a.mode == .aggregate then
    [paint o .dim "      (aggregate estimate, functions not detected)"] else []) ++
  (if o.showFunctions then (sortedByStart a.functions).map (functionLine o) else [])

/-- The lines of a file. -/
def fileLines (o : PageOptions) (f : FileReport) : Except Fault (List String) :=
  match f.result, f.score with
  | none, _ =>
    .ok ["  " ++ paint o .red "[error]" ++ " " ++ f.path ++ ": " ++ f.error.getD "None"]
  | some a, some score => .ok (analysisLines o f.path a score.score)
  | some _, none => .error (.kind (.noMember .null "score"))

/-- A line across the page. -/
def wideRule (o : PageOptions) : String :=
  paint o .dim (Text.rule '=' 70)

/-- A line under a heading. -/
def narrowRule (o : PageOptions) : String :=
  paint o .dim (Text.rule '-' 40)

/-- The lines of the summary. -/
def summaryLines (o : PageOptions) (r : Report) : Except Fault (List String) :=
  (Value.ofArithmetic (r.scanTime.fixed 2)).map fun time =>
    ["", wideRule o, paint o .bold " COMPLEXITY REPORT ", wideRule o, "",
     paint o .bold "Summary", narrowRule o,
     "  Files analyzed:    " ++ toString r.filesScanned,
     "  Languages:         " ++ ", ".intercalate r.languages,
     "  Scan time:         " ++ time ++ "s",
     "  Total CCN:         " ++ toString r.totalCcn,
     "  Functions:         " ++ toString r.functionCount,
     "  Max function CCN:  " ++ toString r.maxFunctionCcn,
     ""]

/-- The lines of the files. -/
def filesLines (o : PageOptions) (files : List FileReport) : Except Fault (List String) :=
  if files.isEmpty then .ok []
  else (files.mapM (fileLines o)).map fun lines =>
    [paint o .bold "Files", narrowRule o] ++ lines.flatten ++ [""]

/-- The lines of the errors. -/
def errorLines (o : PageOptions) (errors : List String) : List String :=
  if errors.isEmpty then []
  else [wideRule o, paint o .red " ERRORS ", wideRule o] ++ errors.map ("  - " ++ ·) ++ [""]

end Page

/-- A report as a page. -/
def Report.page (o : PageOptions) (r : Report) : Except Fault String := do
  return "\n".intercalate
    ((← Page.summaryLines o r) ++ (← Page.filesLines o r.files) ++ Page.errorLines o r.errors)

end Cyclomatic
