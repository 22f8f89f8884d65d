import Cyclomatic.Report.Page
import Cyclomatic.Report.Record

/-!
# Report formats

A report is written as a page or as JSON text.
-/

namespace Cyclomatic

/-- A format of reports. -/
inductive ReportFormat where
  | page
  | json
deriving DecidableEq, Repr

namespace ReportFormat

/-- The format with a name, in any case. -/
def ofValue : Value → Except Fault ReportFormat
  | .text name =>
    match Text.lower name with
    | "text" | "cli" => .ok page
    | "json" => .ok json
    | _ => .error (.unknownFormat name)
  | .scalar (.bytes bs) => .error (.unknownFormat (Scalar.bytes bs).asText)
  | v => .error (.kind (.noMember v "lower"))

/-- A report in a format. -/
def write (format : ReportFormat) (o : PageOptions) (indent : Option String) (r : Report) :
    Except Fault String :=
  match format with
  | page => r.page o
  | json => .ok (r.json indent)

end ReportFormat

end Cyclomatic
