import Cyclomatic.CommandLine.Arguments
import Cyclomatic.Report.Format
import Cyclomatic.Scan
import Cyclomatic.Settings.File

/-!
# Sessions

Running a command line against a file system and standard input. What is printed and written is
collected, so a run is a function from the surroundings to an outcome.
-/

namespace Cyclomatic.CommandLine

/-! ## Sessions -/

/-- What a run can see. -/
structure Environment where
  disk : Disk := {}
  /-- Standard input; none if reading it is interrupted. -/
  input : Option String := some ""
  /-- Whether the output goes to a terminal. -/
  terminal : Bool := false

/-- What a run has produced so far. -/
structure Console where
  out : String := ""
  err : String := ""
  disk : Disk

/-- Why a run ends before its time. -/
inductive Halt where
  | fault (f : Fault)
  | interrupted

/-- A part of a run. -/
abbrev Session := ExceptT Halt (StateM Console)

namespace Session

/-- Prints a line. -/
def print (line : String) : Session Unit :=
  modify fun c => { c with out := c.out ++ line ++ "\n" }

/-- Goes on with a result, or ends with its fault. -/
def attempt {α : Type} : Except Fault α → Session α
  | .ok a => pure a
  | .error f => throw (.fault f)

/-- Whether a log entry is shown. -/
def shows (verbose : Bool) (e : LogEntry) : Bool :=
  verbose || e.level != .debug

/-- Logs what is to be shown. -/
def log (verbose : Bool) (entries : List LogEntry) : Session Unit :=
  modify fun c =>
    { c with err := c.err ++ String.join ((entries.filter (shows verbose)).map (·.line ++ "\n")) }

/-- The text of a path, which may be given by its bytes. -/
def pathText : Scalar → String
  | .bytes bs => String.ofList (Text.decodeLenient bs)
  | s => s.asText

/-- Writes a file. -/
def write (path : Scalar) (text : String) : Session Unit := do
  match (← get).disk.write (pathText path) (Text.encode text) with
  | .ok disk => modify fun c => { c with disk }
  | .error e => throw (.fault (.system e path))

end Session

/-! ## Settings of an analysis -/

/-- Whether a value has an operation under a name: texts have one for filling them in. -/
def hasOperation (v : Value) (name : String) : Bool :=
  match v with
  | .text _ => name == "format"
  | _ => false

/-- The output settings of a section, in which a member is looked for. A format is a text, so its lower
case is asked for. -/
def outputOf (s : Settings) (member : String) : Except Fault OutputSettings :=
  match s.output with
  | .known o => .ok o
  | .raw v =>
    .error (.kind (if hasOperation v member then .operation "lower" else .noMember v member))

/-- Changes a member of the output settings, if it is given. -/
def withOutput (member : String) (given : Bool) (set : OutputSettings → OutputSettings)
    (s : Settings) : Except Fault Settings :=
  match given, s.output with
  | false, _ => .ok s
  | true, .known o => .ok { s with output := .known (set o) }
  | true, .raw v =>
    .error (.kind (if hasOperation v member then .fixedMember v member else .noMember v member))

namespace AnalyzeArguments

/-- Settings with the arguments in their place. -/
def override (a : AnalyzeArguments) (s : Settings) : Except Fault Settings := do
  let s := if a.included.isEmpty then s else { s with includePatterns := .list a.included }
  let s ← if a.excluded.isEmpty then pure s else do
    pure { s with excludePatterns := ← s.excludePatterns.add (.list a.excluded) }
  let s := { s with
    maxWorkers := a.jobs.orElse s.maxWorkers
    maxFunctionCcn := a.maxCcn.orElse s.maxFunctionCcn }
  let s ← withOutput "format" a.format.isTruthy (fun o => { o with format := a.format }) s
  let s ← withOutput "verbose" a.verbose (fun o => { o with verbose := .bool true }) s
  let s ← withOutput "color" a.noColor (fun o => { o with color := .bool false }) s
  withOutput "show_functions" a.functions (fun o => { o with showFunctions := .bool true }) s

/-- The settings of an analysis. -/
def settings (a : AnalyzeArguments) (d : Disk) : Except Fault Settings := do
  a.override (← Settings.load d a.config a.start)

/-- The language that is forced. -/
def forced (a : AnalyzeArguments) : Option Language :=
  (Language.ofValue a.language).toOption

/-- The name of the source text on standard input. -/
def inputName (a : AnalyzeArguments) : String :=
  match a.stdinFilename with
  | .text name => if name.isEmpty then Scanner.standardInputName else name
  | _ => Scanner.standardInputName

end AnalyzeArguments

/-! ## Commands -/

open Session

/-- Whether a value is the name of the page format. -/
def isPageName : Value → Bool
  | .text s => s == "text"
  | _ => false

/-- Analyzes standard input. -/
def analyzeInput (env : Environment) (a : AnalyzeArguments) (scanner : Scanner) :
    Session Report := do
  match env.input with
  | none => throw .interrupted
  | some source =>
    let outcome := scanner.scanText a.inputName source a.forced
    log a.verbose outcome.log
    let file ← attempt outcome.report
    return { files := [file], languages := file.language.toList.map (·.name) }

/-- Analyzes one target. -/
def analyzeTarget (a : AnalyzeArguments) (scanner : Scanner) (target : String) :
    Session Report := do
  let disk := (← get).disk
  let o ← attempt (outputOf scanner.settings "verbose")
  if o.verbose.isTruthy && isPageName o.format then
    print ("Analyzing " ++ Path.absolute disk.cwd target ++ "...")
  let scan := scanner.scan .inOrder disk target
  log a.verbose scan.log
  attempt scan.report

/-- Why a value that is no path cannot be written to. A number stands for an open stream if it is of
32 bits. -/
def notWritable (v : Value) : Fault :=
  match v.integer? with
  | some n =>
    if 0 ≤ n ∧ n < 0x80000000 then .system .noStream ""
    else if -0x80000000 ≤ n ∧ n < 0 then .system .negativeStream ""
    else .kind (.notText v)
  | none => .kind (.notText v)

/-- Where the report of an analysis goes: a file, or the output. -/
def outputFile? (a : AnalyzeArguments) (o : OutputSettings) : Except Fault (Option Scalar) :=
  let given := if a.output.isTruthy then a.output else o.outputFile
  if !given.isTruthy then .ok none
  else
    match given with
    | .text path => .ok (some (.text path))
    | .scalar (.bytes path) => .ok (some (.bytes path))
    | v => .error (notWritable v)

/-- Analyzes targets or standard input and reports. The exit code tells whether a function is too
complex. -/
def analyze (env : Environment) (a : AnalyzeArguments) : Session Nat := do
  let settings ← attempt (a.settings env.disk)
  let scanner : Scanner := { settings, forced := a.forced }
  let report ←
    if a.readsInput then analyzeInput env a scanner
    else do
      let reports ← a.targets.mapM (analyzeTarget a scanner)
      attempt (Value.ofArithmetic (Report.merge reports))
  let o ← attempt (outputOf settings "format")
  let format ← attempt (ReportFormat.ofValue o.format)
  let options : PageOptions :=
    { color := env.terminal && o.color.isTruthy
      verbose := o.verbose.isTruthy
      showFunctions := o.showFunctions.isTruthy }
  let text ← attempt (format.write options (some (Json.blanks 2)) report)
  match ← attempt (outputFile? a o) with
  | some path => do
    write path text
    if isPageName o.format then print ("Results written to " ++ path.asText)
  | none => print text
  if ← attempt (report.exceeds settings.maxFunctionCcn) then
    log a.verbose [⟨.debug, .commandLine,
      "Function CCN limit " ++ Scanner.wholeText settings.maxFunctionCcn ++ " exceeded"⟩]
    return 1
  else
    return 0

/-- A kind of decision tokens with its label. -/
def conditionLine (label : String) (tokens : List String) : String :=
  "  " ++ Text.padRight 20 (label ++ ":") ++ " " ++
    (if tokens.isEmpty then "(none)" else " ".intercalate tokens)

/-- Lists the decision tokens of a language. -/
def listConditions (language : Value) : Session Nat := do
  let table ← attempt ((Language.ofValue language).map DecisionTable.of)
  print ("\nDecision points for " ++ language.asText)
  print (Text.rule '=' 40)
  print (conditionLine "Control flow" table.controlFlow)
  print (conditionLine "Logical operators" table.logicalOperators)
  print (conditionLine "Case keywords" table.caseKeywords)
  print (conditionLine "Ternary operators" table.ternaryOperators)
  print (conditionLine "Exception handling" table.exceptionHandling)
  return 0

/-- The settings file that is made. -/
def newSettingsFile : String :=
  ".complexityscanner.yaml"

/-- Makes a settings file; one that is there is kept unless it is forced. -/
def setUp (force : Bool) : Session Nat := do
  if (← get).disk.contains newSettingsFile && !force then
    print ("Configuration file " ++ newSettingsFile ++ " already exists.")
    print "Use --force to overwrite."
    return 1
  else
    write newSettingsFile Settings.starterText
    print ("Created configuration file: " ++ newSettingsFile)
    return 0

/-- Runs a command. -/
def runCommand (env : Environment) : Command → Session Nat
  | .overview => do
    modify fun c => { c with out := c.out ++ overallGrammar.usage }
    return 0
  | .analyze a => analyze env a
  | .conditions language => listConditions language
  | .setUp force => setUp force

/-! ## Runs -/

/-- How a run ended. -/
structure Exit where
  code : Nat
  out : String := ""
  err : String := ""
  /-- The file system after the run. -/
  disk : Disk
  /-- What went wrong, if anything did. -/
  fault : Option Fault := none

/-- The exit of a run whose command line could not be read, or asked for no command. -/
def Stop.exit (env : Environment) : Stop → Exit
  | help name => { code := 0, out := usageOf name, disk := env.disk }
  | version => { code := 0, out := versionText ++ "\n", disk := env.disk }
  | misuse name m =>
    { code := 2
      err := usageOf name ++ name ++ ": error: " ++ m.message ++ "\n"
      disk := env.disk }

/-- Runs a command line. -/
def run (env : Environment) (args : List String) : Exit :=
  match Command.read args with
  | .error stop => stop.exit env
  | .ok command =>
    match (runCommand env command).run.run { disk := env.disk } with
    | (.ok code, c) => { code, out := c.out, err := c.err, disk := c.disk }
    | (.error .interrupted, c) =>
      { code := 130, out := c.out ++ "\nAnalysis interrupted.\n", err := c.err, disk := c.disk }
    | (.error (.fault f), c) =>
      { code := 1
        out := c.out
        err := c.err ++ "Error: " ++ f.message ++ "\n"
        disk := c.disk
        fault := some f }

end Cyclomatic.CommandLine
