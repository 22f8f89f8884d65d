import Cyclomatic.Discovery
import Cyclomatic.FileTree.Content
import Cyclomatic.Log

/-!
# Scanning

Analyzing and scoring source texts from files or from memory, and whole targets at once. Files may be
finished in any order; a report does not depend on it, except for the order of its errors.
-/

namespace Cyclomatic

/-- What a scan goes by: settings, and a language that overrides what extensions tell. -/
structure Scanner where
  settings : Settings := {}
  forced : Option Language := none

/-- What came of scanning one file. -/
structure Outcome where
  path : String
  log : List LogEntry := []
  errors : List String := []
  report : Except Fault FileReport

/-- What came of a whole scan. -/
structure Scan where
  log : List LogEntry
  report : Except Fault Report

namespace Scanner

/-! ## Single texts -/

/-- The log entry of an analysis. -/
def analysisEntry (language : Language) (path : String) (a : Analysis) :
    Option ScopeError → LogEntry
  | some e => ⟨.warning, .analysis, Analysis.fallbackWarning language path e⟩
  | none =>
    ⟨.debug, .analysis, "Analyzed " ++ path ++ " (" ++ language.name ++ "): " ++
      toString a.functionCount ++ " function(s), total CCN " ++ toString a.totalCcn⟩

/-- Analyzes and scores a source text. -/
def analyze (s : Scanner) (language : Language) (path source : String) : Outcome :=
  let (a, e) := Analysis.ofSource language path source
  { path
    log := [analysisEntry language path a e]
    report := do
      let score ← (← s.settings.scoring.scoring).rubric.score a
      return { path, language, result := a, score } }

/-- The language of a source text in memory: the one given, the forced one, that of the extension or
the default. -/
def textLanguage (s : Scanner) (path : String) (given : Option Language) :
    Except Fault Language :=
  match given.or s.forced with
  | some language => .ok language
  | none => do
    match ← s.settings.languageOf? path with
    | some language => return language
    | none => Language.ofValue s.settings.defaultLanguage

/-- Scans a source text in memory. -/
def scanText (s : Scanner) (path source : String) (given : Option Language) : Outcome :=
  match s.textLanguage path given with
  | .ok language => s.analyze language path source
  | .error f => { path, report := .error f }

/-! ## Files -/

/-- The name of a source text that comes from standard input. -/
def standardInputName : String :=
  "<stdin>"

/-- The report of a file that was not analyzed. -/
def unreadable (path : String) (language : Option Language) (error : String) : FileReport :=
  { path, language, error }

/-- Scans a file whose language is known. -/
def scanSource (s : Scanner) (d : Disk) (language : Language) (path : String) : Outcome :=
  let failed := Except.ok (unreadable path language "File could not be read")
  match d.read path with
  | .error .zeroCharacter => { path, report := .error (.system .zeroCharacter path) }
  | .error e =>
    let error := "Error reading " ++ path ++ ": " ++ (Fault.system e path).message
    { path, log := [⟨.warning, .scan, error⟩], errors := [error], report := failed }
  | .ok bytes =>
    if Content.looksBinary bytes then
      { path, errors := ["Skipping binary file " ++ path], report := failed }
    else s.analyze language path (Content.sourceText bytes)

/-- The language of a file: the forced one, or that of its extension. -/
def fileLanguage? (s : Scanner) (path : String) : Except Fault (Option Language) :=
  match s.forced with
  | some language => .ok language
  | none => s.settings.languageOf? path

/-- Scans a file. -/
def scanFile (s : Scanner) (d : Disk) (path : String) : Outcome :=
  match s.fileLanguage? path with
  | .error f => { path, report := .error f }
  | .ok none => { path, report := .ok (unreadable path none "Unsupported file type") }
  | .ok (some language) => s.scanSource d language path

end Scanner

/-! ## Gathering -/

/-- The errors of an outcome; a scan that failed is one of them. -/
def Outcome.allErrors (o : Outcome) : List String :=
  o.errors ++
    match o.report with
    | .ok _ => []
    | .error f => ["Error scanning " ++ o.path ++ ": " ++ f.message]

/-- The report of an outcome, if the scan did not fail. -/
def Outcome.report? (o : Outcome) : Option FileReport :=
  o.report.toOption

/-- The language of a file that was analyzed. -/
def FileReport.detected? (f : FileReport) : Option String :=
  if f.result.isSome then f.language.map (·.name) else none

/-- The report of some outcomes, given in the order in which they were finished. -/
def Report.ofOutcomes (outcomes : List Outcome) : Report :=
  let files := outcomes.filterMap (·.report?)
  { files := sortedByPath files
    languages := sortedUnique (files.filterMap (·.detected?))
    errors := outcomes.flatMap (·.allErrors) }

/-- An order in which the files of a scan are finished. -/
structure Schedule where
  arrange : List Outcome → List Outcome
  perm : ∀ outcomes, (arrange outcomes).Perm outcomes

/-- Files are finished in the order in which they are found. -/
def Schedule.inOrder : Schedule :=
  ⟨id, fun _ => .refl _⟩

namespace Scanner

/-! ## Targets -/

/-- The integer part of a number, as a log shows it. -/
def wholeText (v : Value) : String :=
  match v.number? with
  | some (.int n) => toString n
  | some x =>
    match x.lt (.int 0), x.floor, x.ceil with
    | false, .ok n, _ => toString n
    | true, _, .ok n => toString n
    | _, _, _ => x.text
  | none => v.shown

/-- The log of a search. -/
def findingEntry? (s : Scanner) : Finding → Option LogEntry
  | .tooLarge path =>
    some ⟨.debug, .scan, "Skipping " ++ path ++ ": larger than " ++
      wholeText s.settings.maxFileSize ++ " bytes"⟩
  | _ => none

/-- Whether several workers share the files of a scan. -/
def isParallel (s : Scanner) (files : List String) : Except Fault Bool :=
  if 1 < files.length then s.settings.maxWorkers.exceeds (.int 1) else .ok false

/-- Scans everything at a target; several workers finish files as the schedule says. -/
def scan (s : Scanner) (schedule : Schedule) (d : Disk) (target : String) : Scan :=
  if !d.contains target then ⟨[], .error (.targetMissing target)⟩
  else
    let findings := Discovery.findings s.settings d target
    let searched := (Discovery.beforeFault findings).filterMap s.findingEntry?
    match Discovery.files findings with
    | .error f => ⟨searched, .error f⟩
    | .ok files =>
      let found : LogEntry :=
        ⟨.debug, .scan, "Discovered " ++ toString files.length ++ " file(s) under " ++ target⟩
      match s.isParallel files with
      | .error f => ⟨searched ++ [found], .error f⟩
      | .ok parallel =>
        let outcomes := files.map (s.scanFile d)
        let finished := if parallel then schedule.arrange outcomes else outcomes
        ⟨searched ++ [found] ++ finished.flatMap (·.log), .ok (Report.ofOutcomes finished)⟩

end Scanner

end Cyclomatic
