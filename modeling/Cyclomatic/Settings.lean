import Cyclomatic.Value

/-!
# Settings

What can be set: where and how to scan, how to score, how to report. A setting keeps the value that
was given for it, and what is not given has a default. Reading settings back from the mapping that
they are written as changes nothing.
-/

namespace Cyclomatic

/-- The value under a key, or a default if the key is missing. -/
def Value.getD (entries : Entries) (key : String) (default : Value) : Value :=
  (Value.get? entries key).getD default

/-! ## Sections -/

/-- How measures become scores. -/
structure ScoringSettings where
  ccnThresholds : Value := .list [.int 5, .int 10, .int 15, .int 20]
  nlocThresholds : Value := .list [.int 20, .int 50, .int 100, .int 200]
  ccnWeight : Value := .real 0.7
  sizeWeight : Value := .real 0.3
  showThreshold : Value := .int 5

namespace ScoringSettings

/-- Reads scoring settings from a mapping. Unknown keys are left out. -/
def ofEntries (entries : Entries) : ScoringSettings :=
  let base : ScoringSettings := {}
  { ccnThresholds := Value.getD entries "ccn_thresholds" base.ccnThresholds
    nlocThresholds := Value.getD entries "nloc_thresholds" base.nlocThresholds
    ccnWeight := Value.getD entries "ccn_weight" base.ccnWeight
    sizeWeight := Value.getD entries "size_weight" base.sizeWeight
    showThreshold := Value.getD entries "show_threshold" base.showThreshold }

/-- Scoring settings as a mapping. -/
def toEntries (s : ScoringSettings) : Entries :=
  [("ccn_thresholds", s.ccnThresholds), ("nloc_thresholds", s.nlocThresholds),
   ("ccn_weight", s.ccnWeight), ("size_weight", s.sizeWeight),
   ("show_threshold", s.showThreshold)]

end ScoringSettings

/-- How reports are written. -/
structure OutputSettings where
  format : Value := .text "text"
  outputFile : Value := .null
  verbose : Value := .bool false
  color : Value := .bool true
  showFunctions : Value := .bool false

namespace OutputSettings

/-- Reads output settings from a mapping. Unknown keys are left out. -/
def ofEntries (entries : Entries) : OutputSettings :=
  let base : OutputSettings := {}
  { format := Value.getD entries "format" base.format
    outputFile := Value.getD entries "output_file" base.outputFile
    verbose := Value.getD entries "verbose" base.verbose
    color := Value.getD entries "color" base.color
    showFunctions := Value.getD entries "show_functions" base.showFunctions }

/-- Output settings as a mapping. -/
def toEntries (s : OutputSettings) : Entries :=
  [("format", s.format), ("output_file", s.outputFile), ("verbose", s.verbose),
   ("color", s.color), ("show_functions", s.showFunctions)]

end OutputSettings

/-- A section of the settings: its record if it is given as a mapping, and otherwise the value that
stands in its place. -/
inductive Section (α : Type) where
  | known (a : α)
  | raw (v : Value)

namespace Section

/-- Reads a section. One that is not given has its default record. -/
def ofValue? {α : Type} (read : Entries → α) : Option Value → Section α
  | some v =>
    match v.entries? with
    | some entries => known (read entries)
    | none => raw v
  | none => known (read [])

/-- A section as a value. -/
def toValue {α : Type} (write : α → Entries) : Section α → Value
  | known a => .dict (write a)
  | raw v => v

end Section

/-! ## Settings as a whole -/

/-- What is left out of a scan by default. -/
def defaultExclusions : List String :=
  ["node_modules", ".git", "vendor", "__pycache__", ".venv", "venv", "dist", "build", "*.min.js",
   "*.d.ts"]

/-- All settings. -/
structure Settings where
  target : Value := .text "."
  excludePatterns : Value := Value.ofTexts defaultExclusions
  includePatterns : Value := .null
  /-- Files with more bytes are left out. -/
  maxFileSize : Value := .int (10 * 1024 * 1024)
  maxWorkers : Value := .int 4
  /-- The language of a text that no extension tells. -/
  defaultLanguage : Value := .text "typescript"
  extensionOverrides : Value := .dict []
  scoring : Section ScoringSettings := .known {}
  output : Section OutputSettings := .known {}
  /-- The greatest complexity of a function that is acceptable. -/
  maxFunctionCcn : Value := .null

namespace Settings

/-- The value under a key, unless a shorter name for the key is there: it comes first. -/
def aliased (entries : Entries) (shortName key : String) (default : Value) : Value :=
  (Value.get? entries shortName).getD (Value.getD entries key default)

/-- Reads settings from a mapping. Unknown keys are left out. -/
def ofEntries (entries : Entries) : Settings :=
  let base : Settings := {}
  { target := Value.getD entries "target" base.target
    excludePatterns := aliased entries "exclude" "exclude_patterns" base.excludePatterns
    includePatterns := aliased entries "include" "include_patterns" base.includePatterns
    maxFileSize := Value.getD entries "max_file_size" base.maxFileSize
    maxWorkers := Value.getD entries "max_workers" base.maxWorkers
    defaultLanguage := Value.getD entries "default_language" base.defaultLanguage
    extensionOverrides := Value.getD entries "extension_overrides" base.extensionOverrides
    scoring := .ofValue? ScoringSettings.ofEntries (Value.get? entries "scoring")
    output := .ofValue? OutputSettings.ofEntries (Value.get? entries "output")
    maxFunctionCcn := Value.getD entries "max_function_ccn" base.maxFunctionCcn }

/-- Settings as a mapping. -/
def toEntries (s : Settings) : Entries :=
  [("target", s.target), ("exclude_patterns", s.excludePatterns),
   ("include_patterns", s.includePatterns), ("max_file_size", s.maxFileSize),
   ("max_workers", s.maxWorkers), ("default_language", s.defaultLanguage),
   ("extension_overrides", s.extensionOverrides),
   ("scoring", s.scoring.toValue ScoringSettings.toEntries),
   ("output", s.output.toValue OutputSettings.toEntries),
   ("max_function_ccn", s.maxFunctionCcn)]

/-- The mapping that a new settings file holds: the defaults that are most often changed. -/
def starter : Entries :=
  let base : Settings := {}
  let scoring : ScoringSettings := {}
  let output : OutputSettings := {}
  [("scan", .dict
      [("target", base.target), ("exclude", base.excludePatterns),
       ("max_file_size", base.maxFileSize), ("max_workers", base.maxWorkers)]),
   ("default_language", base.defaultLanguage),
   ("extension_overrides", base.extensionOverrides),
   ("scoring", .dict scoring.toEntries),
   ("max_function_ccn", base.maxFunctionCcn),
   ("output", .dict
      [("format", output.format), ("verbose", output.verbose), ("color", output.color),
       ("show_functions", output.showFunctions)])]

end Settings

end Cyclomatic
