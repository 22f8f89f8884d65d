import Cyclomatic.CommandLine.Grammar
import Cyclomatic.Language

/-!
# Commands and their arguments

The three commands: analyzing targets, listing the decision tokens of a language, and making a
settings file.
-/

namespace Cyclomatic.CommandLine

/-- The name of the program. -/
def program : String :=
  "complexityscanner"

/-- The version of the program. -/
def versionText : String :=
  program ++ " 1.0.0"

/-! ## Arguments -/

/-- The arguments of an analysis. What is not given, or null, leaves settings as they are. -/
structure AnalyzeArguments where
  targets : List String := ["."]
  config : Value := .null
  format : Value := .null
  output : Value := .null
  language : Value := .null
  stdinFilename : Value := .null
  included : List Value := []
  excluded : List Value := []
  maxCcn : Value := .null
  jobs : Value := .null
  verbose : Bool := false
  noColor : Bool := false
  functions : Bool := false

/-- A command with its arguments. -/
inductive Command where
  /-- No command: an overview is wanted. -/
  | overview
  | analyze (a : AnalyzeArguments)
  | conditions (language : Value)
  | setUp (force : Bool)

/-- The target that stands for standard input. -/
def standardInput : String :=
  "-"

namespace AnalyzeArguments

/-- Where the search for a settings file starts. -/
def start (a : AnalyzeArguments) : String :=
  match a.targets with
  | target :: _ => if target = standardInput then "." else target
  | [] => "."

/-- Whether a source text on standard input is analyzed, rather than the targets. -/
def readsInput (a : AnalyzeArguments) : Bool :=
  a.stdinFilename.isTruthy || a.targets = [standardInput]

end AnalyzeArguments

/-! ## Grammars -/

/-- The option that every command has. -/
def helpOption {α : Type} : OptionSpec α :=
  { names := ["-h", "--help"], action := .help }

/-- The names of the languages. -/
def languageNames : List String :=
  Language.all.map (·.name)

/-- The grammar of an analysis. -/
def analyzeGrammar : Grammar AnalyzeArguments :=
  { program := program ++ " analyze"
    operands := .list fun targets a => { a with targets }
    options :=
      [helpOption,
       ⟨["-c", "--config"], .text [] fun v a => { a with config := v }, false⟩,
       ⟨["-f", "--format"], .text ["text", "json"] fun v a => { a with format := v }, false⟩,
       ⟨["-o", "--output"], .text [] fun v a => { a with output := v }, false⟩,
       ⟨["--language"], .text languageNames fun v a => { a with language := v }, false⟩,
       ⟨["--stdin-filename"], .text [] fun v a => { a with stdinFilename := v }, false⟩,
       ⟨["--include"], .text [] fun v a => { a with included := a.included ++ [v] }, false⟩,
       ⟨["--exclude"], .text [] fun v a => { a with excluded := a.excluded ++ [v] }, false⟩,
       ⟨["--max-ccn"], .integer fun n a => { a with maxCcn := n }, false⟩,
       ⟨["-j", "--jobs"], .integer fun n a => { a with jobs := n }, false⟩,
       ⟨["-v", "--verbose"], .flag fun a => { a with verbose := true }, false⟩,
       ⟨["--no-color"], .flag fun a => { a with noColor := true }, false⟩,
       ⟨["--functions"], .flag fun a => { a with functions := true }, false⟩] }

/-- The grammar of a list of decision tokens. -/
def conditionsGrammar : Grammar Value :=
  { program := program ++ " conditions"
    options := [helpOption, ⟨["--language"], .text languageNames fun v _ => v, true⟩] }

/-- The grammar of making a settings file. -/
def setUpGrammar : Grammar Bool :=
  { program := program ++ " init"
    options := [helpOption, ⟨["-f", "--force"], .flag fun _ => true, false⟩] }

/-- The names of the commands. -/
def commandNames : List String :=
  ["analyze", "conditions", "init"]

/-- The grammar of a whole command line: a command, with its own arguments. -/
def overallGrammar : Grammar (Option (String × List String)) :=
  { program
    operands := .command commandNames fun name rest _ => some (name, rest)
    options := [helpOption, ⟨["--version"], .version, false⟩] }

/-! ## Reading -/

/-- Reads the arguments of a command and refuses what is left over, here or before the command. -/
def readCommand {α : Type} (g : Grammar α) (defaults : α) (extras rest : List String) :
    Except Stop α := do
  let (arguments, more) ← g.parse defaults rest
  if (extras ++ more).isEmpty then return arguments
  else throw (.misuse program (.unrecognized (extras ++ more)))

/-- Reads a command line. -/
def Command.read (args : List String) : Except Stop Command := do
  let (chosen, extras) ← overallGrammar.parse none args
  match chosen with
  | some ("analyze", rest) => return .analyze (← readCommand analyzeGrammar {} extras rest)
  | some ("conditions", rest) => return .conditions (← readCommand conditionsGrammar .null extras rest)
  | some (_, rest) => return .setUp (← readCommand setUpGrammar false extras rest)
  | none =>
    if extras.isEmpty then return .overview
    else throw (.misuse program (.unrecognized extras))

/-! ## Help -/

/-- An option as an overview shows it. -/
def OptionSpec.usage {α : Type} (o : OptionSpec α) : String :=
  let text := " | ".intercalate o.names ++ (if o.takesValue then " VALUE" else "")
  if o.required then text else "[" ++ text ++ "]"

/-- The operands as an overview shows them. -/
def Operands.usage {α : Type} : Operands α → List String
  | nothing => []
  | list _ => ["[TARGET ...]"]
  | command names _ => ["(" ++ " | ".intercalate names ++ ") ..."]

/-- An overview of the options and operands of a grammar. -/
def Grammar.usage {α : Type} (g : Grammar α) : String :=
  "usage: " ++ " ".intercalate (g.program :: g.options.map (·.usage) ++ g.operands.usage) ++ "\n"

/-- The overview of a program or one of its commands. -/
def usageOf (name : String) : String :=
  if name = analyzeGrammar.program then analyzeGrammar.usage
  else if name = conditionsGrammar.program then conditionsGrammar.usage
  else if name = setUpGrammar.program then setUpGrammar.usage
  else overallGrammar.usage

end Cyclomatic.CommandLine
