import Cyclomatic.Ledger
import Cyclomatic.Token
import Cyclomatic.DecisionTable
import Cyclomatic.ParameterList
import Cyclomatic.Text.CharClass

/-!
# Functions of Python

Bodies are marked by indentation. A `def` header runs up to its colon; the function stays open until
the first logical line that begins at or left of the line of its `def`, or to the end of the input.
Functions inside functions keep their own indentation and close innermost first.
-/

namespace Cyclomatic.Recognizer

open Text

/-- Where in a header the reading stands. -/
inductive IndentPhase where
  /-- In no header. -/
  | outside
  /-- After `def`. -/
  | name
  /-- Before the parameters. -/
  | beforeParameters
  | typeParameters
  | parameters
  /-- After the parameters, up to the colon. -/
  | returnType
deriving DecidableEq, Repr

/-- The state of a pass over Python tokens. -/
structure Indent where
  phase : IndentPhase := .outside
  bracketDepth : Nat := 0
  /-- Whether the next token begins a logical line. -/
  atLineStart : Bool := true
  /-- Whether the last token began a logical line. -/
  firstOnLine : Bool := false
  /-- The column where the current logical line begins. -/
  lineIndent : Int := 0
  /-- The last line that the last token touched. -/
  lastCodeLine : Int := 0
  /-- The indentations of the open functions, innermost first. -/
  indents : List Int := []
  functionName : String := ""
  functionLine : Int := 0
  functionIndent : Int := 0
  typeParameterDepth : Nat := 0
  parameters : ParameterList := {}
  /-- The decisions in the header that is being read. -/
  headerDecisions : Nat := 0
  ledger : Ledger := {}

namespace Indent

/-- The parameters `*` and `/` only separate others. -/
def parameterMarkers : List String :=
  ["*", "/"]

/-- A name begins with a letter or an underscore. -/
def isName (text : String) : Bool :=
  startsName ['_'] text

/-- Changes the ledger. -/
def mapLedger (s : Indent) (f : Ledger → Ledger) : Indent :=
  { s with ledger := f s.ledger }

/-! ## Extents -/

/-- Closes the innermost function on the last code line. -/
def closeInnermost (s : Indent) : Indent :=
  { s with indents := s.indents.tail, ledger := s.ledger.closeFunction (some s.lastCodeLine) }

/-- Closes every function that a logical line at the given column ends. -/
def dedent (s : Indent) (column : Int) : Indent :=
  (s.indents.takeWhile (column ≤ ·)).foldl (fun s _ => s.closeInnermost) s

/-- Begins a logical line if the token is its first. -/
def beginLine (s : Indent) (column : Int) : Indent :=
  if s.atLineStart then
    { s with firstOnLine := true, atLineStart := false, lineIndent := column }.dedent column
  else { s with firstOnLine := false }

/-- Follows the brackets. A closing bracket that matches nothing is passed over. -/
def followBrackets (s : Indent) (text : String) : Indent :=
  if isOpening text then { s with bracketDepth := s.bracketDepth + 1 }
  else if isClosing text then { s with bracketDepth := s.bracketDepth - 1 }
  else s

/-! ## Headers -/

/-- Gives the decisions of the header to the innermost function. -/
def releaseHeader (s : Indent) : Indent :=
  { s with ledger := s.ledger.recordDecisions s.headerDecisions, headerDecisions := 0 }

/-- Begins a header. -/
def beginHeader (s : Indent) : Indent :=
  { s with
    phase := .name
    functionName := ""
    functionLine := s.ledger.line
    functionIndent := s.lineIndent
    headerDecisions := 0 }

/-- Opens the function whose header has been read. -/
def openBody (s : Indent) : Indent :=
  { s with
    phase := .outside
    indents := s.functionIndent :: s.indents
    ledger := s.ledger.openFunction s.functionName s.parameters.count (some s.functionLine)
    }.releaseHeader

/-- Reads a token before the parameters of a function. -/
def beforeParameters (s : Indent) (text : String) : Indent :=
  if text = "[" then { s with phase := .typeParameters, typeParameterDepth := 1 }
  else if text = "(" then
    let (_, parameters) := ParameterList.feed { markers := parameterMarkers } text
    { s with phase := .parameters, parameters }
  else { s with phase := .outside }

/-- Reads a token of the type parameters. -/
def inTypeParameters (s : Indent) (text : String) : Indent :=
  if text = "[" then { s with typeParameterDepth := s.typeParameterDepth + 1 }
  else if text = "]" then
    let depth := s.typeParameterDepth - 1
    { s with
      typeParameterDepth := depth
      phase := if depth = 0 then .beforeParameters else .typeParameters }
  else s

/-- Reads a token of the parameters. -/
def inParameters (s : Indent) (text : String) : Indent :=
  let (closed, parameters) := s.parameters.feed text
  { s with parameters, phase := if closed then .returnType else .parameters }

/-- Reads a token in the present phase. -/
def readPhase (s : Indent) (t : Token) : Indent :=
  match s.phase with
  | .outside => if t.isCode ∧ t.text = "def" then s.beginHeader else s
  | .name =>
    if t.isCode ∧ isName t.text then
      { s with functionName := t.text, phase := .beforeParameters }
    else { s with phase := .outside }
  | .beforeParameters => s.beforeParameters t.text
  | .typeParameters => s.inTypeParameters t.text
  | .parameters => s.inParameters t.text
  | .returnType => if t.text = ":" ∧ s.bracketDepth = 0 then s.openBody else s

/-! ## Reading -/

/-- Follows lines and brackets up to a token that is no line break. -/
def advance (s : Indent) (t : Token) : Indent :=
  let s := s.beginLine t.column
  let s := { s with lastCodeLine := s.ledger.line + lineBreaks t.text }
  if t.isCode then s.followBrackets t.text else s

/-- Reads a token that is no line break. -/
def readToken (s : Indent) (t : Token) : Indent :=
  (s.advance t).readPhase t

/-- Whether a token cannot be read: one without a character where a name may stand. No text has
such tokens. -/
def refuses (s : Indent) (t : Token) : Bool :=
  s.phase = .name ∧ t.isCode ∧ t.text.isEmpty

/-- Reads a line break. Outside brackets it ends the logical line, and with it any header. -/
def readNewline (s : Indent) (implicit : Bool) : Indent :=
  if implicit ∨ 0 < s.bracketDepth then s
  else if s.phase = .outside then { s with atLineStart := true }
  else { s with atLineStart := true, phase := .outside }.releaseHeader

/-- Counts a decision token. The word `case` decides only at the start of a logical line, and the
decisions of a header wait until its function opens. -/
def countDecision (s : Indent) (text : String) : Indent :=
  if text = "case" ∧ !s.firstOnLine then s
  else if s.phase = .parameters ∨ s.phase = .returnType then
    { s with headerDecisions := s.headerDecisions + 1 }
  else { s with ledger := s.ledger.recordDecisions 1 }

/-- Reads a token. -/
def read (table : DecisionTable) (s : Indent) (t : Token) : Indent :=
  if t.isNewline then s.readNewline t.implicit
  else
    let s := s.readToken t
    if t.isCode && table.decides t.text then s.countDecision t.text else s

/-- Ends the pass, which closes the open functions if no bracket is open. -/
def finish (s : Indent) : Indent × Option ScopeError :=
  let s := s.releaseHeader
  if 0 < s.bracketDepth then (s, some (.unclosedBrackets s.bracketDepth))
  else (s.indents.foldl (fun s _ => s.closeInnermost) s, none)

/-- A pass that begins on the given line. -/
def start (line : Int) : Indent :=
  { parameters := { markers := parameterMarkers }, ledger := { line } }

end Indent

end Cyclomatic.Recognizer
