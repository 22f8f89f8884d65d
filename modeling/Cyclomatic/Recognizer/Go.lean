import Cyclomatic.Recognizer.Braces
import Cyclomatic.DecisionTable
import Cyclomatic.ParameterList
import Cyclomatic.Text.CharClass

/-!
# Functions of Go

A body follows `func Name[T any](params) results`, `func (recv *Type) Name(params) results` or, for a
literal, `func(params) results`. After `func (` the first group is a receiver or the parameters of a
literal, and the tokens after it settle which. A line break outside brackets ends a statement, so a
signature that reaches one has no body.
-/

namespace Cyclomatic.Recognizer

open Text

/-- Where in a signature the reading stands. -/
inductive GoPhase where
  /-- In no signature. -/
  | outside
  | afterFunc
  | afterName
  | typeParameters
  /-- Inside the group after `func`. -/
  | firstGroup
  | afterFirstGroup
  /-- After a name that is a method's name or a result type. -/
  | afterCandidate
  | parameters
  | results
deriving DecidableEq, Repr

/-- The signature that is being read. -/
structure GoSignature where
  name : String := ""
  candidate : String := ""
  startLine : Int := 1
  parameters : ParameterList := {}
  parameterCount : Nat := 0
  /-- Open brackets of type parameters or results. -/
  bracketDepth : Nat := 0
  /-- Open braces of a struct or interface type among the results. -/
  typeBraceDepth : Nat := 0
  /-- Whether `struct` or `interface` announced a type with braces. -/
  typeLiteral : Bool := false
deriving DecidableEq, Repr

/-- The state of a pass over Go tokens. -/
structure Go where
  phase : GoPhase := .outside
  signature : GoSignature := {}
  braces : Braces := {}

namespace Go

/-- A name begins with a letter or an underscore. -/
def isName (text : String) : Bool :=
  startsName ['_'] text

/-- The keywords of types that are written with braces. -/
def isTypeLiteral (text : String) : Bool :=
  text == "interface" || text == "struct"

/-- The tokens that end a signature without a body. -/
def isTerminator (text : String) : Bool :=
  [";", ",", ")", "]", "=", "\x7d"].contains text

/-- Begins afresh, outside any signature. -/
def reset (s : Go) : Go :=
  { s with phase := .outside, signature := { startLine := s.braces.ledger.line } }

/-- Opens the body of the signature that has been read. -/
def openBody (s : Go) : Go :=
  let f : Signature :=
    ⟨s.signature.name, s.signature.parameterCount, s.signature.startLine, 0⟩
  { s.reset with braces := s.braces.openBody f }

/-- Reads a token outside any signature. -/
def outside (s : Go) (text : String) : Go :=
  if text = "func" then { s.reset with phase := .afterFunc }
  else if text = "\x7b" then { s with braces := s.braces.openBlock }
  else if text = "\x7d" then { s with braces := s.braces.closeBrace }
  else s

/-- Gives up the signature and reads the token outside it. -/
def abandon (s : Go) (text : String) : Go :=
  s.reset.outside text

/-- Feeds a token to the parameter list; once the list closes, goes on to the given phase. -/
def feedParameters (s : Go) (text : String) (next : GoPhase) : Go :=
  let (closed, parameters) := s.signature.parameters.feed text
  if closed then
    { s with
      phase := next
      signature := { s.signature with parameters, parameterCount := parameters.count } }
  else { s with signature := { s.signature with parameters } }

/-- Begins a parameter list with its opening bracket. -/
def beginParameters (s : Go) (text : String) (phase : GoPhase) : Go :=
  let (_, parameters) := s.signature.parameters.feed text
  { s with phase, signature := { s.signature with parameters } }

/-- Reads the token after `func`. -/
def afterFunc (s : Go) (text : String) : Go :=
  if text = "(" then s.beginParameters text .firstGroup
  else if isName text then
    { s with phase := .afterName, signature := { s.signature with name := text } }
  else if text = "\x7b" then s.openBody
  else s.abandon text

/-- Reads the token after a function's name or its type parameters. -/
def afterName (s : Go) (text : String) : Go :=
  if text = "[" then
    { s with phase := .typeParameters, signature := { s.signature with bracketDepth := 1 } }
  else if text = "(" then s.beginParameters text .parameters
  else s.abandon text

/-- Reads a token of the type parameters. -/
def typeParameters (s : Go) (text : String) : Go :=
  if text = "[" then
    { s with signature := { s.signature with bracketDepth := s.signature.bracketDepth + 1 } }
  else if text = "]" then
    let depth := s.signature.bracketDepth - 1
    { s with
      phase := if depth = 0 then .afterName else .typeParameters
      signature := { s.signature with bracketDepth := depth } }
  else s

/-- Reads a token of the results, up to the brace that opens the body. -/
def results (s : Go) (text : String) : Go :=
  let g := s.signature
  if 0 < g.typeBraceDepth then
    if text = "\x7b" then { s with signature := { g with typeBraceDepth := g.typeBraceDepth + 1 } }
    else if text = "\x7d" then
      { s with signature := { g with typeBraceDepth := g.typeBraceDepth - 1 } }
    else s
  else if isTypeLiteral text then { s with signature := { g with typeLiteral := true } }
  else if text = "\x7b" then
    if g.typeLiteral then
      { s with signature := { g with typeLiteral := false, typeBraceDepth := 1 } }
    else if g.bracketDepth = 0 then s.openBody
    else s
  else if text = "(" ∨ text = "[" then
    { s with signature := { g with bracketDepth := g.bracketDepth + 1 } }
  else if (text = ")" ∨ text = "]") ∧ 0 < g.bracketDepth then
    { s with signature := { g with bracketDepth := g.bracketDepth - 1 } }
  else if g.bracketDepth = 0 ∧ isTerminator text then s.abandon text
  else s

/-- Goes on to the results with their first token. -/
def beginResults (s : Go) (text : String) : Go :=
  { s with phase := .results }.results text

/-- Reads the token after the first group: the name of a method, or the results of a literal. -/
def afterFirstGroup (s : Go) (text : String) : Go :=
  if text = "\x7b" then s.openBody
  else if isName text && !isTypeLiteral text then
    { s with phase := .afterCandidate, signature := { s.signature with candidate := text } }
  else s.beginResults text

/-- Reads the token after a name that may be a method's: parameters make it one, and the first
group its receiver. -/
def afterCandidate (s : Go) (text : String) : Go :=
  if text = "(" then
    { s with signature := { s.signature with name := s.signature.candidate, parameters := {} }
      }.beginParameters text .parameters
  else if text = "\x7b" then s.openBody
  else s.beginResults text

/-- Reads a code token. -/
def readCode (s : Go) (text : String) : Go :=
  match s.phase with
  | .outside => s.outside text
  | .afterFunc => s.afterFunc text
  | .afterName => s.afterName text
  | .typeParameters => s.typeParameters text
  | .firstGroup => s.feedParameters text .afterFirstGroup
  | .afterFirstGroup => s.afterFirstGroup text
  | .afterCandidate => s.afterCandidate text
  | .parameters => s.feedParameters text .results
  | .results => s.results text

/-- Whether a line break ends the signature that is being read. -/
def endsAtNewline (s : Go) : Bool :=
  match s.phase with
  | .outside | .firstGroup | .parameters | .typeParameters => false
  | _ => s.signature.bracketDepth == 0 && s.signature.typeBraceDepth == 0

/-- Reads a line break. -/
def readNewline (s : Go) (implicit : Bool) : Go :=
  if !implicit && s.endsAtNewline then s.reset else s

/-- Changes the ledger. -/
def mapLedger (s : Go) (f : Ledger → Ledger) : Go :=
  { s with braces := { s.braces with ledger := f s.braces.ledger } }

/-- Reads a token. A decision counts for the function that is innermost once the token is read. -/
def read (table : DecisionTable) (s : Go) (t : Token) : Go :=
  if t.isNewline then s.readNewline t.implicit
  else if t.isCode then
    let s := s.readCode t.text
    if table.decides t.text then s.mapLedger (·.recordDecisions 1) else s
  else s

/-- Ends the pass. -/
def finish (s : Go) : Go × Option ScopeError :=
  (s, s.braces.openAtEnd?)

/-- A pass that begins on the given line. -/
def start (line : Int) : Go :=
  { signature := { startLine := line }, braces := { ledger := { line } } }

end Go

end Cyclomatic.Recognizer
