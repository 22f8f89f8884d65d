import Cyclomatic.Recognizer.Braces
import Cyclomatic.DecisionTable
import Cyclomatic.Text.CharClass

/-!
# Functions of TypeScript and JavaScript

The recognizer finds function declarations and expressions, methods `name(params) {`, and arrow
functions with a block or a single expression as body. A function without a name of its own takes
the nearest `name =` or `name:` before it.

A bracket group may turn out to be the parameters of a function that has not begun, so the decisions
inside it wait on the group until the token after it tells.
-/

namespace Cyclomatic.Recognizer

open Text

/-! ## State -/

/-- An open bracket, or one that has just closed. -/
structure Group where
  /-- The name in front of a callable group. -/
  opener : String := ""
  /-- Whether the group can be the parameters of a function. -/
  isCallable : Bool := false
  /-- Whether the group is the head of a control statement. -/
  isControl : Bool := false
  startLine : Int
  braceDepth : Nat
  isParenthesis : Bool := true
  /-- The number of entries that have ended. -/
  count : Nat := 0
  /-- Whether the current entry holds a token. -/
  entryBegun : Bool := false
  /-- The decisions that wait on the group. -/
  decisions : Nat := 0
deriving DecidableEq, Repr

/-- Ends the current entry, which counts if it holds a token. -/
def Group.endEntry (g : Group) : Group :=
  { g with count := if g.entryBegun then g.count + 1 else g.count, entryBegun := false }

/-- What the next token belongs to. -/
inductive ScriptPhase where
  /-- Ordinary code. -/
  | statement
  /-- The head of a function after the keyword, up to its parameters. -/
  | functionHead (name : String) (line : Int)
  /-- The type parameters of a function, inside `depth` angle brackets. -/
  | typeParameters (name : String) (line : Int) (depth : Nat)
  /-- A return type after the parameters `group`, inside `depth` brackets, of which `tokens` tokens
  have been read. -/
  | returnType (group : Group) (depth tokens : Nat)
  /-- The first token after an arrow. -/
  | arrowBody (signature : Signature)
deriving DecidableEq, Repr

/-- The state of a pass over TypeScript or JavaScript tokens. -/
structure Script where
  phase : ScriptPhase := .statement
  /-- The open groups, innermost first. -/
  groups : List Group := []
  /-- The parenthesis that the last token closed. -/
  closedGroup : Option Group := none
  /-- The name that an anonymous function would take. -/
  assignedName : String := ""
  /-- Whether a declaration has fixed that name. -/
  nameLocked : Bool := false
  /-- Whether the last token was a declaring keyword. -/
  declaring : Bool := false
  /-- Whether the last token was a question mark whose meaning is open. -/
  question : Bool := false
  /-- The conditional operators that wait for their colon. -/
  ternaries : Nat := 0
  /-- Whether a `case` waits for its colon. -/
  inCase : Bool := false
  /-- The text of the last token, if it was code. -/
  previous : Option String := none
  braces : Braces := {}

namespace Script

/-! ## Words -/

/-- A name begins with a letter, an underscore or a dollar sign. -/
def isName (text : String) : Bool :=
  startsName ['_', '$'] text

/-- The keywords whose parentheses are the head of a control statement. -/
def controlKeywords : List String :=
  ["if", "for", "while", "switch", "catch", "with"]

/-- The words that can stand before a parenthesis without naming what is called. -/
def nonCallable : List String :=
  controlKeywords ++
  ["return", "typeof", "await", "new", "function", "else", "do", "in", "of",
   "instanceof", "void", "delete", "yield", "async", "super", "import",
   "throw", "case", "let", "const", "var", "extends", "as", "satisfies",
   "keyof", "export", "default"]

/-- The keywords that declare a variable. -/
def isDeclaring (text : String) : Bool :=
  ["const", "let", "var"].contains text

/-- The tokens that make the question mark before them an optional marker. -/
def marksOptional (text : String) : Bool :=
  [":", ",", ")", "=", ";"].contains text

/-! ## Registers -/

/-- The current line. -/
def line (s : Script) : Int :=
  s.braces.ledger.line

/-- Changes the ledger. -/
def mapLedger (s : Script) (f : Ledger → Ledger) : Script :=
  { s with braces := { s.braces with ledger := f s.braces.ledger } }

/-- Whether the last token was a name. -/
def followsName (s : Script) : Bool :=
  s.previous.any isName

/-- Whether a name at this point can be given to a function: not among parameters or arguments. -/
def canName (s : Script) : Bool :=
  match s.groups with
  | [] => true
  | g :: _ => decide (g.braceDepth < s.braces.depth)

/-- Forgets the name that an anonymous function would take. -/
def forgetName (s : Script) : Script :=
  { s with assignedName := "", nameLocked := false }

/-- Takes the name before the current token, where it can be given and none is fixed. -/
def takeName (s : Script) : Script :=
  match s.previous with
  | some name =>
    if isName name && s.canName && !s.nameLocked then { s with assignedName := name } else s
  | none => s

/-- Marks the current entry of the innermost group as begun. -/
def beginEntry (s : Script) : Script :=
  match s.groups with
  | [] => s
  | g :: gs => { s with groups := { g with entryBegun := true } :: gs }

/-- Whether the innermost body is an expression that began inside all open groups, so that the
decisions of this place are its own. -/
def inExpression (s : Script) : Bool :=
  match s.braces.bodies with
  | [] => false
  | body :: _ =>
    body.isExpression && body.braceDepth == s.braces.depth &&
      decide (s.groups.length ≤ body.bracketDepth)

/-- Counts decisions. Directly inside a group they wait on the group; elsewhere they belong to the
innermost open function. -/
def record (s : Script) (count : Nat) : Script :=
  match s.groups with
  | g :: gs =>
    if g.braceDepth == s.braces.depth && !s.inExpression then
      { s with groups := { g with decisions := g.decisions + count } :: gs }
    else s.mapLedger (·.recordDecisions count)
  | [] => s.mapLedger (·.recordDecisions count)

/-- Hands the decisions that waited on a group to its surroundings. -/
def release (s : Script) (g : Group) : Script :=
  s.record g.decisions

/-- Closes the expression bodies that began inside at least `brackets` groups. -/
def closeExpressions (s : Script) (brackets : Nat) : Script :=
  { s with braces := s.braces.closeExpressions brackets }

/-! ## Brackets -/

/-- Opens a group. -/
def pushGroup (s : Script) (g : Group) : Script :=
  { s.beginEntry with groups := g :: s.beginEntry.groups }

/-- Opens the parameters of a function with the keyword `function` on the given line. -/
def openParameters (s : Script) (name : String) (functionLine : Int) : Script :=
  { s with assignedName := "" }.pushGroup
    { opener := if name.isEmpty then s.assignedName else name
      isCallable := true
      startLine := functionLine
      braceDepth := s.braces.depth }

/-- Opens a parenthesis. After a name it is a call or the parameters of a method. -/
def openParenthesis (s : Script) : Script :=
  let group : Group := { startLine := s.line, braceDepth := s.braces.depth }
  match s.previous with
  | some name =>
    if isName name && !nonCallable.contains name then
      s.forgetName.pushGroup { group with opener := name, isCallable := true }
    else s.pushGroup { group with isControl := controlKeywords.contains name }
  | none => s.pushGroup group

/-- Opens a square bracket. -/
def openSquare (s : Script) : Script :=
  s.pushGroup { startLine := s.line, braceDepth := s.braces.depth, isParenthesis := false }

/-- Reads a closing bracket. The decisions of a parenthesis wait for the next token. -/
def closeGroup (s : Script) (text : String) : Script :=
  match s.groups with
  | [] => s
  | g :: gs =>
    let g := g.endEntry
    let s := { s with groups := gs }.closeExpressions (gs.length + 1)
    if text = ")" ∧ g.isParenthesis then { s with closedGroup := some g } else s.release g

/-! ## Functions -/

/-- Reads an opening brace, which opens the body of a function right after its parameters. -/
def openBrace (s : Script) (closed : Option Group) : Script :=
  let s := s.beginEntry
  match closed with
  | some g =>
    if g.isCallable then
      { s with braces := s.braces.openBody ⟨g.opener, g.count, g.startLine, g.decisions⟩ }.forgetName
    else
      let s := s.release g
      { s with braces := s.braces.openBlock }.forgetName
  | none => { s with braces := s.braces.openBlock }.forgetName

/-- Reads an arrow. Its parameters are the group before it or a single name. -/
def startArrow (s : Script) (closed : Option Group) : Script :=
  let signature : Signature :=
    match closed with
    | some g => ⟨s.assignedName, g.count, g.startLine, g.decisions⟩
    | none => ⟨s.assignedName, if s.followsName then 1 else 0, s.line, 0⟩
  { s.forgetName with phase := .arrowBody signature }

/-! ## Punctuation -/

/-- Reads a colon: the end of a `case`, the middle of a conditional, the start of a return type, or
the mark of a named member. -/
def readColon (s : Script) (closed : Option Group) : Script :=
  let s := s.beginEntry
  match closed with
  | some g =>
    let waits := s.inCase || decide (0 < s.ternaries) || g.isControl
    let s := if waits then s.release g else s
    if s.inCase then { s with inCase := false }
    else if 0 < s.ternaries then { s with ternaries := s.ternaries - 1 }
    else if g.isControl then s.takeName
    else { s with phase := .returnType g 0 0 }
  | none =>
    if s.inCase then { s with inCase := false }
    else if 0 < s.ternaries then { s with ternaries := s.ternaries - 1 }
    else s.takeName

/-- Reads a comma, which ends an entry of the innermost group if it stands directly inside it. -/
def readComma (s : Script) : Script :=
  let groups :=
    match s.groups with
    | [] => []
    | g :: gs => if g.braceDepth = s.braces.depth then g.endEntry :: gs else g :: gs
  let s := { s with groups }.closeExpressions groups.length
  if s.canName then s.forgetName else s

/-- Reads a semicolon, which ends a statement. -/
def readSemicolon (s : Script) : Script :=
  { s.closeExpressions s.groups.length with ternaries := 0, inCase := false }.forgetName

/-! ## Reading -/

/-- Gives the name after a declaring keyword to the function that may follow. -/
def declare (s : Script) (text : String) : Script :=
  if s.declaring then
    if isName text then { s with declaring := false, assignedName := text, nameLocked := true }
    else { s with declaring := false }
  else s

/-- Reads a token of ordinary code; `closed` is the parenthesis that the token before it closed. -/
def readStatement (s : Script) (closed : Option Group) (t : Token) : Script :=
  let text := t.text
  if !t.isCode then { s.beginEntry with declaring := false }
  else if text = "function" then { s with phase := .functionHead "" s.line }
  else
    let s := s.declare text
    if isDeclaring text then { s.beginEntry with declaring := true }
    else if text = "(" then s.openParenthesis
    else if text = "[" then s.openSquare
    else if text = ")" ∨ text = "]" then s.closeGroup text
    else if text = "\x7b" then s.openBrace closed
    else if text = "\x7d" then { s with braces := s.braces.closeBrace }.forgetName
    else if text = "=>" then s.startArrow closed
    else if text = ":" then s.readColon closed
    else if text = "=" then s.beginEntry.takeName
    else if text = "," then s.readComma
    else if text = ";" then s.readSemicolon
    else if text = "case" then { s.beginEntry with inCase := true }
    else s.beginEntry

/-- Reads a token after the keyword `function`. -/
def readFunctionHead (s : Script) (name : String) (functionLine : Int) (t : Token) : Script :=
  if !t.isCode then { s with phase := .statement }.readStatement none t
  else if t.text = "*" then s
  else if t.text = "<" then { s with phase := .typeParameters name functionLine 1 }
  else if isName t.text && name.isEmpty then { s with phase := .functionHead t.text functionLine }
  else if t.text = "(" then
    { s with phase := .statement, declaring := false }.openParameters name functionLine
  else { s with phase := .statement }.readStatement none t

/-- Reads a token of a function's type parameters. -/
def readTypeParameters (s : Script) (name : String) (functionLine : Int) (depth : Nat)
    (text : String) : Script :=
  if text = "<" then { s with phase := .typeParameters name functionLine (depth + 1) }
  else if text = ">" then
    if depth - 1 = 0 then { s with phase := .functionHead name functionLine }
    else { s with phase := .typeParameters name functionLine (depth - 1) }
  else s

/-- The tokens that show that what looked like a return type was none. -/
def endsType (text : String) : Bool :=
  [";", ",", ")", "]", "\x7d", "="].contains text

/-- Reads a token of a return type, which the body, an arrow or the end of a statement ends. -/
def readReturnType (s : Script) (g : Group) (depth tokens : Nat) (t : Token) : Script :=
  let ended := { s with phase := .statement }
  if depth = 0 ∧ t.isCode ∧ t.text = "\x7b" then ended.readStatement (some g) t
  else if depth = 0 ∧ t.isCode ∧ t.text = "=>" then ended.startArrow (some g)
  else if depth = 0 ∧ t.isCode ∧ endsType t.text then (ended.release g).readStatement none t
  else if t.isCode ∧ ["(", "[", "<", "\x7b"].contains t.text then
    { s with phase := .returnType g (depth + 1) (tokens + 1) }
  else if t.isCode ∧ [")", "]", ">", "\x7d"].contains t.text then
    { s with phase := .returnType g (depth - 1) (tokens + 1) }
  else { s with phase := .returnType g depth (tokens + 1) }

/-- Reads the first token after an arrow: a brace opens a block, anything else an expression. -/
def readArrowBody (s : Script) (f : Signature) (t : Token) : Script :=
  let s := { s with phase := .statement }
  if t.isCode ∧ t.text = "\x7b" then
    let s := s.beginEntry
    { s with braces := s.braces.openBody f }
  else
    { s with braces := s.braces.openExpression f s.groups.length }.readStatement none t

/-- Settles the question mark before a token: unless the token marks it as optional, it was the
first half of a conditional, and so a decision. -/
def settleQuestion (s : Script) (t : Token) : Script :=
  if s.question then
    if t.isCode && marksOptional t.text then { s with question := false }
    else
      let s := { s with question := false }.record 1
      { s with ternaries := s.ternaries + 1 }
  else s

/-- Whether a token can still make the parenthesis before it the parameters of a function. -/
def keepsSignature (t : Token) : Bool :=
  t.isCode && ["\x7b", "=>", ":"].contains t.text

/-- Reads a token in the present phase. -/
def readPhase (s : Script) (closed : Option Group) (t : Token) : Script :=
  match s.phase with
  | .statement => s.readStatement closed t
  | .functionHead name functionLine => s.readFunctionHead name functionLine t
  | .typeParameters name functionLine depth => s.readTypeParameters name functionLine depth t.text
  | .returnType g depth tokens => s.readReturnType g depth tokens t
  | .arrowBody f => s.readArrowBody f t

/-- Reads a token that is no line break. -/
def readToken (s : Script) (t : Token) : Script :=
  let s := s.settleQuestion t
  match s.closedGroup with
  | none => s.readPhase none t
  | some g =>
    let s := { s with closedGroup := none }
    if keepsSignature t then s.readPhase (some g) t
    else (s.release g).readPhase (some { g with decisions := 0 }) t

/-- Ends a line: outside brackets that ends expression bodies and lets go of a fixed name. -/
def endLine (s : Script) : Script :=
  if s.groups.isEmpty then { s with nameLocked := false }.closeExpressions 0 else s

/-- Reads a line break, which also ends a return type that has begun. Between an arrow and its body
it means nothing. -/
def readNewline (s : Script) (implicit : Bool) : Script :=
  if implicit then s
  else
    match s.phase with
    | .arrowBody _ => s
    | .returnType g 0 (_ + 1) => ({ s with phase := .statement }.release g).endLine
    | _ => s.endLine

/-- Counts a decision token. A question mark waits for the next token to tell what it is. -/
def countDecision (s : Script) (text : String) : Script :=
  if text = "?" then { s with question := true } else s.record 1

/-- Reads a token. -/
def read (table : DecisionTable) (s : Script) (t : Token) : Script :=
  if t.isNewline then s.readNewline t.implicit
  else
    let s := s.readToken t
    let s := if t.isCode && table.decides t.text then s.countDecision t.text else s
    { s with previous := if t.isCode then some t.text else none }

/-! ## The end -/

/-- Releases the decisions that still wait on a closed group. -/
def releaseClosed (s : Script) : Script :=
  match s.closedGroup with
  | some g => { s.release g with closedGroup := none }
  | none => s

/-- Releases the decisions that still wait on a signature with a return type. -/
def releaseReturnType (s : Script) : Script :=
  match s.phase with
  | .returnType g depth tokens =>
    { s.release g with phase := .returnType { g with decisions := 0 } depth tokens }
  | _ => s

/-- Ends the pass. -/
def finish (s : Script) : Script × Option ScopeError :=
  let s := s.releaseClosed.releaseReturnType.closeExpressions 0
  (s, if s.groups.isEmpty then s.braces.openAtEnd? else some (.unclosedBrackets s.groups.length))

/-- A pass that begins on the given line. -/
def start (line : Int) : Script :=
  { braces := { ledger := { line } } }

end Script

end Cyclomatic.Recognizer
