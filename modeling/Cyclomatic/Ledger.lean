import Cyclomatic.LineSet

/-!
# The ledger of open functions

A ledger follows a pass over a file. It knows the current line, the functions that are open,
innermost first, and the functions that have closed, in closing order. A decision counts for the
innermost open function only; a decision that finds no function open belongs to none.

A token is entered in two steps. It is announced before a recognizer reads it and credited
afterwards, to the function that is innermost then. If reading it closed a function that does not
end before the token's line, the token belongs to the first function that it closed.
-/

namespace Cyclomatic

/-! ## What a ledger holds -/

/-- Why following the scopes of a file failed. -/
inductive ScopeError where
  | lineMovedBack (current target : Int)
  | unclosedBraces (count : Nat)
  | unclosedBrackets (count : Nat)
deriving DecidableEq, Repr

/-- The wording of a scope error. -/
def ScopeError.message : ScopeError → String
  | lineMovedBack current target => s!"Line moved backwards from {current} to {target}"
  | unclosedBraces count => s!"{count} unclosed brace(s) at end of input"
  | unclosedBrackets count => s!"{count} unclosed bracket(s) at end of input"

/-- A function whose end has not been seen. -/
structure Frame where
  name : String
  startLine : Int
  parameterCount : Int
  nestingDepth : Nat
  decisionCount : Int := 0
  tokenCount : Nat := 0
  codeLines : LineSet := .empty

/-- The number of code lines credited to a frame so far. -/
def Frame.nloc (f : Frame) : Nat :=
  f.codeLines.size

/-- The measures of a function that has closed. -/
structure FunctionMeasure where
  name : String
  startLine : Int
  endLine : Int
  ccn : Int
  nloc : Int
  parameterCount : Int
  tokenCount : Int := 0
  nestingDepth : Int := 0
deriving DecidableEq, Repr

/-- A frame with one token more, on the given lines. -/
def Frame.credit (f : Frame) (first : Int) (span : Nat) : Frame :=
  { f with
    tokenCount := f.tokenCount + 1
    codeLines := f.codeLines.insertRun first (span + 1) }

/-- The measures of a frame that closes on the given line. -/
def Frame.measure (f : Frame) (endLine : Int) : FunctionMeasure where
  name := f.name
  startLine := f.startLine
  endLine
  ccn := 1 + f.decisionCount
  nloc := f.nloc
  parameterCount := f.parameterCount
  tokenCount := f.tokenCount
  nestingDepth := f.nestingDepth

/-- The token between its announcement and its credit. -/
inductive PendingToken where
  /-- No token is announced. -/
  | idle
  /-- A token that touches `span + 1` lines from `first` on. -/
  | announced (first : Int) (span : Nat)
  /-- The announced token already belongs to a function that it closed. -/
  | settled
deriving DecidableEq, Repr

/-- The lines of the announced token, if a function that closes on `endLine` reaches the first of
them: then the token belongs to that function. -/
def PendingToken.claimedBy (endLine : Int) : PendingToken → Option (Int × Nat)
  | announced first span => if first ≤ endLine then some (first, span) else none
  | _ => none

/-- The state of a pass over a file. -/
structure Ledger where
  line : Int := 1
  frames : List Frame := []
  closed : Array FunctionMeasure := #[]
  codeLines : LineSet := .empty
  pending : PendingToken := .idle
  /-- The decisions that were counted while no function was open. -/
  strayDecisions : Int := 0

namespace Ledger

/-! ## Reading a ledger -/

/-- The number of open functions. -/
def depth (l : Ledger) : Nat :=
  l.frames.length

/-- Whether a function is open. -/
def inFunction (l : Ledger) : Bool :=
  !l.frames.isEmpty

/-- The innermost open function. -/
def innermost? (l : Ledger) : Option Frame :=
  l.frames.head?

/-- The functions that have closed, in closing order. -/
def functions (l : Ledger) : List FunctionMeasure :=
  l.closed.toList

/-! ## Writing to a ledger -/

/-- Moves to the next line. -/
def nextLine (l : Ledger) : Ledger :=
  { l with line := l.line + 1 }

/-- The name of a function without a name. -/
def anonymous : String :=
  "(anonymous)"

/-- Opens a function inside those that are open. Its signature may have begun on an earlier line;
the code lines since then count for it. -/
def openFunction (l : Ledger) (name : String) (parameterCount : Int := 0)
    (startLine : Option Int := none) : Ledger :=
  let start := min (startLine.getD l.line) l.line
  let frame : Frame :=
    { name := if name.isEmpty then anonymous else name
      startLine := start
      parameterCount
      nestingDepth := l.depth
      codeLines := l.codeLines.within start l.line }
  { l with frames := frame :: l.frames }

/-- Counts decisions for the innermost open function, if there is one. -/
def recordDecisions (l : Ledger) (count : Int := 1) : Ledger :=
  match l.frames with
  | [] => { l with strayDecisions := l.strayDecisions + count }
  | f :: fs => { l with frames := { f with decisionCount := f.decisionCount + count } :: fs }

/-- The number of lines after its first that a token with the given line span touches. -/
def extraLines (lineSpan : Int) : Nat :=
  (max lineSpan 1 - 1).toNat

/-- Announces a token on the current line. -/
def announce (l : Ledger) (lineSpan : Int := 1) : Ledger :=
  { l with pending := .announced l.line (extraLines lineSpan) }

/-- Credits a token to the innermost open function and its lines to the file. -/
def creditInnermost (l : Ledger) (first : Int) (span : Nat) : Ledger :=
  { l with
    codeLines := l.codeLines.insertRun first (span + 1)
    frames := match l.frames with
      | [] => []
      | f :: fs => f.credit first span :: fs }

/-- Credits the announced token, or a token on the current line if none is announced. -/
def credit (l : Ledger) (lineSpan : Int := 1) : Ledger :=
  let idle := { l with pending := .idle }
  match l.pending with
  | .idle => idle.creditInnermost l.line (extraLines lineSpan)
  | .announced first span => idle.creditInnermost first span
  | .settled => idle

/-- Closes the innermost open function, if there is one, on the given line or on the current one,
but never before its first line. -/
def closeFunction (l : Ledger) (endLine : Option Int := none) : Ledger :=
  match l.frames with
  | [] => l
  | f :: rest =>
    let last := max (endLine.getD l.line) f.startLine
    match l.pending.claimedBy last with
    | none => { l with frames := rest, closed := l.closed.push (f.measure last) }
    | some (first, span) =>
      { l with
        frames := rest
        closed := l.closed.push ((f.credit first span).measure last)
        codeLines := l.codeLines.insertRun first (span + 1)
        pending := .settled }

/-- Closes every open function on the current line, innermost first. -/
def closeAll (l : Ledger) : Ledger :=
  l.frames.foldl (fun l _ => l.closeFunction) l

/-! ## Histories -/

/-- An entry in a ledger. -/
inductive Entry where
  | moveTo (line : Int)
  | openFunction (name : String) (parameterCount : Int) (startLine : Option Int)
  | recordDecisions (count : Int)
  | announce (lineSpan : Int)
  | credit (lineSpan : Int)
  | closeFunction (endLine : Option Int)
  | closeAll
deriving DecidableEq, Repr

/-- Something that is done to a ledger and may fail in between. What has been written before it fails
stays written. -/
abbrev Act := EStateM ScopeError Ledger

/-- Moves to a line, which must not lie before the current one. -/
def setLine (line : Int) : Act Unit := do
  let current := (← get).line
  if line < current then throw (.lineMovedBack current line)
  modify fun l => { l with line }

/-- Makes an entry. Only moving to an earlier line is refused. -/
def perform : Entry → Act Unit
  | .moveTo line => setLine line
  | .openFunction name parameterCount startLine =>
    modify (·.openFunction name parameterCount startLine)
  | .recordDecisions count => modify (·.recordDecisions count)
  | .announce lineSpan => modify (·.announce lineSpan)
  | .credit lineSpan => modify (·.credit lineSpan)
  | .closeFunction endLine => modify (·.closeFunction endLine)
  | .closeAll => modify (·.closeAll)

/-- The ledger after an entry, unless it is refused. -/
def enter (l : Ledger) (e : Entry) : Except ScopeError Ledger :=
  match (perform e).run l with
  | .ok _ after => .ok after
  | .error refusal _ => .error refusal

/-- The ledger after a move to a line, unless it is refused. -/
def moveTo (l : Ledger) (line : Int) : Except ScopeError Ledger :=
  l.enter (.moveTo line)

end Ledger

end Cyclomatic
