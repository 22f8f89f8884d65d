import Cyclomatic.Ledger
import Cyclomatic.Token

/-!
# Braces

The bookkeeping that grammars with braces share: how many braces are open, and which function
bodies are open among them. A block body closes with the brace that opened it. The body of a
function that is a single expression has no brace of its own; it closes at the latest when a brace
closes around it.
-/

namespace Cyclomatic

/-- A recognized signature whose body has not opened. `decisionCount` is the number of decisions in
the signature itself. -/
structure Signature where
  name : String
  parameterCount : Int
  startLine : Int
  decisionCount : Nat := 0
deriving DecidableEq, Repr

/-- An open function body, with the numbers of braces and brackets that were open around it. -/
structure Body where
  braceDepth : Nat
  bracketDepth : Nat := 0
  isExpression : Bool := false
deriving DecidableEq, Repr

/-- The open braces of a pass over a file, the open bodies, innermost first, and the ledger of their
functions. -/
structure Braces where
  depth : Nat := 0
  bodies : List Body := []
  ledger : Ledger := {}

namespace Braces

/-- Opens a function with its signature's decisions. -/
def enterFunction (b : Braces) (f : Signature) : Braces :=
  { b with
    ledger := (b.ledger.openFunction f.name f.parameterCount (some f.startLine)).recordDecisions
      f.decisionCount }

/-- Reads an opening brace that belongs to no function. -/
def openBlock (b : Braces) : Braces :=
  { b with depth := b.depth + 1 }

/-- Reads the opening brace of a function body. -/
def openBody (b : Braces) (f : Signature) : Braces :=
  { b.enterFunction f with
    bodies := { braceDepth := b.depth } :: b.bodies
    depth := b.depth + 1 }

/-- Opens a function whose body is a single expression. -/
def openExpression (b : Braces) (f : Signature) (bracketDepth : Nat) : Braces :=
  { b.enterFunction f with
    bodies := { braceDepth := b.depth, bracketDepth, isExpression := true } :: b.bodies }

/-- Closes the innermost body and its function. -/
def closeBody (b : Braces) : Braces :=
  { b with bodies := b.bodies.tail, ledger := b.ledger.closeFunction }

/-- Closes bodies from the innermost outwards as long as they satisfy `p`. -/
def closeWhile (b : Braces) (p : Body → Bool) : Braces :=
  (b.bodies.takeWhile p).foldl (fun b _ => b.closeBody) b

/-- Closes the expression bodies that were opened among the present braces, inside at least
`brackets` brackets. -/
def closeExpressions (b : Braces) (brackets : Nat) : Braces :=
  b.closeWhile fun body =>
    body.isExpression && body.braceDepth == b.depth && decide (brackets ≤ body.bracketDepth)

/-- Closes the innermost body if it is a block that ends among the present braces. -/
def closeBlock (b : Braces) : Braces :=
  match b.bodies with
  | body :: _ => if !body.isExpression && body.braceDepth == b.depth then b.closeBody else b
  | [] => b

/-- Reads a closing brace, which closes the expressions inside it and then the body that it ends. A
closing brace that matches nothing is passed over. -/
def closeBrace (b : Braces) : Braces :=
  match b.depth with
  | 0 => b
  | depth + 1 =>
    ({ b with depth }.closeWhile fun body =>
      body.isExpression && decide (depth < body.braceDepth)).closeBlock

/-- At the end of the input no brace may be open. -/
def openAtEnd? (b : Braces) : Option ScopeError :=
  if b.depth = 0 then none else some (.unclosedBraces b.depth)

end Braces

end Cyclomatic
