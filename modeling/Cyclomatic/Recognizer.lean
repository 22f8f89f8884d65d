import Cyclomatic.Recognizer.Go
import Cyclomatic.Recognizer.Script
import Cyclomatic.Recognizer.Indent

/-!
# Recognizers

A recognizer reads the significant tokens of a file one by one, without looking ahead, and enters
the functions that it finds in a ledger. There is one per grammar.
-/

namespace Cyclomatic

/-- The state of a pass over a file, in one of the grammars. -/
inductive Recognizer where
  | go (state : Recognizer.Go)
  | script (state : Recognizer.Script)
  | indent (state : Recognizer.Indent)

namespace Recognizer

/-- A fresh recognizer for a language. -/
def start (language : Language) (line : Int := 1) : Recognizer :=
  match language with
  | .go => .go (Go.start line)
  | .typescript | .javascript => .script (Script.start line)
  | .python => .indent (Indent.start line)

/-- The ledger of the pass. -/
def ledger : Recognizer → Ledger
  | go s => s.braces.ledger
  | script s => s.braces.ledger
  | indent s => s.ledger

/-- Changes the ledger. -/
def mapLedger (f : Ledger → Ledger) : Recognizer → Recognizer
  | go s => go (s.mapLedger f)
  | script s => script (s.mapLedger f)
  | indent s => indent (s.mapLedger f)

/-- Reads a token; `table` says which tokens are decisions. -/
def read (table : DecisionTable) (t : Token) : Recognizer → Recognizer
  | go s => go (s.read table t)
  | script s => script (s.read table t)
  | indent s => indent (s.read table t)

/-- Ends the pass. -/
def finish : Recognizer → Recognizer × Option ScopeError
  | go s => (go s.finish.1, s.finish.2)
  | script s => (script s.finish.1, s.finish.2)
  | indent s => (indent s.finish.1, s.finish.2)

/-- Announces a token, reads it and credits it. -/
def absorb (table : DecisionTable) (r : Recognizer) (t : Token) : Recognizer :=
  ((r.mapLedger (·.announce t.lineSpan)).read table t).mapLedger (·.credit)

/-- Takes a token in: a line break moves the ledger to the next line, any other token is
absorbed. -/
def feed (table : DecisionTable) (r : Recognizer) (t : Token) : Recognizer :=
  if t.isNewline then (r.mapLedger Ledger.nextLine).read table t
  else r.absorb table t

/-- Absorbs a token that need not come from a text, and tells whether that can be done. A token that
is refused has been announced, and lines and brackets are followed up to it. -/
def offer (table : DecisionTable) (r : Recognizer) (t : Token) : Recognizer × Bool :=
  match r with
  | indent s =>
    if s.refuses t then
      (indent ((s.mapLedger (·.announce t.lineSpan)).advance t), false)
    else (r.absorb table t, true)
  | r => (r.absorb table t, true)

/-- Takes in a token stream. -/
def run (table : DecisionTable) (r : Recognizer) (tokens : List Token) : Recognizer :=
  tokens.foldl (feed table) r

end Recognizer

end Cyclomatic
