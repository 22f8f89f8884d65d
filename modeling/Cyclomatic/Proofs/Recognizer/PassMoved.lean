import Mathlib
import Cyclomatic.Proofs.Recognizer.Pass
import Cyclomatic.Proofs.Recognizer.ScriptMoved

/-!
# Passes on other lines

Two passes over the same tokens whose states differ in their lines (`Recognizer.Moved`) keep doing so as
long as the lines that a token goes through lie together in both (`Recognizer.Moved.feed`), and end with
the same result (`Recognizer.Moved.finish`).
-/

namespace Cyclomatic.Recognizer

/-- The state `r'` is that of the other pass. -/
inductive Moved (C : Relocation) : Recognizer → Recognizer → Prop
  | go {s s' : Go} (h : Go.Moved C s s') : Moved C (.go s) (.go s')
  | script [C.Unrestricted] {s s' : Script} (h : Script.Moved C s s') :
      Moved C (.script s) (.script s')
  | indent {s s' : Indent} (h : Indent.Moved C s s') : Moved C (.indent s) (.indent s')

variable {C : Relocation} {r r' : Recognizer} {t : Token}

/-- The ledgers of passes on different lines differ in their lines, in every language. -/
theorem Moved.ledger (h : Moved C r r') : Ledger.Moved C r.ledger r'.ledger := by
  cases h with
  | go h => exact h.braces.ledger
  | script h => exact h.braces.ledger
  | indent h => exact h.ledger

/-- A change of the ledgers that keeps them moved keeps the passes so. -/
theorem Moved.mapLedger (h : Moved C r r') (f f' : Ledger → Ledger)
    (hf : Ledger.Moved C (f r.ledger) (f' r'.ledger)) :
    Moved C (r.mapLedger f) (r'.mapLedger f') := by
  cases h with
  | go h => exact .go (h.mapLedger f f' hf)
  | script h => exact .script (h.mapLedger f f' hf)
  | indent h => exact .indent (h.mapLedger f f' hf)

/-- Any token is read alike, in Python if its lines lie together. -/
theorem Moved.read (h : Moved C r r') (table : DecisionTable)
    (ht : t.isNewline = false → Together C.move r.ledger.line (lineBreaks t.text)) :
    Moved C (r.read table t) (r'.read table t) := by
  cases h with
  | go h => exact .go (h.read table t)
  | script h => exact .script (h.read table t)
  | indent h => exact .indent (h.read table ht)

/-- A line break is taken in alike if the next line follows in both passes. -/
theorem Moved.feed_newline (h : Moved C r r') (table : DecisionTable) (ht : t.isNewline = true)
    (hlines : Together C.move r.ledger.line 1) :
    Moved C (r.feed table t) (r'.feed table t) := by
  rw [feed_of_isNewline table r ht, feed_of_isNewline table r' ht]
  refine (h.mapLedger _ _ (h.ledger.nextLine hlines)).read table fun hn => ?_
  rw [ht] at hn
  cases hn

/-- The ledger with the token announced. -/
theorem Moved.announce (h : Moved C r r')
    (hlines : Together C.move r.ledger.line (lineBreaks t.text)) :
    Moved C (r.mapLedger (·.announce t.lineSpan)) (r'.mapLedger (·.announce t.lineSpan)) := by
  refine h.mapLedger _ _ (h.ledger.announce ?_)
  rwa [Ledger.extraLines_lineSpan]

/-- Any other token is announced, read and credited alike if its lines lie together. -/
theorem Moved.feed_token (h : Moved C r r') (table : DecisionTable) (ht : t.isNewline = false)
    (hlines : Together C.move r.ledger.line (lineBreaks t.text)) :
    Moved C (r.feed table t) (r'.feed table t) := by
  have hread := (h.announce hlines).read (t := t) table fun _ => by rwa [ledger_mapLedger]
  rw [feed_of_not_isNewline table r ht, feed_of_not_isNewline table r' ht]
  exact hread.mapLedger _ _ hread.ledger.credit

/-- Where all lines from now on lie together, any token is taken in alike. -/
theorem Moved.feed (h : Moved C r r') (table : DecisionTable)
    (hlines : ∀ span, Together C.move r.ledger.line span) :
    Moved C (r.feed table t) (r'.feed table t) := by
  cases ht : t.isNewline with
  | true => exact h.feed_newline table ht (hlines 1)
  | false => exact h.feed_token table ht (hlines _)

/-- Where all lines from now on lie together, so do the states. -/
theorem Moved.run (h : Moved C r r') (table : DecisionTable) (hr : r.Sound)
    (hlines : ∀ line, r.ledger.line ≤ line → ∀ span, Together C.move line span) (ts : List Token) :
    Moved C (r.run table ts) (r'.run table ts) := by
  induction ts generalizing r r' with
  | nil => exact h
  | cons t ts ih =>
    refine ih (h.feed table (hlines _ le_rfl)) (hr.feed table t) fun line hline => ?_
    rw [ledger_feed_line table hr] at hline
    exact hlines line (by omega)

/-- Passes on different lines end with the same refusal or none. -/
theorem Moved.finish (h : Moved C r r') :
    r'.finish.2 = r.finish.2 ∧ Moved C r.finish.1 r'.finish.1 := by
  cases h with
  | go h => exact ⟨h.finish.1, .go h.finish.2⟩
  | script h => exact ⟨h.finish.1, .script h.finish.2⟩
  | indent h => exact ⟨h.finish.1, .indent h.finish.2⟩

end Cyclomatic.Recognizer
