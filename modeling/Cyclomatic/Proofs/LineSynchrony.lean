import Mathlib
import Cyclomatic.Proofs.Lexicon.Lines
import Cyclomatic.Proofs.Recognizer.Pass

/-!
# Lines of a pass

A pass over a source text counts lines by the line breaks among its tokens. The ledger is on the line of
each token when it is read, it is never asked to move back, and it ends on the last line of the text.
-/

namespace Cyclomatic

namespace Recognizer

/-- Takes in tokens with a line counter beside the ledger, which is asked to move to the line of the
counter at each line break and may refuse. -/
def runCounted (table : DecisionTable) (r : Recognizer) (line : Int) :
    List Token → Except ScopeError (Recognizer × Int)
  | [] => .ok (r, line)
  | t :: ts =>
    if t.isNewline then do
      let l ← r.ledger.moveTo (line + 1)
      ((r.mapLedger fun _ => l).read table t).runCounted table (line + 1) ts
    else (r.absorb table t).runCounted table line ts

/-- Putting the ledger on the next line is changing it. -/
theorem mapLedger_const (r : Recognizer) (f : Ledger → Ledger) :
    (r.mapLedger fun _ => f r.ledger) = r.mapLedger f := by
  cases r <;> rfl

/-- A counter that begins on the line of the ledger stays there, and no move is refused. -/
theorem runCounted_eq (table : DecisionTable) {r : Recognizer} (hr : r.Sound) (ts : List Token) :
    r.runCounted table r.ledger.line ts =
      .ok (r.run table ts, r.ledger.line + (ts.countP (·.isNewline) : Nat)) := by
  induction ts generalizing r with
  | nil => simp [runCounted]
  | cons t ts ih =>
    have hstep := ih (hr.feed table t)
    rw [ledger_feed_line table hr t] at hstep
    rw [runCounted, run_cons, List.countP_cons]
    cases ht : t.isNewline with
    | true =>
      -- counter and ledger are on one line, so the move is to the next
      rw [ht, feed_of_isNewline table r ht] at hstep
      rw [feed_of_isNewline table r ht, if_pos rfl, Ledger.moveTo_next]
      show ((r.mapLedger fun _ => Ledger.nextLine r.ledger).read table t).runCounted table
        (r.ledger.line + 1) ts = _
      rw [mapLedger_const]
      simp only [Bool.toNat_true, Nat.cast_one] at hstep
      rw [hstep]
      simp only [if_true]
      push_cast
      rw [add_assoc, add_comm (1 : Int)]
    | false =>
      rw [ht, feed_of_not_isNewline table r ht] at hstep
      rw [feed_of_not_isNewline table r ht]
      simpa using hstep

end Recognizer

namespace Analysis

open Recognizer

/-- Before each token of a source text the ledger is on the line that the line breaks so far lead to, and
so on the line of the token. -/
theorem ledger_line_before (language : Language) {source : String} {before after : List Token}
    {t : Token} (h : sourceTokens language source = before ++ t :: after) :
    ((start language).run (.of language) before).ledger.line =
        1 + (before.countP (·.isNewline) : Nat) ∧
      (t.isNewline = false → ((start language).run (.of language) before).ledger.line = t.line) := by
  have hline := ledger_run_line (.of language) (sound_start language 1) before
  rw [ledger_start] at hline
  refine ⟨hline, fun ht => ?_⟩
  rw [hline, line_of_sourceTokens h ht]

/-- A pass over a source text is on the line of each token when it reads it, its line counter never moves
back, and it ends on the last line of the text. -/
theorem pass_keeps_line (language : Language) (source : String) :
    (∀ before t after, sourceTokens language source = before ++ t :: after →
      ((start language).run (.of language) before).ledger.line =
          1 + (before.countP (·.isNewline) : Nat) ∧
        (t.isNewline = false →
          ((start language).run (.of language) before).ledger.line = t.line)) ∧
    (start language).runCounted (.of language) 1 (sourceTokens language source) =
      .ok ((start language).run (.of language) (sourceTokens language source),
        1 + lineBreaks source) ∧
    ((start language).run (.of language) (sourceTokens language source)).ledger.line =
      1 + lineBreaks source := by
  have hsound := sound_start language 1
  refine ⟨fun before t after h => ledger_line_before language h, ?_, ?_⟩
  · have hcounted := runCounted_eq (.of language) hsound (sourceTokens language source)
    rwa [ledger_start, countP_sourceTokens] at hcounted
  · rw [ledger_run_line (.of language) hsound, ledger_start, countP_sourceTokens]

/-- The tokens of a string over two lines and the line break after it. -/
def longString : List Token :=
  [⟨.string, "\"\"\"\n\"\"\"", 1, 0, false⟩, ⟨.newline, "\n", 1, 0, true⟩, ⟨.newline, "\r\n", 2, 3, false⟩]

/-- A name after such a string is read on the third line. -/
theorem pass_keeps_line_longString :
    sourceTokens .python "\"\"\"\n\"\"\"\r\nx" = longString ++ ⟨.code, "x", 3, 0, false⟩ :: [] ∧
      ((start .python).run (.of .python) longString).ledger.line = 3 := by
  have htokens : sourceTokens .python "\"\"\"\n\"\"\"\r\nx" =
      longString ++ ⟨.code, "x", 3, 0, false⟩ :: [] := rfl
  exact ⟨htokens, ((pass_keeps_line .python _).1 _ _ _ htokens).2 rfl⟩

end Analysis

end Cyclomatic
