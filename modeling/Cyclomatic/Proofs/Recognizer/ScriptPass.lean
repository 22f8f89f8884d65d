import Mathlib
import Cyclomatic.Proofs.Recognizer.Pass

/-!
# Passes over TypeScript and JavaScript

The two languages share a grammar and a recognizer, and a pass over their tokens stays in it
(`Recognizer.exists_script`).
-/

namespace Cyclomatic.Recognizer

variable {language : Language} {table : DecisionTable} {s : Script} {t : Token}

/-- A language with the grammar of TypeScript. -/
def IsScript (language : Language) : Prop :=
  language = .typescript ∨ language = .javascript

/-- A pass over TypeScript or JavaScript tokens stays one. -/
theorem exists_script (h : IsScript language) (ts : List Token) :
    ∃ s, (start language).run (.of language) ts = script s := by
  induction ts using List.reverseRecOn with
  | nil =>
    rcases h with rfl | rfl
    · exact ⟨_, rfl⟩
    · exact ⟨_, rfl⟩
  | append_singleton ts t ih =>
    obtain ⟨s, hs⟩ := ih
    rw [run_append, hs, run_cons, run_nil, feed]
    split
    · exact ⟨_, rfl⟩
    · exact ⟨_, rfl⟩

/-- A line break is read on the next line. -/
theorem feed_script_newline (ht : t.isNewline = true) : (script s).feed table t =
    script ((s.mapLedger Ledger.nextLine).readNewline t.implicit) := by
  rw [feed_of_isNewline table _ ht]
  show script ((s.mapLedger Ledger.nextLine).read table t) = _
  rw [Script.read, if_pos ht]

/-- Any other token is announced, read, and credited. -/
theorem feed_script_token (ht : t.isNewline = false) : (script s).feed table t =
    script (((s.mapLedger (·.announce t.lineSpan)).read table t).mapLedger (·.credit)) := by
  rw [feed_of_not_isNewline table _ ht]
  rfl

end Cyclomatic.Recognizer
