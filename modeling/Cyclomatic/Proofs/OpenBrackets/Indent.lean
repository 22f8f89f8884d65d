import Mathlib
import Cyclomatic.Proofs.LogicalLines
import Cyclomatic.Proofs.Recognizer.Refusal

/-!
# Open brackets where indentation decides

A pass can break off in three places: the ledger can be asked to move to an earlier line, a token can be
refused, and brackets can be open at the end (`Recognizer.runGuarded`, `Analysis.functionsGuarded`). The
tokens of a text never bring about the first two (`Recognizer.runGuarded_eq`), in any language.

A Python text is measured as a whole if and only if its code tokens leave brackets open
(`Analysis.estimate_iff_open_brackets`). It does not matter for this where in headers, parameters or types
the brackets stand, nor of which kind they are.
-/

namespace Cyclomatic

open Recognizer

/-- Why a pass breaks off. -/
inductive Interruption where
  /-- The ledger is asked to move to an earlier line. -/
  | move (e : ScopeError)
  /-- A token is refused. -/
  | token (t : Token)
  /-- Scopes are open at the end. -/
  | atEnd (e : ScopeError)
deriving DecidableEq, Repr

namespace Recognizer

/-! ## Guarded passes -/

/-- Takes in tokens with a line counter beside the ledger, and breaks off at a move to an earlier line or at
a token that is refused. -/
def runGuarded (table : DecisionTable) (r : Recognizer) (line : Int) :
    List Token → Except Interruption Recognizer
  | [] => .ok r
  | t :: ts =>
    if t.isNewline then
      match r.ledger.moveTo (line + 1) with
      | .ok l => ((r.mapLedger fun _ => l).read table t).runGuarded table (line + 1) ts
      | .error e => .error (.move e)
    else
      match r.offer table t with
      | (r, true) => r.runGuarded table line ts
      | (_, false) => .error (.token t)

/-- A token with a character is absorbed. -/
theorem offer_of_ne_empty (table : DecisionTable) (r : Recognizer) {t : Token} (ht : t.text ≠ "") :
    r.offer table t = (r.absorb table t, true) := by
  cases r with
  | go s => rfl
  | script s => rfl
  | indent s => simp [offer, Indent.refuses, ht]

/-- If the line counter begins on the line of the ledger, no pass over tokens with characters breaks off. -/
theorem runGuarded_eq (table : DecisionTable) {r : Recognizer} (hr : r.Sound) {ts : List Token}
    (hts : ∀ t ∈ ts, t.text ≠ "") : r.runGuarded table r.ledger.line ts = .ok (r.run table ts) := by
  induction ts generalizing r with
  | nil => rfl
  | cons t ts ih =>
    obtain ⟨ht, hts⟩ := List.forall_mem_cons.1 hts
    have hrest := ih (hr.feed table t) hts
    rw [ledger_feed_line table hr t] at hrest
    rw [runGuarded, run_cons]
    cases hn : t.isNewline with
    | true =>
      rw [hn, feed_of_isNewline table r hn] at hrest
      rw [if_pos rfl, Ledger.moveTo_next, feed_of_isNewline table r hn]
      dsimp only
      rw [mapLedger_const]
      exact hrest
    | false =>
      rw [hn, feed_of_not_isNewline table r hn] at hrest
      rw [if_neg (by simp), offer_of_ne_empty table r ht, feed_of_not_isNewline table r hn]
      simpa using hrest

end Recognizer

/-! ## Brackets of the code tokens -/

/-- The number of brackets that the code tokens leave open. A closing bracket closes any other, and one that
matches nothing is passed over. -/
def openBrackets (tokens : List Token) : Nat :=
  (tokens.filter (·.isCode)).foldl
    (fun depth t =>
      if isOpening t.text then depth + 1 else if isClosing t.text then depth - 1 else depth) 0

theorem openBrackets_concat (ts : List Token) (t : Token) :
    openBrackets (ts ++ [t]) = Indent.bracketsAfter (openBrackets ts) t := by
  unfold openBrackets Indent.bracketsAfter
  rw [List.filter_append, List.foldl_append]
  cases ht : t.isCode <;> simp [ht]

/-- The brackets that are followed along the logical lines are those of the code tokens. -/
theorem LineState.brackets_of (ts : List Token) : (LineState.of ts).brackets = openBrackets ts := by
  induction ts using List.reverseRecOn with
  | nil => rfl
  | append_singleton ts t ih =>
    rw [LineState.of_concat, LineState.step, openBrackets_concat, ← ih]
    cases ht : t.isNewline with
    | true =>
      rw [if_pos rfl, Indent.bracketsAfter, Token.isCode_of_isNewline ht]
      rfl
    | false => rfl

namespace Analysis

/-- The functions of a text, unless the pass over it breaks off. -/
def functionsGuarded (language : Language) (source : String) :
    Except Interruption (List FunctionMeasure) := do
  let r ← (start language).runGuarded (.of language) 1 (sourceTokens language source)
  match r.finish with
  | (r, none) => .ok r.ledger.closeAll.functions
  | (_, some e) => .error (.atEnd e)

/-- A pass over a text can break off at its end only. -/
theorem functionsGuarded_eq (language : Language) (filename source : String) :
    functionsGuarded language source =
      ((byFunction language filename source).map (·.functions)).mapError .atEnd := by
  have htexts : ∀ t ∈ sourceTokens language source, t.text ≠ "" := by
    intro t ht
    exact ne_empty_of_mem_sourceTokens ht
  have hguarded := runGuarded_eq (.of language) (sound_start language 1) htexts
  rw [ledger_start] at hguarded
  rw [functionsGuarded, hguarded, byFunction, recognize]
  dsimp only [bind, Except.bind]
  rcases ((start language).run (.of language) (sourceTokens language source)).finish with ⟨r, _ | e⟩
  · rfl
  · rfl

/-- The end of a Python text looks at the brackets that its code tokens leave open. -/
theorem recognize_error_indent (source : String) :
    (recognize .python source).2 =
      if openBrackets (sourceTokens .python source) = 0 then none
      else some (.unclosedBrackets (openBrackets (sourceTokens .python source))) := by
  obtain ⟨s, hrun, hlayout⟩ :=
    exists_followsLayout (List.append_nil (sourceTokens .python source)).symm
  have hdepth : s.bracketDepth = openBrackets (sourceTokens .python source) := by
    rw [hlayout.bracketDepth_eq, LineState.brackets_of]
  have hheader : s.releaseHeader.bracketDepth = s.bracketDepth := rfl
  rw [recognize, hrun, ← hdepth]
  show s.finish.2 = _
  unfold Indent.finish
  dsimp only
  rw [hheader]
  by_cases h : s.bracketDepth = 0
  · rw [if_neg (Nat.not_lt.2 (Nat.le_of_eq h)), if_pos h]
  · rw [if_pos (Nat.pos_of_ne_zero h), if_neg h]

/-- A Python text is measured as a whole if and only if its code tokens leave brackets open. Otherwise the
pass over it does not break off, and it is measured by the functions that the pass finds. -/
theorem estimate_iff_open_brackets (filename source : String) :
    ((ofSource .python filename source).1.mode = .aggregate ↔
      0 < openBrackets (sourceTokens .python source)) ∧
    functionsGuarded .python source =
      if openBrackets (sourceTokens .python source) = 0 then
        .ok (ofSource .python filename source).1.functions
      else .error (.atEnd (.unclosedBrackets (openBrackets (sourceTokens .python source)))) := by
  have herror := recognize_error_indent source
  rw [functionsGuarded_eq .python filename source]
  by_cases h : openBrackets (sourceTokens .python source) = 0
  · rw [if_pos h] at herror ⊢
    obtain ⟨a, ha, hmode⟩ := exists_byFunction herror filename
    have hof : ofSource .python filename source = (a, none) := by
      rw [ofSource, ha]
    rw [hof, ha, hmode, h]
    exact ⟨by simp, rfl⟩
  · rw [if_neg h] at herror ⊢
    rw [ofSource_of_error herror, byFunction_of_error herror]
    exact ⟨iff_of_true rfl (Nat.pos_of_ne_zero h), rfl⟩

end Analysis

end Cyclomatic
