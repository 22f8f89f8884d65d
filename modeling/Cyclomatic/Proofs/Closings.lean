import Mathlib
import Cyclomatic.Proofs.LogicalLines
import Cyclomatic.Proofs.Recognizer.Endings
import Cyclomatic.Proofs.TokenCredit

/-!
# The lines on which functions close

In a pass over a source text all functions that a token closes end on one line
(`Analysis.endLine_of_mem_closedBy`). All lines so far lie before it, and a token that belongs to a
function that it closes reaches no further than that function (`Analysis.closing_reaches`): among braces
only code closes functions, which stands on one line, and in Python the functions that a line closes end
before it. The end of the text is no different (`Analysis.finish_reaches`).
-/

namespace Cyclomatic.Analysis

open Recognizer

variable {language : Language} {source : String} {before after : List Token} {t : Token}

/-! ## States of a pass over a text -/

/-- The state of the pass before a token or the end. -/
abbrev passBefore (language : Language) (before : List Token) : Recognizer :=
  (start language).run (.of language) before

theorem passBefore_sound (language : Language) (before : List Token) :
    (passBefore language before).Sound :=
  sound_run _ (sound_start language 1) before

theorem passBefore_idle (language : Language) (before : List Token) :
    (passBefore language before).ledger.pending = .idle :=
  pending_run _ (sound_start language 1) (by rw [ledger_start]) before

theorem passBefore_started (language : Language) (before : List Token) :
    (passBefore language before).ledger.Started :=
  started_run _ (sound_start language 1) (by rw [ledger_start]; simp [Ledger.Started]) before

/-! ## Where functions end -/

/-- Where indentation decides, functions end on the last line that was touched. -/
theorem endingLine_python (h : sourceTokens .python source = before ++ after) :
    (passBefore .python before).endingLine = lastTouched before := by
  obtain ⟨s, hrun, hlayout⟩ := exists_followsLayout h
  rw [passBefore, hrun, endingLine, hlayout.lastCodeLine_eq]

/-- Among braces functions end on the present line. -/
theorem endingLine_of_ne_python (hpython : language ≠ .python) (before : List Token) :
    (passBefore language before).endingLine = 1 + (before.countP (·.isNewline) : Nat) := by
  have hne := run_ne_indent (.of language) (start_ne_indent hpython 1) before
  have hending : (passBefore language before).endingLine =
      (passBefore language before).ledger.line := by
    cases hr : passBefore language before with
    | go s => rfl
    | script s => rfl
    | indent s => exact absurd hr (hne s)
  have hline := ledger_run_line (.of language) (sound_start language 1) before
  rw [ledger_start] at hline
  rw [hending, hline]

/-- Functions that close now end after all lines so far, and not after the present line. -/
theorem endingLine_bounds (h : sourceTokens language source = before ++ after)
    (hafter : ∀ t ∈ after.head?, t.isNewline = true → t.implicit = false) :
    lastTouched before ≤ (passBefore language before).endingLine ∧
      (passBefore language before).endingLine ≤ 1 + (before.countP (·.isNewline) : Nat) := by
  have htouched := lastTouched_le h hafter
  by_cases hpython : language = .python
  · subst hpython
    rw [endingLine_python h]
    exact ⟨le_rfl, htouched⟩
  · rw [endingLine_of_ne_python hpython]
    exact ⟨htouched, le_rfl⟩

/-- Moving on moves the line where functions end by one line at most. -/
theorem endingLine_nextLine (r : Recognizer) :
    r.endingLine ≤ (r.mapLedger Ledger.nextLine).endingLine ∧
      (r.mapLedger Ledger.nextLine).endingLine ≤ r.endingLine + 1 := by
  cases r <;> simp [mapLedger, endingLine, Go.mapLedger, Script.mapLedger, Indent.mapLedger,
    Ledger.nextLine]

theorem endingLine_announce (r : Recognizer) (lineSpan : Int) :
    (r.mapLedger (·.announce lineSpan)).endingLine = r.endingLine := by
  cases r <;> rfl

/-- A function that a token closes ends on one line. -/
theorem endLine_of_mem_closedBy {f : FunctionMeasure}
    (hf : f ∈ (passBefore language before).closedBy (.of language) t) :
    f.endLine = (if t.isNewline then (passBefore language before).mapLedger Ledger.nextLine
      else passBefore language before).endingLine := by
  have hsound := passBefore_sound language before
  have hstarted := passBefore_started language before
  generalize passBefore language before = r at *
  have hends : Ledger.EndsOn (if t.isNewline then r.mapLedger Ledger.nextLine else r).endingLine
      r.ledger (r.feed (.of language) t).ledger := by
    cases ht : t.isNewline with
    | true =>
      rw [feed_of_isNewline _ _ ht, if_pos rfl]
      have hnext : (r.mapLedger Ledger.nextLine).ledger.Started := by
        rw [ledger_mapLedger]
        exact fun g hg => (hstarted g hg).trans (by simp [Ledger.nextLine])
      obtain ⟨closing, hfunctions, hclosing⟩ := read_endsOn (.of language) hsound.nextLine hnext t
      exact ⟨closing, by rw [hfunctions, ledger_mapLedger]; rfl, hclosing⟩
    | false =>
      rw [feed_of_not_isNewline _ _ ht, if_neg (by simp), absorb, ledger_mapLedger]
      obtain ⟨closing, hfunctions, hclosing⟩ := read_endsOn (.of language)
        (hsound.announce t.lineSpan) (by rw [ledger_mapLedger]; exact hstarted) t
      rw [endingLine_announce] at hclosing
      exact ⟨closing, by rw [Ledger.credit_functions, hfunctions, ledger_mapLedger]; rfl, hclosing⟩
  obtain ⟨closing, hfunctions, hclosing⟩ := hends
  rw [closedBy_eq _ hfunctions] at hf
  exact hclosing f hf

/-- A Python token closes functions only where a line begins, and they end before it. -/
theorem endLine_lt_of_closes (h : sourceTokens .python source = before ++ t :: after)
    (ht : t.isNewline = false) {f : FunctionMeasure}
    (hf : f ∈ (passBefore .python before).closedBy (.of .python) t) : f.endLine < t.line := by
  obtain ⟨s, hrun, hlayout⟩ := exists_followsLayout h
  have hend := endLine_of_mem_closedBy hf
  rw [ht, if_neg (by simp), passBefore, hrun, endingLine, hlayout.lastCodeLine_eq] at hend
  have hledger := (ledger_line_before .python h).2 ht
  rw [hrun] at hledger
  rw [hend, ← hledger]
  apply hlayout.left_behind
  by_contra hstart
  rw [Bool.not_eq_true] at hstart
  -- inside a line no function closes
  have hsound : (indent s).Sound := by
    rw [← hrun]
    exact passBefore_sound .python before
  have hread := Indent.functions_read (.of .python) (s.mapLedger (·.announce t.lineSpan)) t
    (hsound.announce _) ht
  rw [Indent.beginLine, if_neg (by simp [Indent.mapLedger, hstart])] at hread
  have hfunctions : ((indent s).feed (.of .python) t).ledger.functions =
      (indent s).ledger.functions ++ [] := by
    rw [feed_of_not_isNewline _ _ ht, absorb, ledger_mapLedger, Ledger.credit_functions,
      List.append_nil]
    exact hread
  rw [passBefore, hrun, closedBy_eq _ hfunctions] at hf
  cases hf

/-- A token that closes functions that reach its line stands on one line. -/
theorem lastLine_le_of_closes (h : sourceTokens language source = before ++ t :: after)
    (ht : t.isNewline = false) {f : FunctionMeasure}
    (hf : f ∈ (passBefore language before).closedBy (.of language) t) (hline : t.line ≤ f.endLine) :
    t.lastLine ≤ f.endLine := by
  by_cases hpython : language = .python
  · subst hpython
    have hlt := endLine_lt_of_closes h ht hf
    omega
  · cases hcode : t.isCode with
    | true =>
      rw [Token.lastLine, lineBreaks_of_isCode (mem_of_split h) hcode]
      simpa using hline
    | false =>
      have hne := run_ne_indent (.of language) (start_ne_indent hpython 1) before
      have hfunctions : ((passBefore language before).feed (.of language) t).ledger.functions =
          (passBefore language before).ledger.functions ++ [] := by
        rw [feed_of_not_isNewline _ _ ht, absorb, ledger_mapLedger, Ledger.credit_functions,
          functions_read_of_not_isCode _ _ hcode ht, ledger_mapLedger, List.append_nil]
        · rfl
        · intro s hs
          cases hr : passBefore language before with
          | go s' => rw [hr] at hs; cases hs
          | script s' => rw [hr] at hs; cases hs
          | indent s' => exact hne s' hr
      rw [closedBy_eq _ hfunctions] at hf
      cases hf

/-- A line break that closes functions is no part of a token. -/
theorem implicit_of_closes (ht : t.isNewline = true) {f : FunctionMeasure}
    (hf : f ∈ (passBefore language before).closedBy (.of language) t) : t.implicit = false := by
  rw [Bool.eq_false_iff]
  intro himplicit
  have hfunctions : ((passBefore language before).feed (.of language) t).ledger.functions =
      (passBefore language before).ledger.functions ++ [] := by
    rw [feed_implicit _ _ ht himplicit, ledger_mapLedger, List.append_nil]
    rfl
  rw [closedBy_eq _ hfunctions] at hf
  cases hf

/-- A function that a token closes reaches all lines so far, and those of the token if it reaches the
first of them, and it ends inside the text. -/
theorem closing_reaches (h : sourceTokens language source = before ++ t :: after)
    {f : FunctionMeasure} (hf : f ∈ (passBefore language before).closedBy (.of language) t) :
    lastTouched before ≤ f.endLine ∧
      (t.isNewline = false → t.line ≤ f.endLine → lastTouched (before ++ [t]) ≤ f.endLine) ∧
      f.endLine ≤ 1 + lineBreaks source := by
  have hend := endLine_of_mem_closedBy hf
  have hcount : before.countP (·.isNewline) + t.isNewline.toNat ≤ lineBreaks source := by
    rw [← countP_sourceTokens language source, h, List.countP_append, List.countP_cons]
    cases t.isNewline <;> simp
  obtain ⟨hlower, hupper⟩ := endingLine_bounds h fun u hu hn => by
    obtain rfl := Option.some.inj hu
    exact implicit_of_closes hn hf
  cases ht : t.isNewline with
  | true =>
    rw [ht, if_pos rfl] at hend
    rw [ht, Bool.toNat_true] at hcount
    have hnext := endingLine_nextLine (passBefore language before)
    exact ⟨by omega, fun h => by simp at h, by omega⟩
  | false =>
    rw [ht, if_neg (by simp)] at hend
    refine ⟨by omega, fun _ hline => ?_, by omega⟩
    rw [lastTouched_concat, ht, if_neg (by simp)]
    exact lastLine_le_of_closes h ht hf hline

/-- The functions that the end of the text closes reach all lines and end inside the text. -/
theorem finish_reaches (hsucc : (recognize language source).2 = none) {f : FunctionMeasure}
    (hf : f ∈ (recognize language source).1.ledger.functions.drop
      (passBefore language (sourceTokens language source)).ledger.functions.length) :
    lastTouched (sourceTokens language source) ≤ f.endLine ∧ f.endLine ≤ 1 + lineBreaks source := by
  obtain ⟨closing, hfunctions, hclosing⟩ := finish_endsOn
    (passBefore_sound language (sourceTokens language source))
    (passBefore_started language (sourceTokens language source)) hsucc
  rw [recognize, hfunctions, List.drop_left] at hf
  rw [hclosing f hf, ← countP_sourceTokens language source]
  exact endingLine_bounds (List.append_nil _).symm (by simp)

/-- The functions that a Python token closes end on the last line that was touched before it. -/
theorem endLine_of_python (h : sourceTokens .python source = before ++ t :: after)
    {f : FunctionMeasure} (hf : f ∈ (passBefore .python before).closedBy (.of .python) t) :
    f.endLine = lastTouched before := by
  obtain ⟨s, hrun, hlayout⟩ := exists_followsLayout h
  rw [endLine_of_mem_closedBy hf, passBefore, hrun, ← hlayout.lastCodeLine_eq]
  split <;> rfl

/-- The functions that the end of a Python text closes end on the last line that was touched. -/
theorem endLine_of_finish_python (hsucc : (recognize .python source).2 = none)
    {f : FunctionMeasure} (hf : f ∈ (recognize .python source).1.ledger.functions.drop
      (passBefore .python (sourceTokens .python source)).ledger.functions.length) :
    f.endLine = lastTouched (sourceTokens .python source) := by
  obtain ⟨s, hrun, hlayout⟩ := exists_followsLayout (List.append_nil _).symm
  obtain ⟨closing, hfunctions, hclosing⟩ := finish_endsOn
    (passBefore_sound .python (sourceTokens .python source))
    (passBefore_started .python (sourceTokens .python source)) hsucc
  rw [recognize, hfunctions, List.drop_left] at hf
  rw [hclosing f hf, passBefore, hrun, ← hlayout.lastCodeLine_eq]
  rfl

end Cyclomatic.Analysis
