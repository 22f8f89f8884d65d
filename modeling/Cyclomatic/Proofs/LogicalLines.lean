import Mathlib
import Cyclomatic.Proofs.Lexicon.Touched
import Cyclomatic.Proofs.LineSynchrony
import Cyclomatic.Proofs.Recognizer.Header

/-!
# Logical lines

A logical line of Python begins with the first token of the text and with the first token after a line
break outside all brackets. A line break inside a token ends no logical line. This is said of the tokens
alone (`LineState`, `beginsLine`), without a recognizer.

The recognizer follows the logical lines (`Analysis.exists_followsLayout`): it is at the start of a line
exactly where a logical line begins, and its last code line is the last line that the tokens so far touch.
Where a logical line begins, that line has been left (`Indent.FollowsLayout.left_behind`).
-/

namespace Cyclomatic

open Recognizer

/-- How logical lines stand between two tokens: the open brackets, whether the next token begins a line,
and the column where the present line has begun. -/
structure LineState where
  brackets : Nat := 0
  fresh : Bool := true
  indent : Int := 0
deriving DecidableEq, Repr

namespace LineState

/-- Takes in a token. -/
def step (s : LineState) (t : Token) : LineState :=
  if t.isNewline then { s with fresh := s.fresh || (!t.implicit && s.brackets == 0) }
  else ⟨Indent.bracketsAfter s.brackets t, false, if s.fresh then t.column else s.indent⟩

/-- How logical lines stand after tokens. -/
def of (tokens : List Token) : LineState :=
  tokens.foldl step {}

theorem of_concat (ts : List Token) (t : Token) : of (ts ++ [t]) = (of ts).step t := by
  simp [of]

end LineState

/-- Whether the token at a place begins a logical line. -/
def beginsLine (tokens : List Token) (place : Nat) : Bool :=
  tokens[place]?.any fun t => !t.isNewline && (LineState.of (tokens.take place)).fresh

/-- The column of the token at a place. -/
def columnAt (tokens : List Token) (place : Nat) : Int :=
  tokens[place]?.elim 0 (·.column)

/-- The column where the logical line of the token at a place begins. -/
def indentAt (tokens : List Token) (place : Nat) : Int :=
  (LineState.of (tokens.take (place + 1))).indent

section

variable {tokens before after : List Token} {t : Token}

/-- The token after some others begins a logical line if it is no line break and the line is fresh. -/
theorem beginsLine_split (h : tokens = before ++ t :: after) :
    beginsLine tokens before.length = (!t.isNewline && (LineState.of before).fresh) := by
  simp [h, beginsLine]

theorem columnAt_split (h : tokens = before ++ t :: after) :
    columnAt tokens before.length = t.column := by
  simp [h, columnAt]

theorem indentAt_split (h : tokens = before ++ t :: after) :
    indentAt tokens before.length = ((LineState.of before).step t).indent := by
  have htake : tokens.take (before.length + 1) = before ++ [t] := by
    rw [h, List.take_length_add_append]
    rfl
  rw [indentAt, htake, LineState.of_concat]

/-- Inside a logical line there is a token that has begun it, at its column. -/
theorem exists_beginsLine (h : tokens = before ++ after) (hfresh : (LineState.of before).fresh = false) :
    ∃ head, head < before.length ∧ beginsLine tokens head = true ∧
      columnAt tokens head = (LineState.of before).indent ∧
      ∀ j, head < j → j < before.length → beginsLine tokens j = false := by
  refine forall_beginning (P := fun before => (LineState.of before).fresh = false →
    ∃ head, head < before.length ∧ beginsLine tokens head = true ∧
      columnAt tokens head = (LineState.of before).indent ∧
      ∀ j, head < j → j < before.length → beginsLine tokens j = false) ?_ ?_ h hfresh
  · intro hfresh
    cases hfresh
  · intro before t after hsplit ih hfresh
    have hbegins := beginsLine_split hsplit
    have hcolumn := columnAt_split hsplit
    rw [LineState.of_concat, LineState.step] at hfresh ⊢
    rw [List.length_append, List.length_singleton]
    -- the line is the same, unless this token begins it
    have hsame (hold : (LineState.of before).fresh = false) : ∃ head, head < before.length + 1 ∧
        beginsLine tokens head = true ∧ columnAt tokens head = (LineState.of before).indent ∧
        ∀ j, head < j → j < before.length + 1 → beginsLine tokens j = false := by
      obtain ⟨head, hlt, hhead, hindent, hnone⟩ := ih hold
      refine ⟨head, by omega, hhead, hindent, fun j hj hj' => ?_⟩
      rcases Nat.lt_succ_iff_lt_or_eq.1 hj' with hj' | rfl
      · exact hnone j hj hj'
      · rw [hbegins, hold, Bool.and_false]
    cases ht : t.isNewline with
    | true =>
      rw [ht, if_pos rfl] at hfresh
      exact hsame (Bool.or_eq_false_iff.1 hfresh).1
    | false =>
      rw [if_neg (by simp)]
      cases hold : (LineState.of before).fresh with
      | false => exact hsame hold
      | true =>
        refine ⟨before.length, by omega, by rw [hbegins, hold, ht]; rfl, hcolumn, ?_⟩
        intro j hj hj'
        omega

end

namespace Recognizer

/-! ## Grammars -/

/-- A token of Python is taken in by the recognizer of Python. -/
theorem feed_indent (table : DecisionTable) (s : Indent) (t : Token) :
    (indent s).feed table t = indent
      (if t.isNewline then (s.mapLedger Ledger.nextLine).read table t
      else ((s.mapLedger (·.announce t.lineSpan)).read table t).mapLedger (·.credit)) := by
  unfold feed
  split <;> rfl

/-- No other recognizer becomes one of Python. -/
theorem run_ne_indent (table : DecisionTable) {r : Recognizer} (hr : ∀ s, r ≠ indent s)
    (ts : List Token) : ∀ s, r.run table ts ≠ indent s := by
  induction ts generalizing r with
  | nil => exact hr
  | cons t ts ih =>
    apply ih
    intro s
    unfold feed
    cases r with
    | go s => split <;> exact fun h => by cases h
    | script s => split <;> exact fun h => by cases h
    | indent s => exact absurd rfl (hr s)

theorem start_ne_indent {language : Language} (h : language ≠ .python) (line : Int) :
    ∀ s, start language line ≠ indent s := by
  intro s
  cases language with
  | go => exact fun h => by cases h
  | typescript => exact fun h => by cases h
  | javascript => exact fun h => by cases h
  | python => exact absurd rfl h

/-! ## States that follow the lines -/

namespace Indent

/-- What a state of a pass knows of the lines of the tokens so far. -/
structure FollowsLayout (s : Indent) (before : List Token) : Prop where
  bracketDepth_eq : s.bracketDepth = (LineState.of before).brackets
  atLineStart_eq : s.atLineStart = (LineState.of before).fresh
  lineIndent_eq : s.lineIndent = (LineState.of before).indent
  lastCodeLine_eq : s.lastCodeLine = lastTouched before
  left_behind : s.atLineStart = true → lastTouched before < s.ledger.line

variable {s : Indent} {before : List Token} {t : Token}

/-- A line break may begin a logical line. -/
theorem FollowsLayout.readNewline (h : s.FollowsLayout before) (table : DecisionTable)
    (ht : t.isNewline = true) (htouched : t.implicit = false → lastTouched before ≤ s.ledger.line) :
    ((s.mapLedger Ledger.nextLine).read table t).FollowsLayout (before ++ [t]) := by
  rw [read, if_pos ht]
  obtain ⟨hstart, hbrackets, hlast, _⟩ :=
    readNewline_frame (s.mapLedger Ledger.nextLine) t.implicit
  obtain ⟨hindent, _⟩ := readNewline_header (s.mapLedger Ledger.nextLine) t.implicit
  obtain ⟨k, hsettles, _⟩ := readNewline_settles true (s.mapLedger Ledger.nextLine) t.implicit
  have hline : ((s.mapLedger Ledger.nextLine).readNewline t.implicit).ledger.line =
      s.ledger.line + 1 := hsettles.line_eq
  refine ⟨?_, ?_, ?_, ?_, ?_⟩
  · rw [hbrackets, LineState.of_concat, LineState.step, if_pos ht]
    exact h.bracketDepth_eq
  · rw [hstart, LineState.of_concat, LineState.step, if_pos ht]
    show (s.atLineStart || (!t.implicit && s.bracketDepth == 0)) = _
    rw [h.atLineStart_eq, h.bracketDepth_eq]
  · rw [hindent, LineState.of_concat, LineState.step, if_pos ht]
    exact h.lineIndent_eq
  · rw [hlast, lastTouched_concat, if_pos ht]
    exact h.lastCodeLine_eq
  · -- the line was left before, or this line break leaves it
    intro hfresh
    rw [hstart] at hfresh
    rw [lastTouched_concat, if_pos ht, hline]
    rcases Bool.or_eq_true_iff.1 hfresh with hfresh | hends
    · have := h.left_behind hfresh
      omega
    · have := htouched (by simpa using (Bool.and_eq_true_iff.1 hends).1)
      omega

/-- A token is inside a line, and touches lines of its own. -/
theorem FollowsLayout.readToken (h : s.FollowsLayout before) (hs : s.Sound) (table : DecisionTable)
    (ht : t.isNewline = false) (hline : s.ledger.line = t.line) :
    (((s.mapLedger (·.announce t.lineSpan)).read table t).mapLedger (·.credit)).FollowsLayout
      (before ++ [t]) := by
  have hs' : (s.mapLedger (·.announce t.lineSpan)).Sound := Sound.announce (r := .indent s) hs _
  obtain ⟨hstart, hbrackets, hlast, _⟩ :=
    read_frame table (s.mapLedger (·.announce t.lineSpan)) t hs' ht
  have hindent := read_lineIndent table (s.mapLedger (·.announce t.lineSpan)) hs' ht
  have hnot : ¬ t.isNewline = true := by simp [ht]
  refine ⟨?_, ?_, ?_, ?_, ?_⟩
  · rw [LineState.of_concat, LineState.step, if_neg hnot, ← h.bracketDepth_eq]
    exact hbrackets
  · rw [LineState.of_concat, LineState.step, if_neg hnot]
    exact hstart
  · rw [LineState.of_concat, LineState.step, if_neg hnot]
    show _ = if (LineState.of before).fresh then t.column else (LineState.of before).indent
    rw [← h.atLineStart_eq, ← h.lineIndent_eq]
    exact hindent
  · rw [lastTouched_concat, if_neg hnot, Token.lastLine, ← hline]
    exact hlast
  · intro hfresh
    exact absurd (hstart.symm.trans hfresh) Bool.false_ne_true

end Indent

end Recognizer

/-- Every state of a pass over a Python text follows the logical lines. -/
theorem Analysis.exists_followsLayout {source : String} {before after : List Token}
    (h : sourceTokens .python source = before ++ after) :
    ∃ s : Indent, (start .python).run (.of .python) before = indent s ∧ s.FollowsLayout before := by
  refine forall_beginning (P := fun before => ∃ s : Indent,
    (start .python).run (.of .python) before = indent s ∧ s.FollowsLayout before) ?_ ?_ h
  · exact ⟨Indent.start 1, rfl, rfl, rfl, rfl, rfl, fun _ => by decide⟩
  · rintro before t after hsplit ⟨s, hrun, hlayout⟩
    have hsound : (indent s).Sound := by
      rw [← hrun]
      exact sound_run _ (sound_start _ _) _
    obtain ⟨hcount, hline⟩ := ledger_line_before .python hsplit
    rw [hrun] at hcount hline
    rw [run_append, hrun, run_cons, run_nil, feed_indent]
    refine ⟨_, rfl, ?_⟩
    cases ht : t.isNewline with
    | true =>
      rw [if_pos rfl]
      refine hlayout.readNewline _ ht fun himplicit => ?_
      rw [show s.ledger.line = _ from hcount]
      refine lastTouched_le hsplit fun u hu _ => ?_
      obtain rfl := Option.some.inj hu
      exact himplicit
    | false =>
      rw [if_neg (by simp)]
      exact hlayout.readToken hsound _ ht (hline ht)

end Cyclomatic
