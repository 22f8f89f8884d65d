import Mathlib
import Cyclomatic.Proofs.Recognizer.Pass

/-!
# Where functions end

All functions that one token closes end on the same line: the current one among braces, and the last
code line where indentation decides (`Recognizer.endingLine`). This is said of a token in
`Recognizer.read_endsOn` and of the end of the input in `Recognizer.finish_endsOn`.

Two kinds of tokens close nothing. A line break inside a token only moves the ledger on
(`Recognizer.feed_implicit`), and among braces a token that is not code leaves all functions open
(`Recognizer.functions_read_of_not_isCode`).
-/

namespace Cyclomatic

namespace Ledger

/-- The functions that close between two ledgers all end on the given line. -/
def EndsOn (last : Int) (l m : Ledger) : Prop :=
  ∃ closing, m.functions = l.functions ++ closing ∧ ∀ f ∈ closing, f.endLine = last

variable {last : Int} {l m p : Ledger}

theorem endsOn_of_functions_eq (h : m.functions = l.functions) : EndsOn last l m :=
  ⟨[], by rw [h, List.append_nil], by simp⟩

theorem EndsOn.trans (h : EndsOn last l m) (h' : EndsOn last m p) : EndsOn last l p := by
  obtain ⟨closing, hm, hclosing⟩ := h
  obtain ⟨closing', hp, hclosing'⟩ := h'
  refine ⟨closing ++ closing', by rw [hp, hm, List.append_assoc], ?_⟩
  intro f hf
  rcases List.mem_append.1 hf with hf | hf
  · exact hclosing f hf
  · exact hclosing' f hf

/-- A function that does not begin after the line where it is to end ends there. -/
theorem closeFunction_endsOn {endLine : Option Int} (hlast : endLine.getD l.line = last)
    (hl : ∀ f ∈ l.frames, f.startLine ≤ last) : EndsOn last l (l.closeFunction endLine) := by
  cases hframes : l.frames with
  | nil =>
    rw [closeFunction_of_frames_eq_nil hframes]
    exact endsOn_of_functions_eq rfl
  | cons f fs =>
    obtain ⟨g, hfunctions, _, _, hend, _⟩ := closeFunction_of_frames_eq_cons hframes endLine
    refine ⟨[g], hfunctions, ?_⟩
    intro h hh
    rw [List.mem_singleton.1 hh, hend, hlast]
    exact max_eq_left (hl f (by rw [hframes]; exact List.mem_cons_self))

theorem Started.credit (h : l.Started) (lineSpan : Int) : (l.credit lineSpan).Started := by
  rw [Started, credit_line]
  exact forall_frames_of_map_eq (P := fun first => first ≤ l.line)
    (map_frames_credit l lineSpan _ fun _ _ _ => rfl) h

end Ledger

/-! ## Braces -/

namespace Braces

variable {n : Nat} {b c : Braces}

theorem closeBody_endsOn (hb : b.ledger.Started) :
    Ledger.EndsOn b.ledger.line b.ledger b.closeBody.ledger :=
  Ledger.closeFunction_endsOn rfl hb

/-- Closing a body moves no line, and the functions that are left began before. -/
theorem closeBody_started (hb : b.ledger.Started) :
    b.closeBody.ledger.line = b.ledger.line ∧ b.closeBody.ledger.Started := by
  refine ⟨Ledger.closeFunction_line _ _, ?_⟩
  intro f hf
  rw [closeBody, Ledger.closeFunction_frames] at hf
  rw [closeBody, Ledger.closeFunction_line]
  exact hb f (List.mem_of_mem_tail hf)

theorem foldl_closeBody_endsOn (xs : List Body) (hb : b.ledger.Started) :
    Ledger.EndsOn b.ledger.line b.ledger (xs.foldl (fun b _ => b.closeBody) b).ledger := by
  induction xs generalizing b with
  | nil => exact Ledger.endsOn_of_functions_eq rfl
  | cons x xs ih =>
    obtain ⟨hline, hstarted⟩ := closeBody_started hb
    have hrest := ih hstarted
    rw [hline] at hrest
    exact (closeBody_endsOn hb).trans hrest

theorem closeBrace_endsOn (hb : b.ledger.Started) :
    Ledger.EndsOn b.ledger.line b.ledger b.closeBrace.ledger := by
  unfold closeBrace
  split
  · exact Ledger.endsOn_of_functions_eq rfl
  · rename_i depth hdepth
    -- the expressions inside the brace close first, and then the body that it ends
    have hfirst := foldl_closeBody_endsOn (b := { b with depth })
      (b.bodies.takeWhile fun body => body.isExpression && decide (depth < body.braceDepth)) hb
    have hsettles := ledger_foldl_closeBody
      (b.bodies.takeWhile fun body => body.isExpression && decide (depth < body.braceDepth))
      { b with depth }
    unfold closeBlock
    split
    · split
      · have hlast := closeBody_endsOn (hsettles.started hb)
        rw [hsettles.line_eq] at hlast
        exact hfirst.trans hlast
      · exact hfirst
    · exact hfirst

/-- Functions among braces end on the current line. -/
theorem Settles.endsOn (h : Settles n b c) (hb : b.ledger.Started) :
    Ledger.EndsOn b.ledger.line b.ledger c.ledger := by
  induction h with
  | refl => exact Ledger.endsOn_of_functions_eq rfl
  | record count _ ih =>
    exact (ih hb).trans (Ledger.endsOn_of_functions_eq (Ledger.recordDecisions_functions _ _))
  | openBlock _ ih => exact ih hb
  | closeBody h ih =>
    have hlast := closeBody_endsOn (h.ledger.started hb)
    rw [h.ledger.line_eq] at hlast
    exact (ih hb).trans hlast
  | closeBrace h ih =>
    have hlast := closeBrace_endsOn (h.ledger.started hb)
    rw [h.ledger.line_eq] at hlast
    exact (ih hb).trans hlast

/-- Opening a function closes none, on the same line. -/
theorem enterFunction_frame (b : Braces) (f : Signature) (hb : b.ledger.Started) :
    (b.enterFunction f).ledger.functions = b.ledger.functions ∧
      (b.enterFunction f).ledger.line = b.ledger.line ∧ (b.enterFunction f).ledger.Started := by
  refine ⟨by simp [enterFunction], by simp [enterFunction], ?_⟩
  exact (hb.openFunction _ _ _).recordDecisions _

theorem Reads.endsOn (h : Reads n b c) (hb : b.ledger.Started) :
    Ledger.EndsOn b.ledger.line b.ledger c.ledger := by
  have hopen (before : Nat) (f : Signature) {d : Braces} {k : Nat} (h : Settles k d c)
      (hd : d.ledger = ((b.record before).enterFunction f).ledger) :
      Ledger.EndsOn b.ledger.line b.ledger c.ledger := by
    obtain ⟨hfunctions, hline, hstarted⟩ :=
      enterFunction_frame (b.record before) f (hb.recordDecisions before)
    rw [← hd] at hfunctions hline hstarted
    have hends := h.endsOn hstarted
    rw [hline] at hends
    refine (Ledger.endsOn_of_functions_eq ?_).trans (by simpa [record] using hends)
    rw [hfunctions]
    exact Ledger.recordDecisions_functions _ _
  cases h with
  | settles h => exact h.endsOn hb
  | body f h => exact hopen _ f h rfl
  | expression f bracketDepth h => exact hopen _ f h rfl

end Braces

namespace Recognizer

/-! ## Indentation -/

namespace Indent

/-- Functions that close one after the other end on the last code line. -/
theorem foldl_closeInnermost_endsOn (xs : List Int) (s : Indent)
    (hs : ∀ f ∈ s.ledger.frames, f.startLine ≤ s.lastCodeLine) :
    Ledger.EndsOn s.lastCodeLine s.ledger (xs.foldl (fun s _ => s.closeInnermost) s).ledger := by
  induction xs generalizing s with
  | nil => exact Ledger.endsOn_of_functions_eq rfl
  | cons x xs ih =>
    have hclose : Ledger.EndsOn s.lastCodeLine s.ledger s.closeInnermost.ledger :=
      Ledger.closeFunction_endsOn rfl hs
    refine hclose.trans (ih s.closeInnermost ?_)
    intro f hf
    rw [closeInnermost, Ledger.closeFunction_frames] at hf
    exact hs f (List.mem_of_mem_tail hf)

/-- Following lines and brackets changes the ledger only where a line begins. -/
theorem advance_ledger (s : Indent) (t : Token) :
    (s.advance t).ledger = (s.beginLine t.column).ledger := by
  unfold advance followBrackets
  dsimp only
  split
  · split
    · rfl
    · split <;> rfl
  · rfl

/-- A token closes the functions that its line ends, and no others. -/
theorem functions_read (table : DecisionTable) (s : Indent) (t : Token) (hs : s.Sound)
    (ht : t.isNewline = false) :
    (s.read table t).ledger.functions = (s.beginLine t.column).ledger.functions := by
  have hadvance := advance_advances s t hs
  have htoken : (s.readToken t).ledger.functions = (s.beginLine t.column).ledger.functions := by
    rw [← advance_ledger, readToken]
    rcases (readPhase_spec (s.advance t) t (hadvance.header hs)).2 with
      ⟨hledger, _⟩ | ⟨_, _, _, name, params, start, hledger⟩
    · rw [hledger]
    · rw [hledger, Ledger.recordDecisions_functions, Ledger.openFunction_functions]
  rw [← htoken, read, if_neg (by simp [ht])]
  dsimp only
  split
  · rcases countDecision_cases (s.readToken t) t.text with ⟨_, h⟩ | ⟨_, ⟨_, h⟩ | ⟨_, h⟩⟩
    · rw [h]
    · rw [h]
    · rw [h, Ledger.recordDecisions_functions]
  · rfl

theorem beginLine_endsOn (s : Indent) (column : Int)
    (hs : ∀ f ∈ s.ledger.frames, f.startLine ≤ s.lastCodeLine) :
    Ledger.EndsOn s.lastCodeLine s.ledger (s.beginLine column).ledger := by
  unfold beginLine
  split
  · exact foldl_closeInnermost_endsOn _
      { s with firstOnLine := true, atLineStart := false, lineIndent := column } hs
  · exact Ledger.endsOn_of_functions_eq rfl

/-- A line break closes nothing. -/
theorem functions_readNewline (s : Indent) (implicit : Bool) :
    (s.readNewline implicit).ledger.functions = s.ledger.functions := by
  unfold readNewline
  split
  · rfl
  · split
    · rfl
    · simp [releaseHeader]

end Indent

/-! ## All grammars -/

/-- The line on which the functions end that close now. -/
def endingLine : Recognizer → Int
  | indent s => s.lastCodeLine
  | go s => s.braces.ledger.line
  | script s => s.braces.ledger.line

/-- The functions that a token closes end on one line. -/
theorem read_endsOn (table : DecisionTable) {r : Recognizer} (hr : r.Sound)
    (hstarted : r.ledger.Started) (t : Token) :
    Ledger.EndsOn r.endingLine r.ledger (r.read table t).ledger := by
  cases r with
  | go s => exact (Go.read_reads table s t).endsOn hstarted
  | script s =>
    show Ledger.EndsOn s.braces.ledger.line s.braces.ledger (s.read table t).braces.ledger
    cases ht : t.isNewline with
    | true =>
      obtain ⟨k, hk, _⟩ := Script.readNewline_hands s t.implicit
      rw [Script.read, if_pos ht]
      exact hk.endsOn hstarted
    | false =>
      obtain ⟨k, hk, _⟩ := Script.read_hands table s t hr ht
      exact hk.endsOn hstarted
  | indent s =>
    show Ledger.EndsOn s.lastCodeLine s.ledger (s.read table t).ledger
    cases ht : t.isNewline with
    | true =>
      apply Ledger.endsOn_of_functions_eq
      rw [Indent.read, if_pos ht, Indent.functions_readNewline]
    | false =>
      obtain ⟨closing, hfunctions, hclosing⟩ := Indent.beginLine_endsOn s t.column hr.reached
      exact ⟨closing, by rw [Indent.functions_read table s t hr ht, hfunctions], hclosing⟩

/-- The functions that the end of the input closes end on one line. -/
theorem finish_endsOn {r : Recognizer} (hr : r.Sound) (hstarted : r.ledger.Started)
    (hsucc : r.finish.2 = none) : Ledger.EndsOn r.endingLine r.ledger r.finish.1.ledger := by
  cases r with
  | go s => exact Ledger.endsOn_of_functions_eq rfl
  | script s =>
    obtain ⟨k, hk, _⟩ := Script.finish_settles s hsucc
    exact hk.endsOn hstarted
  | indent s =>
    show Ledger.EndsOn s.lastCodeLine s.ledger s.finish.1.ledger
    have hrelease : Ledger.EndsOn s.lastCodeLine s.ledger s.releaseHeader.ledger :=
      Ledger.endsOn_of_functions_eq (Ledger.recordDecisions_functions _ _)
    unfold Indent.finish
    dsimp only
    split
    · exact hrelease
    · exact hrelease.trans (Indent.foldl_closeInnermost_endsOn _ s.releaseHeader
        (Ledger.startLine_le_recordDecisions hr.reached _))

/-- Every open function has begun in every state of a pass. -/
theorem started_feed (table : DecisionTable) {r : Recognizer} (hr : r.Sound)
    (hstarted : r.ledger.Started) (t : Token) : (r.feed table t).ledger.Started := by
  cases ht : t.isNewline with
  | true =>
    obtain ⟨k, hsettles, _⟩ := feed_newline_settles table r ht
    apply hsettles.started
    intro f hf
    exact (hstarted f hf).trans (by simp [Ledger.nextLine])
  | false =>
    obtain ⟨reach, k, m, hreads, hm, _⟩ := absorb_reads table hr ht
    rw [feed_of_not_isNewline table r ht, hm]
    exact (hreads.started hstarted).credit _

theorem started_run (table : DecisionTable) {r : Recognizer} (hr : r.Sound)
    (hstarted : r.ledger.Started) (ts : List Token) : (r.run table ts).ledger.Started := by
  induction ts generalizing r with
  | nil => exact hstarted
  | cons t ts ih => exact ih (hr.feed table t) (started_feed table hr hstarted t)

/-! ## Tokens that close nothing -/

/-- A line break inside a token only moves the ledger on. -/
theorem feed_implicit (table : DecisionTable) (r : Recognizer) {t : Token}
    (ht : t.isNewline = true) (himplicit : t.implicit = true) :
    r.feed table t = r.mapLedger Ledger.nextLine := by
  rw [feed_of_isNewline table r ht]
  generalize r.mapLedger Ledger.nextLine = x
  cases x with
  | go s => rw [read, Go.read, if_pos ht, Go.readNewline, himplicit]; rfl
  | script s => rw [read, Script.read, if_pos ht, Script.readNewline, himplicit]; rfl
  | indent s => rw [read, Indent.read, if_pos ht, Indent.readNewline, himplicit]; simp

namespace Script

@[simp] theorem functions_record (s : Script) (count : Nat) :
    (s.record count).braces.ledger.functions = s.braces.ledger.functions := by
  unfold record
  split
  · split
    · rfl
    · exact Ledger.recordDecisions_functions _ _
  · exact Ledger.recordDecisions_functions _ _

theorem functions_settleQuestion (s : Script) (t : Token) :
    (s.settleQuestion t).braces.ledger.functions = s.braces.ledger.functions := by
  unfold settleQuestion
  split
  · split
    · rfl
    · exact functions_record _ _
  · rfl

/-- Whatever the phase, a token that is not code closes nothing. -/
theorem functions_readPhase_of_not_isCode (s : Script) (closed : Option Group) {t : Token}
    (ht : t.isCode = false) :
    (s.readPhase closed t).braces.ledger.functions = s.braces.ledger.functions := by
  have hstatement (x : Script) (c : Option Group) :
      (x.readStatement c t).braces = x.braces := by
    simp [readStatement, ht]
  unfold readPhase
  cases s.phase with
  | statement => exact congrArg (·.ledger.functions) (hstatement s closed)
  | functionHead name line =>
    simp only [readFunctionHead, ht, Bool.not_false, if_true, hstatement]
  | typeParameters name line depth =>
    simp only [readTypeParameters]
    split
    · rfl
    · split
      · split <;> rfl
      · rfl
  | returnType g depth tokens =>
    simp only [readReturnType, ht, Bool.false_eq_true, false_and, and_false, if_false]
  | arrowBody f =>
    simp only [readArrowBody, ht, Bool.false_eq_true, false_and, if_false, hstatement,
      Braces.openExpression, Braces.enterFunction, Ledger.recordDecisions_functions,
      Ledger.openFunction_functions]

theorem functions_read_of_not_isCode (table : DecisionTable) (s : Script) {t : Token}
    (ht : t.isCode = false) (hn : t.isNewline = false) :
    (s.read table t).braces.ledger.functions = s.braces.ledger.functions := by
  rw [read, if_neg (by simp [hn])]
  simp only [ht, Bool.false_and, Bool.false_eq_true, if_false]
  unfold readToken
  dsimp only
  rw [← functions_settleQuestion s t]
  generalize s.settleQuestion t = x
  cases x.closedGroup with
  | none => exact functions_readPhase_of_not_isCode x none ht
  | some g =>
    dsimp only
    split
    · exact functions_readPhase_of_not_isCode _ (some g) ht
    · rw [functions_readPhase_of_not_isCode _ _ ht, release, functions_record]

end Script

/-- Among braces a token that is not code closes nothing. -/
theorem functions_read_of_not_isCode (table : DecisionTable) {r : Recognizer} {t : Token}
    (hr : ∀ s, r ≠ indent s) (ht : t.isCode = false) (hn : t.isNewline = false) :
    (r.read table t).ledger.functions = r.ledger.functions := by
  cases r with
  | go s =>
    show (s.read table t).braces.ledger.functions = s.braces.ledger.functions
    rw [Go.read, if_neg (by simp [hn]), if_neg (by simp [ht])]
  | script s => exact Script.functions_read_of_not_isCode table s ht hn
  | indent s => exact absurd rfl (hr s)

end Recognizer

end Cyclomatic
