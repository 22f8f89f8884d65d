import Mathlib
import Cyclomatic.Proofs.Recognizer.Refusal
import Cyclomatic.Proofs.Survey

/-!
# The second part of a text

After some lines a text is read as if it began there, if the state of the pass differs from a fresh one in
lines and in what has closed only (`following`, `Recognizer.Moved.functionsAfter`). All code lines of the
first part must lie before the second. That is so because the line breaks inside a token follow it: once
all of a token is read, nothing that has been entered lies after the current line
(`Recognizer.Ahead.significantTokens`).
-/

namespace Cyclomatic

/-! ## Lines of the second part -/

/-- The measures of the same function `n` lines further down. -/
def FunctionMeasure.below (n : Int) (f : FunctionMeasure) : FunctionMeasure :=
  { f with startLine := f.startLine + n, endLine := f.endLine + n }

/-- A text after `n` lines that hold the code lines `past` and have the functions `fs`. -/
def following (n : Int) (past : LineSet) (hpast : ∀ m ∈ past, m ≤ n) (fs : List FunctionMeasure) :
    Relocation where
  move :=
    { toFun := (· + n)
      inj' := add_left_injective n
      map_rel_iff' := add_le_add_iff_right n }
  past
  begins line := 1 ≤ line
  past_lt m hm first hfirst := by
    have hle := hpast m hm
    show m < first + n
    omega
  begins_next line h := by omega
  reports gs gs' := gs' = fs ++ gs.map (·.below n)
  reports_concat gs gs' h f endLine := by
    rw [h, List.map_append, List.append_assoc]
    simp [FunctionMeasure.below, Frame.measure, Frame.moved, Frame.nloc]

theorem together_following {n : Int} {past : LineSet} {hpast : ∀ m ∈ past, m ≤ n}
    {fs : List FunctionMeasure} (first : Int) (span : Nat) :
    Together (following n past hpast fs).move first span := by
  intro i _
  show first + i + n = first + n + i
  omega

namespace Recognizer

variable {table : DecisionTable} {r r' : Recognizer} {t : Token}

/-! ## Between the tokens of a text -/

/-- Nothing that has been entered lies more than `n` lines after the current one. -/
structure Ahead (n : Nat) (r : Recognizer) : Prop where
  sound : r.Sound
  idle : r.ledger.pending = .idle
  codeLines_le : ∀ m ∈ r.ledger.codeLines, m ≤ r.ledger.line + n
  lastCodeLine_le : ∀ s, r = .indent s → s.lastCodeLine ≤ r.ledger.line + n

theorem ahead_start (language : Language) : Ahead 0 (start language) where
  sound := sound_start language 1
  idle := by rw [ledger_start]
  codeLines_le m hm := by
    rw [ledger_start] at hm
    exact absurd hm (LineSet.not_mem_empty m)
  lastCodeLine_le s hs := by
    rw [ledger_start]
    cases language <;> cases hs
    decide

/-- A line break leaves less ahead. -/
theorem Ahead.newline {n : Nat} (h : Ahead n r) (table : DecisionTable) (ht : t.isNewline = true) :
    Ahead (n - 1) (r.feed table t) := by
  have hline : (r.feed table t).ledger.line = r.ledger.line + 1 := by
    rw [ledger_feed_line table h.sound, ht]
    rfl
  obtain ⟨_, _, _, _, _, hlines⟩ := feed_newline_frames table h.idle ht
  refine ⟨h.sound.feed table t, pending_feed table h.sound h.idle t, fun m hm => ?_, fun s hs => ?_⟩
  · rw [hlines] at hm
    have := h.codeLines_le m hm
    omega
  · rw [hline]
    rw [feed_of_isNewline table r ht] at hs
    cases r with
    | go x => cases hs
    | script x => cases hs
    | indent x =>
      obtain rfl := Recognizer.indent.inj hs
      have hlast := h.lastCodeLine_le x rfl
      rw [Indent.read, if_pos ht, (Indent.readNewline_frame _ _).2.2.1]
      show x.lastCodeLine ≤ _
      omega

/-- A token goes as far ahead as it has line breaks. -/
theorem Ahead.token (h : Ahead 0 r) (table : DecisionTable) (ht : t.isNewline = false) :
    Ahead (lineBreaks t.text) (r.feed table t) := by
  have hline : (r.feed table t).ledger.line = r.ledger.line := by
    rw [ledger_feed_line table h.sound, ht]
    exact add_zero _
  refine ⟨h.sound.feed table t, pending_feed table h.sound h.idle t, fun m hm => ?_, fun s hs => ?_⟩
  · obtain ⟨reach, k, l, hreads, hl, _⟩ := absorb_reads table h.sound ht
    obtain ⟨_, _, _, _, _, _, hlines⟩ := hreads.credited_row
    rw [feed_of_not_isNewline table r ht, hl, hlines, LineSet.mem_insertRun] at hm
    rw [hline]
    rcases hm with hm | hm
    · have := h.codeLines_le m hm
      omega
    · rw [Token.lineSpan] at hm
      omega
  · rw [hline]
    rw [feed_of_not_isNewline table r ht] at hs
    cases r with
    | go x => cases hs
    | script x => cases hs
    | indent x =>
      obtain rfl := Recognizer.indent.inj hs
      have hsound : (x.mapLedger (·.announce t.lineSpan)).Sound := h.sound.announce _
      exact (Indent.read_frame table _ t hsound ht).2.2.1.le

theorem Ahead.newlines {n : Nat} (h : Ahead n r) (table : DecisionTable) {ts : List Token}
    (hts : ∀ t ∈ ts, t.isNewline = true) : Ahead (n - ts.length) (r.run table ts) := by
  induction ts generalizing n r with
  | nil => exact h
  | cons t ts ih =>
    obtain ⟨ht, hts⟩ := List.forall_mem_cons.1 hts
    have hrest := ih (h.newline table ht) hts
    rwa [Nat.sub_sub, Nat.add_comm] at hrest

/-- The line breaks inside a token follow it, so nothing is ahead once all of it is read. -/
theorem Ahead.significant (h : Ahead 0 r) (table : DecisionTable) (t : Token) :
    Ahead 0 (r.run table t.significant) := by
  have hinner : ∀ u ∈ t.innerBreaks, u.isNewline = true :=
    fun _ => Token.isNewline_of_mem_innerBreaks
  unfold Token.significant
  split
  · exact h.newline table ‹_›
  · rename_i ht
    split
    · have hall := (h.token table (Bool.eq_false_iff.2 ht)).newlines table hinner
      rwa [t.length_innerBreaks, Nat.sub_self] at hall
    · have hall := h.newlines table hinner
      rwa [Nat.zero_sub] at hall

/-- Nothing is ahead after the significant tokens of any tokens. -/
theorem Ahead.significantTokens (h : Ahead 0 r) (table : DecisionTable) (xs : List Token) :
    Ahead 0 (r.run table (significantTokens xs)) := by
  induction xs generalizing r with
  | nil => exact h
  | cons x xs ih =>
    rw [Cyclomatic.significantTokens, List.flatMap_cons, run_append]
    exact ih (h.significant table x)

/-- A line break leaves the code lines behind. -/
theorem Ahead.codeLines_lt (h : Ahead 0 r) (table : DecisionTable) (ht : t.isNewline = true) :
    ∀ m ∈ (r.feed table t).ledger.codeLines, m ≤ (r.feed table t).ledger.line - 1 := by
  obtain ⟨_, _, _, _, _, hlines⟩ := feed_newline_frames table h.idle ht
  intro m hm
  rw [hlines] at hm
  have hle := h.codeLines_le m hm
  rw [ledger_feed_line table h.sound, ht, Bool.toNat_true]
  omega

/-! ## The second part -/

section Following

variable {n : Int} {past : LineSet} {hpast : ∀ m ∈ past, m ≤ n} {fs : List FunctionMeasure}

/-- What is measured of both parts together when `gs` is what is measured of the second. -/
def joined (n : Int) (fs : List FunctionMeasure) (gs : Except PassError (List FunctionMeasure)) :
    Except PassError (List FunctionMeasure) :=
  gs.map fun gs => fs ++ gs.map (·.below n)

theorem Moved.conclude (h : Moved (following n past hpast fs) r r') :
    r'.conclude = joined n fs r.conclude := by
  obtain ⟨herror, hend⟩ := h.finish
  have hfunctions : r'.finish.1.ledger.closeAll.functions =
      fs ++ r.finish.1.ledger.closeAll.functions.map (·.below n) :=
    hend.ledger.closeAll.functions
  cases he : r.finish.2 with
  | none =>
    rw [conclude_of_finish he, conclude_of_finish (herror.trans he), hfunctions]
    rfl
  | some e =>
    rw [conclude_of_error he, conclude_of_error (herror.trans he)]
    rfl

/-- From states that differ in their lines, the second part is read alike. -/
theorem Moved.functionsAfter (h : Moved (following n past hpast fs) r r') (table : DecisionTable)
    (ts : List Token) : r'.functionsAfter table ts = joined n fs (r.functionsAfter table ts) := by
  induction ts generalizing r r' with
  | nil => exact h.conclude
  | cons t ts ih =>
    rw [functionsAfter_cons, functionsAfter_cons, h.refuses_eq]
    split
    · rfl
    · exact ih (h.feed table fun span => together_following _ span)

end Following

end Recognizer

end Cyclomatic
