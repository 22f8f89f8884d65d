import Mathlib
import Cyclomatic.Proofs.Closings
import Cyclomatic.Proofs.Survey.Order

/-!
# Indentation decides where Python functions end

A function whose header lies on a logical line that begins at some column ends with the first later
logical line that does not begin right of it, or with the text (`Analysis.indentation_decides`).

The survey of a pass stands beside the stack of indentations (`Analysis.Surveyed`): an open function has
the indentation of the line of its header, and all logical lines since are right of it. Because the stack
is in order, a line that is not right of a function closes it, whatever is open inside.
-/

namespace Cyclomatic

open Recognizer

namespace Recognizer.Indent

variable {s : Indent} {t : Token}

/-! ## What a token closes and opens -/

/-- What a token of Python closes and opens, by the stack of indentations. -/
theorem feed_counts (table : DecisionTable) (hs : s.Sound) (hstep : s.InStep)
    (ht : t.isNewline = false) :
    ((indent s).closedBy table t).length =
        (if s.atLineStart then (s.indents.takeWhile (t.column ≤ ·)).length else 0) ∧
      (indent s).opens table t = s.opensBody t := by
  have hs' : (s.mapLedger (·.announce t.lineSpan)).Sound := Sound.announce (r := .indent s) hs _
  have hfunctions := length_functions_read table (s.mapLedger (·.announce t.lineSpan)) hs' hstep ht
  have hindents := read_indents table (s.mapLedger (·.announce t.lineSpan)) hs' ht
  have hstep' : ((s.mapLedger (·.announce t.lineSpan)).read table t).InStep :=
    (read_frame table (s.mapLedger (·.announce t.lineSpan)) t hs' ht).2.2.2.2 hstep
  have hclosed : ((indent s).closedBy table t).length =
      if s.atLineStart then (s.indents.takeWhile (t.column ≤ ·)).length else 0 := by
    rw [closedBy, List.length_drop, feed_of_not_isNewline _ _ ht, absorb, ledger_mapLedger,
      Ledger.credit_functions]
    have hfunctions' : ((indent s).mapLedger (·.announce t.lineSpan)
        |>.read table t).ledger.functions.length = (indent s).ledger.functions.length +
          if s.atLineStart then (s.indents.takeWhile (t.column ≤ ·)).length else 0 := hfunctions
    omega
  refine ⟨hclosed, ?_⟩
  have hdepth : ((indent s).feed table t).ledger.depth =
      ((s.mapLedger (·.announce t.lineSpan)).read table t).indents.length := by
    rw [feed_of_not_isNewline _ _ ht, absorb, ledger_mapLedger, Ledger.credit_depth]
    exact hstep'.symm
  rw [opens, hclosed, hdepth, hindents, show (indent s).ledger.depth = _ from hstep.symm]
  show decide (s.indents.length < _ + (if s.opensBody t then s.functionIndent :: s.indents
    else if s.atLineStart then s.indents.dropWhile (t.column ≤ ·) else s.indents).length) = _
  -- what is popped and what stays make up the stack
  have hsplit := congrArg List.length
    (List.takeWhile_append_dropWhile (p := (t.column ≤ ·)) (l := s.indents))
  rw [List.length_append] at hsplit
  cases hopens : s.opensBody t with
  | true =>
    rw [hs.atLineStart_of_phase (by rw [phase_of_opensBody hopens]; simp)]
    simp
  | false =>
    cases s.atLineStart with
    | true =>
      simp only [if_true, Bool.false_eq_true, if_false, decide_eq_false_iff_not]
      omega
    | false => simp

end Recognizer.Indent

namespace Analysis

variable {source : String} {before after : List Token} {t : Token}

/-- A token of Python is credited to no function that it closes: those end before its line. -/
theorem creditedTo_python (h : sourceTokens .python source = before ++ t :: after)
    (ht : t.isNewline = false) :
    (passBefore .python before).creditedTo (.of .python) t =
      ((passBefore .python before).closedBy (.of .python) t).length := by
  rw [creditedTo, Ledger.creditPlace]
  split
  · rename_i hany
    obtain ⟨f, hf, hline⟩ := List.any_eq_true.1 hany
    have hlast := endLine_lt_of_closes h ht hf
    rw [decide_eq_true_eq] at hline
    omega
  · rfl

/-! ## Extents -/

/-- An open function with its indentation: the logical lines since it opened are all right of it. -/
structure Stands (tokens before : List Token) (indent : Int) (c : Course) : Prop where
  indent_eq : indent = indentAt tokens c.opening
  opened : c.opening < before.length
  deeper : ∀ j, c.opening < j → j < before.length → beginsLine tokens j = true →
    indent < columnAt tokens j
  credited : ∀ p ∈ c.credited, p < before.length

/-- A function that has closed: it did so at the first logical line that is not right of it, or at the end
of the text. -/
structure EndsAtDedent (tokens : List Token) (e : Extent) : Prop where
  opened : e.opening < e.closing
  closed : e.closing ≤ tokens.length
  deeper : ∀ j, e.opening < j → j < e.closing → beginsLine tokens j = true →
    indentAt tokens e.opening < columnAt tokens j
  dedent : e.closing < tokens.length → beginsLine tokens e.closing = true ∧
    columnAt tokens e.closing ≤ indentAt tokens e.opening
  credited : ∀ p ∈ e.credited, p < e.closing

variable {tokens : List Token} {indent : Int} {c : Course}

/-- A function stays open at a token that begins no line, or one right of it. -/
theorem Stands.concat (h : Stands tokens before indent c) (hsplit : tokens = before ++ t :: after)
    (hdeeper : beginsLine tokens before.length = true → indent < t.column) :
    Stands tokens (before ++ [t]) indent c := by
  have hlength : (before ++ [t]).length = before.length + 1 := by simp
  refine ⟨h.indent_eq, by have := h.opened; omega, ?_, ?_⟩
  · intro j hj hj' hbegins
    rw [hlength] at hj'
    rcases Nat.lt_succ_iff_lt_or_eq.1 hj' with hj' | rfl
    · exact h.deeper j hj hj' hbegins
    · rw [columnAt_split hsplit]
      exact hdeeper hbegins
  · intro p hp
    have := h.credited p hp
    omega

/-- A token may be credited to it. -/
theorem Stands.credit (h : Stands tokens (before ++ [t]) indent c) :
    Stands tokens (before ++ [t]) indent (c.credit before.length) := by
  refine ⟨h.indent_eq, h.opened, h.deeper, ?_⟩
  intro p hp
  rcases List.mem_cons.1 hp with rfl | hp
  · simp
  · exact h.credited p hp

theorem Stands.ends (h : Stands tokens before indent c) (hclosed : before.length ≤ tokens.length)
    (hdedent : before.length < tokens.length → beginsLine tokens before.length = true ∧
      columnAt tokens before.length ≤ indent) :
    EndsAtDedent tokens (c.until before.length) where
  opened := h.opened
  closed := hclosed
  deeper := by
    rw [show (c.until before.length).opening = c.opening from rfl, ← h.indent_eq]
    exact h.deeper
  dedent := by
    rw [show (c.until before.length).opening = c.opening from rfl, ← h.indent_eq]
    exact hdedent
  credited := h.credited

/-- The header that is being read: it has begun with the word `def`, on the present logical line. -/
structure InHeader (tokens before : List Token) (s : Indent) (word : Nat) : Prop where
  begun : word < before.length
  isDef : ∃ t, tokens[word]? = some t ∧ t.isCode = true ∧ t.text = "def" ∧ t.line = s.functionLine
  line_le : s.functionLine ≤ s.ledger.line
  sameLine : ∀ j, word < j → j < before.length → beginsLine tokens j = false

/-- What holds between a state of a pass over a Python text and the survey of the pass. -/
structure Surveyed (tokens before : List Token) (s : Indent) : Prop where
  layout : s.FollowsLayout before
  stacked : s.Stacked
  aligned : s.Aligned
  header : s.phase ≠ .outside → ∃ word, InHeader tokens before s word
  stands : List.Forall₂ (Stands tokens before) s.indents (Survey.of .python before).running
  ended : ∀ e ∈ (Survey.of .python before).extents, EndsAtDedent tokens e

variable {s : Indent}

/-- A header goes on inside its line. -/
theorem InHeader.concat {s' : Indent} {word : Nat} (h : InHeader tokens before s word)
    (hbegins : beginsLine tokens before.length = false) (hline : s.ledger.line ≤ s'.ledger.line)
    (hfunction : s'.functionLine = s.functionLine) : InHeader tokens (before ++ [t]) s' word := by
  have hlength : (before ++ [t]).length = before.length + 1 := by simp
  refine ⟨by have := h.begun; omega, ?_, ?_, ?_⟩
  · rw [hfunction]
    exact h.isDef
  · rw [hfunction]
    exact h.line_le.trans hline
  · intro j hj hj'
    rw [hlength] at hj'
    rcases Nat.lt_succ_iff_lt_or_eq.1 hj' with hj' | rfl
    · exact h.sameLine j hj hj'
    · exact hbegins

/-- A line break opens and closes nothing. -/
theorem survey_newline (hrun : passBefore .python before = .indent s) (ht : t.isNewline = true) :
    (Survey.of .python (before ++ [t])).running = (Survey.of .python before).running ∧
      (Survey.of .python (before ++ [t])).extents = (Survey.of .python before).extents := by
  have hclosed : (passBefore .python before).closedBy (.of .python) t = [] := by
    apply closedBy_eq
    rw [hrun, feed_of_isNewline _ _ ht, List.append_nil]
    show ((s.mapLedger Ledger.nextLine).read (.of .python) t).ledger.functions = _
    rw [Indent.read, if_pos ht, Indent.functions_readNewline]
    rfl
  obtain ⟨_, _, _, hopens, _⟩ :=
    feed_newline_frames (.of .python) (passBefore_idle .python before) ht
  rw [Survey.of_concat]
  simp only [Survey.step, Survey.row, Survey.of_pass, hclosed, hopens, ht, List.length_nil,
    List.drop_zero, List.take_zero, List.map_nil, List.append_nil, if_true, Bool.false_eq_true,
    if_false, and_self]

theorem Surveyed.newline (h : Surveyed tokens before s) (hrun : passBefore .python before = .indent s)
    (hsplit : tokens = before ++ t :: after) (ht : t.isNewline = true)
    (hlayout : ((s.mapLedger Ledger.nextLine).read (.of .python) t).FollowsLayout (before ++ [t])) :
    Surveyed tokens (before ++ [t]) ((s.mapLedger Ledger.nextLine).read (.of .python) t) := by
  obtain ⟨hrunning, hextents⟩ := survey_newline hrun ht
  have hbegins : beginsLine tokens before.length = false := by
    rw [beginsLine_split hsplit, ht]
    rfl
  have hread : (s.mapLedger Ledger.nextLine).read (.of .python) t =
      (s.mapLedger Ledger.nextLine).readNewline t.implicit := by
    rw [Indent.read, if_pos ht]
  obtain ⟨_, hindents, hheader⟩ :=
    Indent.readNewline_header (s.mapLedger Ledger.nextLine) t.implicit
  obtain ⟨_, hsettles, _⟩ :=
    Indent.readNewline_settles true (s.mapLedger Ledger.nextLine) t.implicit
  rw [hread] at hlayout ⊢
  refine ⟨hlayout, ?_, ?_, ?_, ?_, ?_⟩
  · exact Indent.Stacked.readNewline (s := s.mapLedger Ledger.nextLine)
      ⟨h.stacked.nested, h.stacked.bounded⟩ t.implicit
  · exact Indent.Aligned.readNewline (s := s.mapLedger Ledger.nextLine) h.aligned t.implicit
  · intro hphase
    obtain ⟨hold, hfunction, _⟩ := hheader hphase
    obtain ⟨word, hword⟩ := h.header hold
    refine ⟨word, hword.concat hbegins ?_ hfunction⟩
    rw [hsettles.line_eq]
    show s.ledger.line ≤ s.ledger.line + 1
    omega
  · rw [hrunning, hindents]
    exact h.stands.imp fun indent c hc => hc.concat hsplit (by simp [hbegins])
  · rw [hextents]
    exact h.ended

/-- The indentations that a token takes off the stack. -/
def popped (s : Indent) (t : Token) : Nat :=
  if s.atLineStart then (s.indents.takeWhile (t.column ≤ ·)).length else 0

theorem drop_popped (s : Indent) (t : Token) : s.indents.drop (popped s t) =
    if s.atLineStart then s.indents.dropWhile (t.column ≤ ·) else s.indents := by
  unfold popped
  split
  · exact drop_length_takeWhile _ _
  · rfl

/-- A token that ends a header opens a function, and any other closes one for each indentation that it
pops. -/
theorem survey_token (hsplit : sourceTokens .python source = before ++ t :: after)
    (hrun : passBefore .python before = .indent s) (ht : t.isNewline = false) :
    if s.opensBody t then
      (Survey.of .python (before ++ [t])).running =
          ⟨before.length, [before.length]⟩ :: (Survey.of .python before).running ∧
        (Survey.of .python (before ++ [t])).extents = (Survey.of .python before).extents
    else
      (Survey.of .python (before ++ [t])).running =
          ((Survey.of .python before).running.modify (popped s t) (·.credit before.length)).drop
            (popped s t) ∧
        (Survey.of .python (before ++ [t])).extents = (Survey.of .python before).extents ++
          ((Survey.of .python before).running.take (popped s t)).map (·.until before.length) := by
  have hsound : (indent s).Sound := hrun ▸ passBefore_sound .python before
  have hstep : (indent s).ScopesAgree :=
    hrun ▸ scopesAgree_run _ (scopesAgree_start .python 1) (sound_start .python 1) before
  obtain ⟨hclosed, hopens⟩ := Indent.feed_counts (.of .python) hsound hstep ht
  have hcredited := creditedTo_python hsplit ht
  rw [hrun, hclosed] at hcredited
  have hpopped : popped s t = if s.atLineStart then (s.indents.takeWhile (t.column ≤ ·)).length
    else 0 := rfl
  rw [← hpopped] at hclosed hcredited
  rw [Survey.of_concat]
  simp only [Survey.step, Survey.row, Survey.of_pass, Survey.of_place, hrun, hclosed, hcredited,
    hopens, ht, Bool.false_eq_true, if_false]
  split
  · rename_i hopens
    -- a header goes on to its colon, so the token that opens a body begins no line
    have hzero : popped s t = 0 := by
      rw [popped, Indent.Sound.atLineStart_of_phase hsound
        (by rw [Indent.phase_of_opensBody hopens]; simp)]
      rfl
    rw [hzero]
    simp [Course.credit]
  · rw [take_modify_self]
    exact ⟨rfl, rfl⟩

/-- The indentations that stay on the stack are left of a token that begins a line. -/
theorem lt_of_not_popped (h : s.Stacked) :
    ∀ d ∈ s.indents.drop (popped s t), s.atLineStart = true → d < t.column := by
  intro d hd hstart
  rw [popped, hstart, if_pos rfl, drop_length_takeWhile] at hd
  exact Indent.lt_of_mem_dropWhile h.nested d hd

/-- The indentations that a token pops are not left of it, and it begins a line. -/
theorem le_of_popped : ∀ d ∈ s.indents.take (popped s t), s.atLineStart = true ∧ t.column ≤ d := by
  intro d hd
  cases hstart : s.atLineStart with
  | false => simp [popped, hstart] at hd
  | true =>
    rw [popped, hstart, if_pos rfl, ← List.prefix_iff_eq_take.1 (List.takeWhile_prefix _)] at hd
    exact ⟨rfl, by simpa using List.mem_takeWhile_imp hd⟩

/-- The functions that stay open at a token that opens none. -/
theorem Surveyed.stands_drop (h : Surveyed tokens before s) (hsplit : tokens = before ++ t :: after)
    (hbegins : beginsLine tokens before.length = s.atLineStart) :
    List.Forall₂ (Stands tokens (before ++ [t])) (s.indents.drop (popped s t))
      (((Survey.of .python before).running.modify (popped s t) (·.credit before.length)).drop
        (popped s t)) := by
  have hdrop := (List.forall₂_and_left _ _).2
    ⟨lt_of_not_popped h.stacked, List.forall₂_drop (popped s t) h.stands⟩
  have hstay : ∀ d c, (s.atLineStart = true → d < t.column) ∧ Stands tokens before d c →
      Stands tokens (before ++ [t]) d c := by
    intro d c hc
    exact hc.2.concat hsplit (by rw [hbegins]; exact hc.1)
  rw [drop_modify_self]
  simpa using forall₂_modify (f := id) hdrop hstay (fun d c hc => (hstay d c hc).credit) 0

/-- The functions that are open at a token that opens one: the new one stands on the present line, which
goes on. -/
theorem Surveyed.stands_open (h : Surveyed tokens before s) (hsplit : tokens = before ++ t :: after)
    (ht : t.isNewline = false) (hbegins : beginsLine tokens before.length = s.atLineStart)
    (hphase : s.phase ≠ .outside) (hstart : s.atLineStart = false) :
    List.Forall₂ (Stands tokens (before ++ [t])) (s.functionIndent :: s.indents)
      (⟨before.length, [before.length]⟩ :: (Survey.of .python before).running) := by
  rw [hstart] at hbegins
  refine .cons ⟨?_, by simp, ?_, by simp⟩ ?_
  · rw [indentAt_split hsplit, LineState.step, if_neg (by simp [ht])]
    show s.functionIndent = if (LineState.of before).fresh then _ else _
    rw [h.aligned hphase, h.layout.lineIndent_eq, ← h.layout.atLineStart_eq, hstart]
    rfl
  · intro j hj hj'
    simp only [List.length_append, List.length_singleton] at hj hj'
    omega
  · exact h.stands.imp fun d c hc => hc.concat hsplit (by simp [hbegins])

/-- The functions that a token closes. -/
theorem Surveyed.ends_take (h : Surveyed tokens before s) (hsplit : tokens = before ++ t :: after)
    (hbegins : beginsLine tokens before.length = s.atLineStart) :
    ∀ e ∈ ((Survey.of .python before).running.take (popped s t)).map (·.until before.length),
      EndsAtDedent tokens e := by
  have htake := (List.forall₂_and_left _ _).2
    ⟨le_of_popped, List.forall₂_take (popped s t) h.stands⟩
  intro e he
  obtain ⟨c, hc, rfl⟩ := List.mem_map.1 he
  obtain ⟨d, ⟨hstart, hcolumn⟩, hstands⟩ := exists_of_forall₂_right htake hc
  refine hstands.ends (by simp [hsplit]) fun _ => ⟨hbegins.trans hstart, ?_⟩
  rw [columnAt_split hsplit]
  exact hcolumn

/-- The place of a header's word is before its logical line goes on. -/
theorem inHeader_of_def (hsplit : tokens = before ++ t :: after) (hcode : t.isCode = true)
    (hdef : t.text = "def") (hline : s.functionLine = t.line) (hle : s.functionLine ≤ s.ledger.line) :
    InHeader tokens (before ++ [t]) s before.length := by
  refine ⟨by simp, ⟨t, by simp [hsplit], hcode, hdef, hline.symm⟩, hle, ?_⟩
  intro j hj hj'
  simp only [List.length_append, List.length_singleton] at hj'
  omega

theorem Surveyed.token (hsplit : sourceTokens .python source = before ++ t :: after)
    (h : Surveyed (sourceTokens .python source) before s)
    (hrun : passBefore .python before = .indent s) (ht : t.isNewline = false)
    (hlayout : (((s.mapLedger (·.announce t.lineSpan)).read (.of .python) t).mapLedger
      (·.credit)).FollowsLayout (before ++ [t])) :
    Surveyed (sourceTokens .python source) (before ++ [t])
      (((s.mapLedger (·.announce t.lineSpan)).read (.of .python) t).mapLedger (·.credit)) := by
  have hs : (s.mapLedger (·.announce t.lineSpan)).Sound :=
    Sound.announce (r := .indent s) (hrun ▸ passBefore_sound .python before) _
  have haligned : (s.mapLedger (·.announce t.lineSpan)).Aligned := h.aligned
  have hstacked : (s.mapLedger (·.announce t.lineSpan)).Stacked :=
    ⟨h.stacked.nested, h.stacked.bounded⟩
  have hindents : ((s.mapLedger (·.announce t.lineSpan)).read (.of .python) t).indents =
      if s.opensBody t then s.functionIndent :: s.indents else s.indents.drop (popped s t) := by
    rw [drop_popped]
    exact Indent.read_indents (.of .python) (s.mapLedger (·.announce t.lineSpan)) hs ht
  have hstacked' := hstacked.read (.of .python) haligned hs ht
  have hbegins : beginsLine (sourceTokens .python source) before.length = s.atLineStart := by
    rw [beginsLine_split hsplit, ht, h.layout.atLineStart_eq]
    rfl
  have hline : s.ledger.line = t.line := by
    have := (ledger_line_before .python hsplit).2 ht
    rwa [show (start Language.python).run _ before = _ from hrun] at this
  -- the line breaks inside a token come as tokens of their own after it
  have hledger : ((s.mapLedger (·.announce t.lineSpan)).read (.of .python) t).ledger.credit.line =
      s.ledger.line := by
    obtain ⟨_, _, hreads, _⟩ := Indent.read_reads (.of .python)
      (s.mapLedger (·.announce t.lineSpan)) t hs ht
    rw [Ledger.credit_line, hreads.line_eq]
    rfl
  have hsurvey := survey_token hsplit hrun ht
  refine ⟨hlayout, ⟨hstacked'.nested, hstacked'.bounded⟩, haligned.read (.of .python) hs ht, ?_, ?_, ?_⟩
  · intro hphase
    -- the header is the one that has begun with this token, or the one before it that goes on
    rcases Indent.read_header (.of .python) _ hs ht hphase with
      ⟨hcode, hdef, hfunction, _⟩ | ⟨hold, hfunction, _⟩
    · have hfunction' : ((s.mapLedger (·.announce t.lineSpan)).read (.of .python) t).functionLine =
          s.ledger.line := hfunction
      exact ⟨before.length, inHeader_of_def hsplit hcode hdef (hfunction'.trans hline)
        (hfunction'.trans hledger.symm).le⟩
    · obtain ⟨word, hword⟩ := h.header hold
      refine ⟨word, hword.concat ?_ hledger.ge hfunction⟩
      rw [hbegins]
      exact hs.atLineStart_of_phase hold
  · show List.Forall₂ _ ((s.mapLedger (·.announce t.lineSpan)).read (.of .python) t).indents _
    rw [hindents]
    split at hsurvey
    · rename_i hopens
      rw [if_pos hopens, hsurvey.1]
      have hphase : s.phase ≠ .outside := by
        rw [Indent.phase_of_opensBody hopens]
        simp
      exact h.stands_open hsplit ht hbegins hphase (hs.atLineStart_of_phase hphase)
    · rename_i hopens
      rw [if_neg hopens, hsurvey.1]
      exact h.stands_drop hsplit hbegins
  · split at hsurvey
    · rw [hsurvey.2]
      exact h.ended
    · rw [hsurvey.2]
      intro e he
      rcases List.mem_append.1 he with he | he
      · exact h.ended e he
      · exact h.ends_take hsplit hbegins e he

/-- Every state of a pass over a Python text is in step with the survey of the pass. -/
theorem exists_surveyed (h : sourceTokens .python source = before ++ after) :
    ∃ s, passBefore .python before = .indent s ∧
      Surveyed (sourceTokens .python source) before s := by
  refine forall_beginning (P := fun before => ∃ s, passBefore .python before = .indent s ∧
    Surveyed (sourceTokens .python source) before s) ?_ ?_ h
  · obtain ⟨s, hrun, hlayout⟩ := exists_followsLayout (List.nil_append (sourceTokens .python source)).symm
    obtain rfl : Indent.start 1 = s := indent.inj hrun
    refine ⟨Indent.start 1, rfl, hlayout, ⟨.nil, by simp [Indent.start]⟩, ?_, ?_, .nil, ?_⟩
    · exact fun h => absurd rfl h
    · exact fun h => absurd rfl h
    · simp
  · rintro before t after hsplit ⟨s, hrun, hsurveyed⟩
    obtain ⟨s', hrun', hlayout⟩ := exists_followsLayout
      (show sourceTokens .python source = (before ++ [t]) ++ after by simp [hsplit])
    have hfeed : passBefore .python (before ++ [t]) = (indent s).feed (.of .python) t := by
      rw [← hrun, passBefore, run_append]
      rfl
    rw [feed_indent] at hfeed
    obtain rfl := indent.inj (hrun'.symm.trans hfeed)
    refine ⟨_, hfeed, ?_⟩
    cases ht : t.isNewline with
    | true =>
      rw [ht, if_pos rfl] at hlayout
      rw [if_pos rfl]
      exact hsurveyed.newline hrun hsplit ht hlayout
    | false =>
      rw [ht, if_neg (by simp)] at hlayout
      rw [if_neg (by simp)]
      exact hsurveyed.token hsplit hrun ht hlayout

/-! ## Headers -/

/-- The header of a function that begins on the line `first` and opens at a place: from the word `def` to
the colon, on one logical line. -/
structure HasHeader (tokens : List Token) (first : Int) (opening word : Nat) : Prop where
  begun : word < opening
  isDef : ∃ t, tokens[word]? = some t ∧ t.isCode = true ∧ t.text = "def" ∧ t.line = first
  isColon : ∃ t, tokens[opening]? = some t ∧ t.isNewline = false ∧ t.text = ":"
  sameLine : ∀ j, word < j → j ≤ opening → beginsLine tokens j = false

/-- A function that opens has a header. -/
theorem hasHeader_of_opens (hsplit : sourceTokens .python source = before ++ t :: after)
    (ht : t.isNewline = false) (hopens : (passBefore .python before).opens (.of .python) t = true)
    {name : String} {params : Int} {first : Option Int}
    (hframe : (passBefore .python before).closedBy (.of .python) t = [] →
      ((passBefore .python before).feed (.of .python) t).ledger.frames.head?.map (·.undecided) =
        some (((passBefore .python before).ledger.newFrame name params first).credit t.line
          (lineBreaks t.text))) :
    ∃ word, HasHeader (sourceTokens .python source)
      ((passBefore .python before).ledger.newFrame name params first).startLine before.length word := by
  obtain ⟨s, hrun, hsurveyed⟩ := exists_surveyed hsplit
  have hsound : (indent s).Sound := hrun ▸ passBefore_sound .python before
  have hstep : (indent s).ScopesAgree :=
    hrun ▸ scopesAgree_run _ (scopesAgree_start .python 1) (sound_start .python 1) before
  obtain ⟨hclosed, hopens'⟩ := Indent.feed_counts (.of .python) hsound hstep ht
  rw [hrun] at hopens hframe ⊢
  rw [hopens'] at hopens
  have hphase : s.phase ≠ .outside := by
    rw [Indent.phase_of_opensBody hopens]
    simp
  have hstart : s.atLineStart = false := Indent.Sound.atLineStart_of_phase hsound hphase
  obtain ⟨word, hword⟩ := hsurveyed.header hphase
  have hnone : (indent s).closedBy (.of .python) t = [] := by
    rw [hstart] at hclosed
    exact List.eq_nil_of_length_eq_zero hclosed
  -- the frame on top is the new one, and it begins on the line of the header
  have hline : ((indent s).ledger.newFrame name params first).startLine = s.functionLine := by
    have hs : (s.mapLedger (·.announce t.lineSpan)).Sound := hsound.announce _
    have hstarts := Indent.read_starts (.of .python) (s.mapLedger (·.announce t.lineSpan)) hs ht hopens
    have hhead := congrArg (Option.map (·.startLine)) (hframe hnone)
    have hcredit : ((indent s).feed (.of .python) t).ledger.frames.map (·.startLine) =
        ((s.mapLedger (·.announce t.lineSpan)).read (.of .python) t).ledger.frames.map
          (·.startLine) := by
      rw [feed_of_not_isNewline _ _ ht, absorb, ledger_mapLedger]
      exact Ledger.map_frames_credit _ _ (·.startLine) fun _ _ _ => rfl
    rw [Option.map_map, ← List.head?_map] at hhead
    rw [show ((fun f : Frame => f.startLine) ∘ fun f : Frame => f.undecided) =
      fun f : Frame => f.startLine from rfl, hcredit, hstarts] at hhead
    exact (Option.some.inj hhead).symm.trans (min_eq_left hword.line_le)
  rw [hline]
  refine ⟨word, hword.begun, hword.isDef, ⟨t, getElem?_split hsplit, ht, ?_⟩, ?_⟩
  · rw [Indent.opensBody, Bool.and_eq_true_iff, Bool.and_eq_true_iff, beq_iff_eq, beq_iff_eq] at hopens
    exact hopens.1.2
  · intro j hj hj'
    rcases Nat.lt_or_eq_of_le hj' with hj' | rfl
    · exact hword.sameLine j hj hj'
    · rw [beginsLine_split hsplit, ht, ← hsurveyed.layout.atLineStart_eq, hstart]
      rfl

/-- The functions of a pass have headers, and those that have closed end on the last line that was touched
before. -/
theorem survey_headers (h : sourceTokens .python source = before ++ after) :
    List.Forall₂ (fun f c => ∃ word,
          HasHeader (sourceTokens .python source) f.startLine c.opening word)
        ((passBefore .python before).ledger.frames.map (·.undecided))
        (Survey.of .python before).running ∧
      List.Forall₂ (fun f e =>
          (∃ word, HasHeader (sourceTokens .python source) f.startLine e.opening word) ∧
            f.endLine = lastTouched ((sourceTokens .python source).take e.closing))
        (passBefore .python before).ledger.functions (Survey.of .python before).extents := by
  refine forall_beginning (P := fun before =>
      List.Forall₂ (fun f c => ∃ word,
          HasHeader (sourceTokens .python source) f.startLine c.opening word)
        ((passBefore .python before).ledger.frames.map (·.undecided))
        (Survey.of .python before).running ∧
      List.Forall₂ (fun f e =>
          (∃ word, HasHeader (sourceTokens .python source) f.startLine e.opening word) ∧
            f.endLine = lastTouched ((sourceTokens .python source).take e.closing))
        (passBefore .python before).ledger.functions (Survey.of .python before).extents) ?_ ?_ h
  · exact ⟨.nil, .nil⟩
  · rintro before t after hsplit ⟨hframes, hfunctions⟩
    have htake : (sourceTokens .python source).take before.length = before := by simp [hsplit]
    have hplace := Survey.of_place .python before
    rw [passBefore, ← Survey.of_pass] at hframes hfunctions
    rw [passBefore, ← Survey.of_pass, Survey.of_concat]
    -- whatever closes ends on the last line that was touched before
    have hends {f : FunctionMeasure}
        (hf : f ∈ (Survey.of .python before).pass.closedBy (.of .python) t) :
        f.endLine = lastTouched ((sourceTokens .python source).take
          (Survey.of .python before).place) := by
      rw [Survey.of_pass] at hf
      rw [hplace, htake]
      exact endLine_of_python hsplit hf
    cases ht : t.isNewline with
    | true =>
      exact Survey.step_newline (by rw [Survey.of_pass]; exact passBefore_idle .python before) ht
        hframes hfunctions fun f last c hf hc => ⟨hc, hends hf⟩
    | false =>
      refine Survey.step_token (by rw [Survey.of_pass]; exact passBefore_sound .python before) ht
        (by rw [Survey.of_pass]; exact (ledger_line_before .python hsplit).2 ht) hframes hfunctions
        ?_ (fun _ _ hc => hc) (fun _ _ hc => hc) ?_
      · rw [hplace, Survey.of_pass]
        exact fun hopens name params first hframe => hasHeader_of_opens hsplit ht hopens hframe
      · intro f last c hf hc
        exact ⟨hc.elim id (·.2), hends hf⟩

/-- The functions of a text have headers, and end on the last line that was touched before they closed. -/
theorem recognize_headers (hsucc : (recognize .python source).2 = none) :
    List.Forall₂ (fun f e =>
        (∃ word, HasHeader (sourceTokens .python source) f.startLine e.opening word) ∧
          f.endLine = lastTouched ((sourceTokens .python source).take e.closing))
      (recognize .python source).1.ledger.functions (extents .python source) := by
  obtain ⟨hframes, hfunctions⟩ := survey_headers (List.append_nil (sourceTokens .python source)).symm
  have hframes_nil := recognize_frames_eq_nil hsucc
  have hends {f : FunctionMeasure} := @endLine_of_finish_python source hsucc f
  rw [recognize] at hsucc hframes_nil hends ⊢
  rw [passBefore] at hframes hfunctions hends
  rw [← Survey.of_pass] at *
  refine Survey.finish_rows (by rw [Survey.of_pass]; exact passBefore_sound .python _)
    (by rw [Survey.of_pass]; exact passBefore_idle .python _) hsucc hframes_nil hframes hfunctions ?_
  intro f last c hf hc
  refine ⟨hc, ?_⟩
  show _ = lastTouched ((sourceTokens .python source).take
    (Survey.of .python (sourceTokens .python source)).place)
  rw [Survey.of_place, List.take_length]
  exact hends hf

/-! ## The extents of a text -/

/-- The extent of a Python function, said of the tokens of the text. The header lies on the logical line
that begins with the token at `head`, from the word `def` to the colon that opens the function. The
function closes with the first later logical line that does not begin right of `head`, or with the text;
its last line is the last that was touched before, and no later token is its own. -/
structure IndentedExtent (tokens : List Token) (f : FunctionMeasure) (e : Extent)
    (head word : Nat) : Prop where
  header : HasHeader tokens f.startLine e.opening word
  head_le : head ≤ word
  head_begins : beginsLine tokens head = true
  head_only : ∀ j, head < j → j ≤ e.opening → beginsLine tokens j = false
  opened : e.opening < e.closing
  closed : e.closing ≤ tokens.length
  deeper : ∀ j, e.opening < j → j < e.closing → beginsLine tokens j = true →
    columnAt tokens head < columnAt tokens j
  dedent : e.closing < tokens.length → beginsLine tokens e.closing = true ∧
    columnAt tokens e.closing ≤ columnAt tokens head
  endLine_eq : f.endLine = lastTouched (tokens.take e.closing)
  credited : ∀ p ∈ e.credited, p < e.closing

/-- A header lies on the line of its colon. -/
theorem HasHeader.indentedExtent {f : FunctionMeasure} {e : Extent} {word : Nat}
    (h : HasHeader tokens f.startLine e.opening word) (hends : EndsAtDedent tokens e)
    (hline : f.endLine = lastTouched (tokens.take e.closing)) :
    ∃ head, IndentedExtent tokens f e head word := by
  obtain ⟨t, hcolon, ht, _⟩ := h.isColon
  have htake : tokens.take (e.opening + 1) = tokens.take e.opening ++ [t] := by
    rw [List.take_add_one, hcolon]
    rfl
  have hlength : (tokens.take (e.opening + 1)).length = e.opening + 1 := by
    rw [List.length_take, min_eq_left]
    exact (List.getElem?_eq_some_iff.1 hcolon).1
  have hfresh : (LineState.of (tokens.take (e.opening + 1))).fresh = false := by
    rw [htake, LineState.of_concat, LineState.step, if_neg (by simp [ht])]
  obtain ⟨head, hhead, hbegins, hcolumn, hnone⟩ :=
    exists_beginsLine (List.take_append_drop (e.opening + 1) tokens).symm hfresh
  have hindent : columnAt tokens head = indentAt tokens e.opening := hcolumn
  rw [hlength] at hhead hnone
  refine ⟨head, h, ?_, hbegins, fun j hj hj' => hnone j hj (by omega), hends.opened, hends.closed, ?_,
    ?_, hline, hends.credited⟩
  · -- no line begins after the word, so the line has begun before
    by_contra hlt
    have := h.sameLine head (by omega) (by omega)
    rw [hbegins] at this
    cases this
  · rw [hindent]
    exact hends.deeper
  · rw [hindent]
    exact hends.dedent

/-- The extents of the functions of a Python text. Each ends with the first logical line after its header
that does not begin right of the header's line, or with the text. A function closes before those that
enclose it, and the place where its extent closes is where it closes in the pass. -/
theorem indentation_decides {filename : String} {a : Analysis}
    (h : byFunction .python filename source = .ok a) :
    List.Forall₂ (fun f e => ∃ head word,
        IndentedExtent (sourceTokens .python source) f e head word)
      a.functions (extents .python source) ∧
    (extents .python source).Pairwise Extent.Precedes ∧
    ∀ before after, sourceTokens .python source = before ++ after →
      ((start .python).run (.of .python) before).ledger.functions =
        a.functions.take
          ((extents .python source).countP fun e => decide (e.closing < before.length)) := by
  have hreports := byFunction_reports h
  have hsucc := hreports.succeeds
  have hall := (List.append_nil (sourceTokens .python source)).symm
  obtain ⟨s, hrun, hsurveyed⟩ := exists_surveyed hall
  rw [hreports.functions_eq]
  refine ⟨?_, extents_precede .python source, fun before after => functions_closed_before hsucc⟩
  have hended : ∀ e ∈ extents .python source, EndsAtDedent (sourceTokens .python source) e := by
    intro e he
    rcases List.mem_append.1 he with he | he
    · exact hsurveyed.ended e he
    · obtain ⟨c, hc, rfl⟩ := List.mem_map.1 he
      obtain ⟨d, hstands⟩ := exists_of_forall₂_right hsurveyed.stands hc
      rw [Survey.of_place]
      exact hstands.ends le_rfl fun hlt => absurd hlt (lt_irrefl _)
  have hheaders := recognize_headers hsucc
  refine (forall₂_and_right hheaders hended).imp ?_
  rintro f e ⟨⟨⟨word, hword⟩, hline⟩, hends⟩
  obtain ⟨head, hextent⟩ := hword.indentedExtent hends hline
  exact ⟨head, word, hextent⟩

/-- A Python function inside another, and a line after both. -/
def nestedDefs : String :=
  "def f():\n def g(): x\n y\nz"

/-- The measures of that text. -/
def nestedDefsMeasured : Analysis where
  totalCcn := 2
  nloc := 4
  tokenCount := 13
  decisionPoints := 0
  functions := [⟨"g", 2, 2, 1, 1, 0, 2, 1⟩, ⟨"f", 1, 3, 1, 3, 0, 6, 0⟩]
  language := some .python
  filename := ""

/-- The inner function ends with the third line, and the outer one with the last. -/
theorem indentation_decides_nestedDefs :
    byFunction .python "" nestedDefs = .ok nestedDefsMeasured ∧
      extents .python nestedDefs = [⟨⟨10, [11, 10]⟩, 13⟩, ⟨⟨4, [13, 9, 8, 7, 6, 4]⟩, 15⟩] ∧
      ∃ head word, IndentedExtent (sourceTokens .python nestedDefs) ⟨"g", 2, 2, 1, 1, 0, 2, 1⟩
        ⟨⟨10, [11, 10]⟩, 13⟩ head word := by
  have hmeasured : byFunction .python "" nestedDefs = .ok nestedDefsMeasured := by
    decide +kernel
  have hextents : extents .python nestedDefs =
      [⟨⟨10, [11, 10]⟩, 13⟩, ⟨⟨4, [13, 9, 8, 7, 6, 4]⟩, 15⟩] := by
    decide +kernel
  obtain ⟨hfunctions, _⟩ := indentation_decides hmeasured
  rw [hextents] at hfunctions
  exact ⟨hmeasured, hextents, (List.forall₂_cons.1 hfunctions).1⟩

end Analysis

end Cyclomatic
