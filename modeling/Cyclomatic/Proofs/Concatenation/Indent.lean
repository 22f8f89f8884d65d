import Mathlib
import Cyclomatic.Proofs.Concatenation.Following

/-!
# The first part of a Python text

At the end of the first part its functions are still open, and so they are while the pass waits for the
first token of the second part (`Indent.Awaits`). That token closes them, since it stands on column 0, and
they close on the last code line, just as they would have closed at the end of the input. Then the state
differs from that of a pass over the second part alone in its lines only, except for the registers of the
last header, which nothing reads before the next one.
-/

namespace Cyclomatic.Recognizer

variable {table : DecisionTable} {t : Token}

namespace Indent

variable {s : Indent}

/-- All columns that a state keeps count from 0. -/
structure FromZero (s : Indent) : Prop where
  lineIndent : 0 ≤ s.lineIndent
  functionIndent : 0 ≤ s.functionIndent
  indents : ∀ i ∈ s.indents, 0 ≤ i

theorem FromZero.foldl_closeInnermost (h : s.FromZero) (xs : List Int) :
    (xs.foldl (fun s _ => s.closeInnermost) s).FromZero := by
  induction xs generalizing s with
  | nil => exact h
  | cons x xs ih =>
    exact ih ⟨h.lineIndent, h.functionIndent, fun i hi => h.indents i (List.mem_of_mem_tail hi)⟩

theorem FromZero.advance (h : s.FromZero) (ht : 0 ≤ t.column) : (s.advance t).FromZero := by
  have hstart : FromZero
      { s with firstOnLine := true, atLineStart := false, lineIndent := t.column } :=
    ⟨ht, h.functionIndent, h.indents⟩
  have hbegun : (s.beginLine t.column).FromZero := by
    unfold beginLine
    split
    · exact hstart.foldl_closeInnermost _
    · exact ⟨h.lineIndent, h.functionIndent, h.indents⟩
  have hline (last : Int) : FromZero { s.beginLine t.column with lastCodeLine := last } :=
    ⟨hbegun.lineIndent, hbegun.functionIndent, hbegun.indents⟩
  have hbrackets {x : Indent} (hx : x.FromZero) : (x.followBrackets t.text).FromZero := by
    unfold followBrackets
    split
    · exact ⟨hx.lineIndent, hx.functionIndent, hx.indents⟩
    · split
      · exact ⟨hx.lineIndent, hx.functionIndent, hx.indents⟩
      · exact hx
  unfold Indent.advance
  dsimp only
  split
  · exact hbrackets (hline _)
  · exact hline _

theorem FromZero.readPhase (h : s.FromZero) (t : Token) : (s.readPhase t).FromZero := by
  have hsame {x : Indent} (hline : x.lineIndent = s.lineIndent)
      (hfunction : x.functionIndent = s.functionIndent) (hindents : x.indents = s.indents) :
      x.FromZero :=
    ⟨hline ▸ h.lineIndent, hfunction ▸ h.functionIndent, hindents ▸ h.indents⟩
  unfold Indent.readPhase
  cases s.phase with
  | outside =>
    dsimp only
    split
    · exact ⟨h.lineIndent, h.lineIndent, h.indents⟩
    · exact h
  | name =>
    dsimp only
    split
    · exact hsame rfl rfl rfl
    · exact hsame rfl rfl rfl
  | beforeParameters =>
    dsimp only [Indent.beforeParameters]
    split
    · exact hsame rfl rfl rfl
    · split
      · exact hsame rfl rfl rfl
      · exact hsame rfl rfl rfl
  | typeParameters =>
    dsimp only [Indent.inTypeParameters]
    split
    · exact hsame rfl rfl rfl
    · split
      · exact hsame rfl rfl rfl
      · exact h
  | parameters => exact hsame rfl rfl rfl
  | returnType =>
    dsimp only
    split
    · exact ⟨h.lineIndent, h.functionIndent, List.forall_mem_cons.2 ⟨h.functionIndent, h.indents⟩⟩
    · exact h

theorem FromZero.read (h : s.FromZero) (table : DecisionTable)
    (ht : t.isNewline = false → 0 ≤ t.column) : (s.read table t).FromZero := by
  unfold Indent.read
  split
  · unfold readNewline
    split
    · exact h
    · split
      · exact ⟨h.lineIndent, h.functionIndent, h.indents⟩
      · exact ⟨h.lineIndent, h.functionIndent, h.indents⟩
  · have hread := (h.advance (ht (Bool.eq_false_iff.2 ‹_›))).readPhase t
    dsimp only
    split
    · rcases countDecision_cases (s.readToken t) t.text with
        ⟨_, hcount⟩ | ⟨_, ⟨_, hcount⟩ | ⟨_, hcount⟩⟩
      all_goals rw [hcount]
      · exact hread
      · exact ⟨hread.lineIndent, hread.functionIndent, hread.indents⟩
      · exact ⟨hread.lineIndent, hread.functionIndent, hread.indents⟩
    · exact hread

/-- Closing functions that do not claim the announced token. -/
theorem foldl_closeInnermost_unclaimed (xs : List Int) (s : Indent)
    (hreached : ∀ f ∈ s.ledger.frames, f.startLine ≤ s.lastCodeLine)
    (hclaim : s.ledger.pending.claimedBy s.lastCodeLine = none) :
    ∃ l, xs.foldl (fun s _ => s.closeInnermost) s =
        { s with indents := s.indents.drop xs.length, ledger := l } ∧
      l.line = s.ledger.line ∧ l.codeLines = s.ledger.codeLines ∧ l.pending = s.ledger.pending ∧
      l.frames = s.ledger.frames.drop xs.length ∧
      l.functions = s.ledger.functions ++
        (s.ledger.frames.take xs.length).map (·.measure s.lastCodeLine) := by
  induction xs generalizing s with
  | nil => exact ⟨s.ledger, rfl, rfl, rfl, rfl, rfl, by simp⟩
  | cons x xs ih =>
    cases hframes : s.ledger.frames with
    | nil =>
      -- no function is left: only the indentation goes
      have hclose : s.closeInnermost = { s with indents := s.indents.tail } := by
        rw [closeInnermost, Ledger.closeFunction_of_frames_eq_nil hframes]
      obtain ⟨l, hl, hline, hcodeLines, hpending, hrest, hfunctions⟩ :=
        ih { s with indents := s.indents.tail } hreached hclaim
      simp only [hframes, List.drop_nil, List.take_nil] at hrest hfunctions
      refine ⟨l, ?_, hline, hcodeLines, hpending, ?_, ?_⟩
      · rw [List.foldl_cons, hclose, hl]
        simp
      · simp [hrest]
      · simp [hfunctions]
    | cons f fs =>
      -- the function ends on the last line with code, which is not before its header
      have hlast : max s.lastCodeLine f.startLine = s.lastCodeLine := by
        rw [hframes] at hreached
        exact max_eq_left (hreached f List.mem_cons_self)
      have hclose : s.closeInnermost =
          { s with
            indents := s.indents.tail
            ledger :=
              { s.ledger with
                frames := fs, closed := s.ledger.closed.push (f.measure s.lastCodeLine) } } := by
        simp only [closeInnermost, Ledger.closeFunction, hframes, Option.getD_some, hlast, hclaim]
      obtain ⟨l, hl, hline, hcodeLines, hpending, hrest, hfunctions⟩ := ih s.closeInnermost
        (by
          rw [hclose]
          exact fun g hg => hreached g (hframes ▸ List.mem_cons_of_mem f hg))
        (by
          rw [hclose]
          exact hclaim)
      rw [hclose] at hl hline hcodeLines hpending hrest hfunctions
      refine ⟨l, ?_, hline, hcodeLines, hpending, ?_, ?_⟩
      · rw [List.foldl_cons, hclose, hl]
        simp
      · exact hrest
      · rw [hfunctions]
        simp [Ledger.functions]

theorem FromZero.mapLedger (h : s.FromZero) (f : Ledger → Ledger) : (s.mapLedger f).FromZero :=
  ⟨h.lineIndent, h.functionIndent, h.indents⟩

/-- Where a logical line begins, a line break changes nothing. -/
theorem readNewline_of_atLineStart (implicit : Bool) (hphase : s.phase = .outside)
    (hstart : s.atLineStart = true) : s.readNewline implicit = s := by
  have hsame : { s with atLineStart := true } = s := by rw [← hstart]
  unfold Indent.readNewline
  rw [if_pos hphase, hsame, ite_self]

/-- What is measured of a pass that ends here: what has closed, and what is open. -/
def measured (s : Indent) : List FunctionMeasure :=
  s.ledger.functions ++ s.ledger.frames.map (·.measure s.lastCodeLine)

/-- Closing all functions where none of them claims the announced token. -/
theorem foldl_closeInnermost_indents (hreached : ∀ f ∈ s.ledger.frames, f.startLine ≤ s.lastCodeLine)
    (hstep : s.InStep)
    (hclaim : s.ledger.pending.claimedBy s.lastCodeLine = none) :
    ∃ l, s.indents.foldl (fun s _ => s.closeInnermost) s = { s with indents := [], ledger := l } ∧
      l.line = s.ledger.line ∧ l.codeLines = s.ledger.codeLines ∧ l.pending = s.ledger.pending ∧
      l.frames = [] ∧ l.functions = s.measured := by
  obtain ⟨l, hl, hline, hcodeLines, hpending, hframes, hfunctions⟩ :=
    foldl_closeInnermost_unclaimed s.indents s hreached hclaim
  have hlength : s.indents.length = s.ledger.frames.length := hstep
  rw [List.drop_length] at hl
  rw [hlength, List.drop_length] at hframes
  rw [hlength, List.take_length] at hfunctions
  exact ⟨l, hl, hline, hcodeLines, hpending, hframes, hfunctions⟩

/-- A logical line that begins left of all open functions closes them. -/
theorem beginLine_closes (hreached : ∀ f ∈ s.ledger.frames, f.startLine ≤ s.lastCodeLine)
    (hstep : s.InStep) (hclaim : s.ledger.pending.claimedBy s.lastCodeLine = none)
    (hstart : s.atLineStart = true) {column : Int} (hcolumn : ∀ i ∈ s.indents, column ≤ i) :
    ∃ l, s.beginLine column =
        { s with
          firstOnLine := true, atLineStart := false, lineIndent := column
          indents := [], ledger := l } ∧
      l.line = s.ledger.line ∧ l.codeLines = s.ledger.codeLines ∧ l.pending = s.ledger.pending ∧
      l.frames = [] ∧ l.functions = s.measured := by
  have hall : s.indents.takeWhile (fun i => decide (column ≤ i)) = s.indents := by
    rw [List.takeWhile_eq_self_iff]
    exact fun i hi => decide_eq_true (hcolumn i hi)
  obtain ⟨l, hl, hrest⟩ := foldl_closeInnermost_indents
    (s := { s with firstOnLine := true, atLineStart := false, lineIndent := column })
    hreached hstep hclaim
  refine ⟨l, ?_, hrest⟩
  rw [beginLine, if_pos hstart, dedent]
  dsimp only
  rw [hall]
  exact hl

/-- The header is released before the end. -/
theorem conclude_indent (hsound : s.Sound) (hstep : s.InStep) (hbrackets : s.bracketDepth = 0)
    (hidle : s.ledger.pending = .idle) :
    (indent s).conclude = .ok s.releaseHeader.measured := by
  have hreached : ∀ f ∈ s.releaseHeader.ledger.frames, f.startLine ≤ s.releaseHeader.lastCodeLine :=
    Ledger.startLine_le_recordDecisions hsound.reached _
  have hstep' : s.releaseHeader.InStep := by
    unfold InStep releaseHeader
    rw [Ledger.recordDecisions_depth]
    exact hstep
  obtain ⟨l, hl, _, _, _, hframes, hfunctions⟩ := foldl_closeInnermost_indents hreached hstep' (by
    rw [releaseHeader, Ledger.recordDecisions_pending, hidle]
    rfl)
  have hfinish : s.finish = ({ s.releaseHeader with indents := [], ledger := l }, none) := by
    have hnone : ¬ 0 < s.releaseHeader.bracketDepth := by
      show ¬ 0 < s.bracketDepth
      omega
    unfold Indent.finish
    dsimp only
    rw [if_neg hnone, hl]
  have hsucc : (indent s).finish = (indent { s.releaseHeader with indents := [], ledger := l }, none) := by
    rw [Recognizer.finish, hfinish]
  rw [conclude_of_finish (by rw [hsucc]), hsucc]
  show Except.ok l.closeAll.functions = _
  rw [Ledger.closeAll_of_frames_eq_nil hframes, hfunctions]

/-- The state of a pass, `n` lines after the first part, that waits for the first token of the second on
its line `line`. The functions of the first part are still open. -/
structure Awaits (n : Int) (past : LineSet) (fs : List FunctionMeasure) (line : Int) (s : Indent) :
    Prop where
  sound : s.Sound
  inStep : s.InStep
  fromZero : s.FromZero
  atLineStart_eq : s.atLineStart = true
  bracketDepth_eq : s.bracketDepth = 0
  line_eq : s.ledger.line = line + n
  lastCodeLine_lt : s.lastCodeLine < s.ledger.line
  codeLines_eq : s.ledger.codeLines = past
  pending_eq : s.ledger.pending = .idle
  measured_eq : s.measured = fs

section Awaits

variable {n line : Int} {past : LineSet} {fs : List FunctionMeasure}

theorem Awaits.phase_eq (h : Awaits n past fs line s) : s.phase = .outside :=
  h.sound.lineStart h.atLineStart_eq

theorem Awaits.headerDecisions_eq (h : Awaits n past fs line s) : s.headerDecisions = 0 :=
  h.sound.header (by rw [h.phase_eq]; rfl)

/-- Line breaks are waited out. -/
theorem Awaits.newline (h : Awaits n past fs line s) (table : DecisionTable)
    (ht : t.isNewline = true) :
    ∃ s', (indent s).feed table t = indent s' ∧ Awaits n past fs (line + 1) s' := by
  have hsound : (indent (s.mapLedger Ledger.nextLine)).Sound := Sound.nextLine (r := indent s) h.sound
  refine ⟨s.mapLedger Ledger.nextLine, ?_, ?_⟩
  · rw [feed_of_isNewline table _ ht]
    show indent ((s.mapLedger Ledger.nextLine).read table t) = _
    rw [Indent.read, if_pos ht,
      readNewline_of_atLineStart (s := s.mapLedger Ledger.nextLine) _ h.phase_eq h.atLineStart_eq]
  · refine ⟨hsound, h.inStep, h.fromZero.mapLedger _, h.atLineStart_eq, h.bracketDepth_eq, ?_, ?_,
      h.codeLines_eq, h.pending_eq, h.measured_eq⟩
    · show s.ledger.line + 1 = line + 1 + n
      rw [h.line_eq]
      omega
    · exact h.lastCodeLine_lt.trans (Int.lt_succ _)

theorem Awaits.conclude (h : Awaits n past fs line s) : (indent s).conclude = .ok fs := by
  have hrelease : s.releaseHeader.measured = s.measured := by
    rw [measured, releaseHeader, h.headerDecisions_eq, Nat.cast_zero, Ledger.recordDecisions_zero]
    rfl
  rw [conclude_indent h.sound h.inStep h.bracketDepth_eq h.pending_eq, hrelease, h.measured_eq]

/-- At the first token of the second part, which stands on column 0, the functions of the first part
close. -/
theorem Awaits.advance (h : Awaits n past fs line s) (hpast : ∀ m ∈ past, m ≤ n) (hline : 1 ≤ line)
    (ht : t.column = 0) :
    Moved (following n past hpast fs)
      (((Indent.start line).mapLedger (·.announce t.lineSpan)).advance t)
      ((s.mapLedger (·.announce t.lineSpan)).advance t) := by
  -- no indentation on the stack is left of column 0, so all functions close
  obtain ⟨l, hbegin, hlline, hcodeLines, hpending, hframes, hfunctions⟩ :=
    beginLine_closes (s := s.mapLedger (·.announce t.lineSpan)) h.sound.reached h.inStep
      (if_neg (not_le.2 h.lastCodeLine_lt)) h.atLineStart_eq h.fromZero.indents
  have hledger : Ledger.Moved (following n past hpast fs) (({ line } : Ledger).announce t.lineSpan) l :=
    { line_eq := hlline.trans h.line_eq
      begins := hline
      frames_eq := hframes
      functions := (hfunctions.trans h.measured_eq).trans (List.append_nil fs).symm
      codeLines_eq := hcodeLines.trans h.codeLines_eq
      pending_eq := hpending.trans (congrArg (PendingToken.announced · _) h.line_eq)
      together := fun _ _ _ => together_following _ _ }
  apply Moved.advance_of_beginLine
  rw [ht, hbegin]
  exact
    { phase_eq := h.phase_eq
      bracketDepth_eq := h.bracketDepth_eq
      atLineStart_eq := rfl
      firstOnLine_eq := rfl
      lineIndent_eq := rfl
      lastCodeLine_eq := by
        show l.line + (lineBreaks t.text : Int) = line + (lineBreaks t.text : Int) + n
        rw [hledger.line_eq]
        exact add_right_comm line n _
      indents_eq := rfl
      headerDecisions_eq := h.headerDecisions_eq
      header := fun hphase => absurd rfl hphase
      begins := fun hphase => absurd rfl hphase
      typeParameterDepth_eq := fun hphase => by cases hphase
      parameters_eq := fun hphase => by rcases hphase with hphase | hphase <;> cases hphase
      ledger := hledger }

/-- Whether the first token that is no line break stands on column 0. -/
def BeginsAtMargin (ts : List Token) : Prop :=
  ∀ t, ts.find? (!·.isNewline) = some t → t.column = 0

/-- The second part is read as if the first had been closed, and its lines counted on. -/
theorem Awaits.functionsAfter (h : Awaits n past fs line s) (hpast : ∀ m ∈ past, m ≤ n)
    (hline : 1 ≤ line) (table : DecisionTable) {ts : List Token} (hts : BeginsAtMargin ts) :
    (indent s).functionsAfter table ts =
      joined n fs ((indent (Indent.start line)).functionsAfter table ts) := by
  induction ts generalizing line s with
  | nil =>
    show (indent s).conclude = joined n fs (.ok [])
    rw [h.conclude, joined, Except.map, List.map_nil, List.append_nil]
  | cons t ts ih =>
    rw [functionsAfter_cons, functionsAfter_cons]
    cases ht : t.isNewline with
    | true =>
      obtain ⟨s', hs', hawaits⟩ := h.newline table ht
      -- before its first token the second part has only counted lines
      have hstart : (indent (Indent.start line)).feed table t = indent (Indent.start (line + 1)) := by
        rw [feed_of_isNewline table _ ht]
        show indent (((Indent.start line).mapLedger Ledger.nextLine).read table t) = _
        rw [Indent.read, if_pos ht, readNewline_of_atLineStart _ rfl rfl]
        rfl
      have hrest : BeginsAtMargin ts := by
        intro u hu
        exact hts u (by rw [List.find?_cons, ht]; exact hu)
      rw [refuses_of_isNewline ht, refuses_of_isNewline ht, hs', hstart]
      exact ih hawaits (by omega) hrest
    | false =>
      have hmargin : t.column = 0 := hts t (by rw [List.find?_cons, ht]; rfl)
      have hmoved := (h.advance hpast hline hmargin).read_of_advance table ht
      have hrefuses : (indent s).refuses t = (indent (Indent.start line)).refuses t := by
        rw [Recognizer.refuses, Recognizer.refuses, Indent.refuses, Indent.refuses, h.phase_eq]
        rfl
      rw [hrefuses]
      split
      · rfl
      · rw [feed_of_not_isNewline table _ ht, feed_of_not_isNewline table _ ht]
        exact Recognizer.Moved.functionsAfter
          (.indent (hmoved.mapLedger _ _ hmoved.ledger.credit)) table ts

end Awaits

/-- Outside brackets a line break releases the header. -/
theorem readNewline_of_bracketDepth (hsound : s.Sound) (hbrackets : s.bracketDepth = 0) :
    (s.readNewline false).ledger = s.releaseHeader.ledger ∧
      (s.readNewline false).atLineStart = true ∧
      (s.readNewline false).lineIndent = s.lineIndent ∧
      (s.readNewline false).functionIndent = s.functionIndent ∧
      (s.readNewline false).indents = s.indents := by
  unfold Indent.readNewline
  rw [hbrackets]
  simp only [Bool.false_eq_true, lt_self_iff_false, or_self, if_false]
  split
  · rename_i houtside
    refine ⟨?_, rfl, rfl, rfl, rfl⟩
    rw [releaseHeader, hsound.header (by rw [houtside]; rfl), Nat.cast_zero,
      Ledger.recordDecisions_zero]
  · exact ⟨rfl, rfl, rfl, rfl, rfl⟩

/-- After the line break at its end the first part waits for the second. -/
theorem exists_awaits (hahead : Ahead 0 (indent s)) (hstep : s.InStep) (hzero : s.FromZero)
    (hbrackets : s.bracketDepth = 0) (table : DecisionTable) (ht : t.EndsLine) :
    ∃ s', (indent s).feed table t = indent s' ∧
      Awaits s.ledger.line s.ledger.codeLines s.releaseHeader.measured 1 s' := by
  have hsound : (s.mapLedger Ledger.nextLine).Sound := Sound.nextLine (r := indent s) hahead.sound
  obtain ⟨hledger, hstart, hline, hfunction, hindents⟩ :=
    readNewline_of_bracketDepth (s := s.mapLedger Ledger.nextLine) hsound hbrackets
  obtain ⟨_, hbrackets', hlast, hstep'⟩ := readNewline_frame (s.mapLedger Ledger.nextLine) false
  have hledger' : ((s.mapLedger Ledger.nextLine).readNewline false).ledger =
      s.releaseHeader.ledger.nextLine :=
    hledger.trans (s.ledger.nextLine_recordDecisions s.headerDecisions).symm
  refine ⟨(s.mapLedger Ledger.nextLine).readNewline false, ?_, ?_⟩
  · rw [feed_of_isNewline table _ ht.isNewline]
    show indent ((s.mapLedger Ledger.nextLine).read table t) = _
    rw [Indent.read, if_pos ht.isNewline, ht.explicit]
  · have hnext : s.releaseHeader.ledger.nextLine.line = s.ledger.line + 1 :=
      congrArg (· + 1) (Ledger.recordDecisions_line _ _)
    refine ⟨readNewline_sound _ _ hsound, hstep' hstep,
      ⟨hline ▸ hzero.lineIndent, hfunction ▸ hzero.functionIndent, hindents ▸ hzero.indents⟩,
      hstart, hbrackets'.trans hbrackets, ?_, ?_, ?_, ?_, ?_⟩
    · rw [hledger', hnext, add_comm]
    · have hle := hahead.lastCodeLine_le s rfl
      rw [hledger', hnext, hlast]
      exact lt_of_le_of_lt hle (by show s.ledger.line + (0 : Nat) < s.ledger.line + 1; simp)
    · rw [hledger']
      exact Ledger.recordDecisions_codeLines _ _
    · rw [hledger']
      exact (Ledger.recordDecisions_pending _ _).trans hahead.idle
    · rw [measured, hledger', hlast]
      rfl

/-- Columns that count from 0 do so throughout a pass. -/
theorem exists_fromZero_run (hs : s.FromZero) (table : DecisionTable) {ts : List Token}
    (hts : ∀ t ∈ ts, t.isNewline = false → 0 ≤ t.column) :
    ∃ s', (indent s).run table ts = indent s' ∧ s'.FromZero := by
  induction ts generalizing s with
  | nil => exact ⟨s, rfl, hs⟩
  | cons t ts ih =>
    obtain ⟨ht, hts⟩ := List.forall_mem_cons.1 hts
    rw [run_cons]
    cases hn : t.isNewline with
    | true =>
      rw [feed_of_isNewline table _ hn]
      exact ih ((hs.mapLedger _).read table ht) hts
    | false =>
      rw [feed_of_not_isNewline table _ hn]
      exact ih (((hs.mapLedger _).read table ht).mapLedger _) hts

end Indent

end Cyclomatic.Recognizer
