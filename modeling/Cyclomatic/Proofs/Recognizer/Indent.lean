import Mathlib
import Cyclomatic.Proofs.Ledger.Reading
import Cyclomatic.Recognizer.Indent

/-!
# Readings of Python tokens

A token first closes the functions that its line ends, if it begins a logical line, and may then open
one; it never does both. The decisions of a header wait until its function opens or its line ends.

The main statements are that a token (`Indent.read_reads`), a line break (`Indent.readNewline_settles`)
and the end of the input (`Indent.finish_settles`) are readings of the ledger that lose no decision, and
that all of them keep the indentations in step with the open functions. They need three facts about the
states of a pass (`Indent.Sound`): no header is open where a logical line begins, decisions wait in
headers only, and no open function begins after the last code line.
-/

namespace Cyclomatic.Recognizer.Indent

/-! ## States of a pass -/

/-- The phases of a header in which decisions wait. -/
def inHeader : IndentPhase → Bool
  | .parameters | .returnType => true
  | _ => false

/-- What holds in every state of a pass. -/
structure Sound (s : Indent) : Prop where
  lineStart : s.atLineStart = true → s.phase = .outside
  header : inHeader s.phase = false → s.headerDecisions = 0
  reached : ∀ f ∈ s.ledger.frames, f.startLine ≤ s.lastCodeLine
  started : s.ledger.Started

/-- There is an indentation for each open function. -/
def InStep (s : Indent) : Prop :=
  s.indents.length = s.ledger.depth

/-! ## Closing functions -/

/-- Whether a function that closes on the last code line does not end before the current one. -/
def reaches (s : Indent) : Bool :=
  decide (s.ledger.line ≤ s.lastCodeLine)

variable {s s' : Indent}

/-- Closing functions changes the stack of indentations and the ledger only. -/
theorem foldl_closeInnermost (xs : List Int) (s : Indent)
    (hs : ∀ f ∈ s.ledger.frames, f.startLine ≤ s.lastCodeLine) :
    ∃ l, xs.foldl (fun s _ => s.closeInnermost) s =
        { s with indents := s.indents.drop xs.length, ledger := l } ∧
      Ledger.Settles s.reaches 0 s.ledger l ∧ l.depth = s.ledger.depth - xs.length ∧
      ∀ f ∈ l.frames, f ∈ s.ledger.frames := by
  induction xs generalizing s with
  | nil => exact ⟨s.ledger, rfl, .refl _, rfl, fun f hf => hf⟩
  | cons x xs ih =>
    -- no open function begins after the last code line, so all of them end on it
    have hclose : Ledger.Settles s.reaches 0 s.ledger s.closeInnermost.ledger := by
      refine (Ledger.Settles.refl s.ledger).close (some s.lastCodeLine) ?_
      intro f hf
      have hf := hs f (List.mem_of_mem_head? hf)
      rw [Option.getD_some, max_eq_left hf]
      rfl
    have htail : ∀ f ∈ s.closeInnermost.ledger.frames, f ∈ s.ledger.frames := by
      intro f hf
      rw [closeInnermost, Ledger.closeFunction_frames] at hf
      exact List.mem_of_mem_tail hf
    obtain ⟨l, hl, hsettles, hdepth, hframes⟩ := ih s.closeInnermost fun f hf => hs f (htail f hf)
    refine ⟨l, ?_, ?_, ?_, fun f hf => htail f (hframes f hf)⟩
    · rw [List.foldl_cons, hl, List.length_cons]
      simp only [closeInnermost, List.drop_tail]
    · have hreaches : s.closeInnermost.reaches = s.reaches := by
        simp only [reaches, closeInnermost, Ledger.closeFunction_line]
      rw [hreaches] at hsettles
      exact hclose.trans hsettles
    · rw [hdepth, closeInnermost, Ledger.closeFunction_depth, List.length_cons]
      omega

/-! ## Brackets -/

/-- The number of open brackets after a token. A closing bracket that matches nothing is passed over. -/
def bracketsAfter (depth : Nat) (t : Token) : Nat :=
  if t.isCode then
    if isOpening t.text then depth + 1 else if isClosing t.text then depth - 1 else depth
  else depth

/-! ## Up to the token itself -/

/-- What following lines and brackets up to a token leaves behind: if the token begins a logical line,
functions have closed, and otherwise the ledger is as it was. -/
structure Advances (s : Indent) (t : Token) (s' : Indent) : Prop where
  settles : Ledger.Settles s.reaches 0 s.ledger s'.ledger
  ledger_eq : s.atLineStart = false → s'.ledger = s.ledger
  inStep : s.InStep → s'.InStep
  phase_eq : s'.phase = s.phase
  headerDecisions_eq : s'.headerDecisions = s.headerDecisions
  firstOnLine_eq : s'.firstOnLine = s.atLineStart
  atLineStart_eq : s'.atLineStart = false
  bracketDepth_eq : s'.bracketDepth = bracketsAfter s.bracketDepth t
  lastCodeLine_eq : s'.lastCodeLine = s.ledger.line + lineBreaks t.text

/-- Closing the functions that a line ends. -/
theorem beginLine_cases (s : Indent) (column : Int)
    (hs : ∀ f ∈ s.ledger.frames, f.startLine ≤ s.lastCodeLine) :
    ∃ indents l lineIndent, s.beginLine column =
        { s with firstOnLine := s.atLineStart, atLineStart := false, lineIndent, indents, ledger := l } ∧
      Ledger.Settles s.reaches 0 s.ledger l ∧ (s.atLineStart = false → l = s.ledger) ∧
      (s.InStep → indents.length = l.depth) := by
  unfold beginLine
  cases hstart : s.atLineStart with
  | false =>
    refine ⟨s.indents, s.ledger, s.lineIndent, ?_, .refl _, fun _ => rfl, id⟩
    simp only [Bool.false_eq_true, if_false]
  | true =>
    obtain ⟨l, hl, hsettles, hdepth, _⟩ := foldl_closeInnermost
      (s.indents.takeWhile (column ≤ ·))
      { s with firstOnLine := true, atLineStart := false, lineIndent := column } hs
    refine ⟨_, l, column, hl, hsettles, fun h => by simp at h, ?_⟩
    intro hstep
    rw [List.length_drop, hdepth]
    show s.indents.length - _ = s.ledger.depth - _
    rw [hstep]

theorem advance_advances (s : Indent) (t : Token) (hs : s.Sound) : Advances s t (s.advance t) := by
  obtain ⟨indents, l, lineIndent, hbegin, hsettles, heq, hstep⟩ :=
    beginLine_cases s t.column hs.reached
  have hline : l.line = s.ledger.line := hsettles.line_eq
  unfold advance
  rw [hbegin]
  dsimp only
  have hbrackets : ∀ x : Indent, (if t.isCode then x.followBrackets t.text else x) =
      { x with bracketDepth := bracketsAfter x.bracketDepth t } := by
    intro x
    unfold followBrackets bracketsAfter
    split
    · split
      · rfl
      · split <;> rfl
    · rfl
  rw [hbrackets]
  exact
    { settles := hsettles
      ledger_eq := heq
      inStep := hstep
      phase_eq := rfl
      headerDecisions_eq := rfl
      firstOnLine_eq := rfl
      atLineStart_eq := rfl
      bracketDepth_eq := rfl
      lastCodeLine_eq := by rw [hline] }

/-- Following lines and brackets leaves decisions waiting in headers only. -/
theorem Advances.header {t : Token} (h : Advances s t s') (hs : s.Sound) :
    inHeader s'.phase = false → s'.headerDecisions = 0 := by
  rw [h.phase_eq, h.headerDecisions_eq]
  exact hs.header

theorem advance_sound (s : Indent) (t : Token) (hs : s.Sound) : (s.advance t).Sound := by
  have hadvance := advance_advances s t hs
  have hstarted : (s.advance t).ledger.Started := hadvance.settles.started hs.started
  refine ⟨?_, hadvance.header hs, ?_, hstarted⟩
  · rw [hadvance.atLineStart_eq]
    simp
  · intro f hf
    have hf := hstarted f hf
    rw [hadvance.settles.line_eq] at hf
    rw [hadvance.lastCodeLine_eq]
    omega

/-! ## The token itself -/

/-- What reading a token in a phase leaves alone, and that decisions still wait in headers only. -/
structure Frames (s s' : Indent) : Prop where
  firstOnLine_eq : s'.firstOnLine = s.firstOnLine
  atLineStart_eq : s'.atLineStart = s.atLineStart
  bracketDepth_eq : s'.bracketDepth = s.bracketDepth
  lastCodeLine_eq : s'.lastCodeLine = s.lastCodeLine
  header : inHeader s'.phase = false → s'.headerDecisions = 0

/-- A token of a phase leaves functions and decisions as they are, or opens the function whose header
has been read and gives it the decisions of the header. -/
def Opens (s s' : Indent) : Prop :=
  (s'.ledger = s.ledger ∧ s'.indents = s.indents ∧ s'.headerDecisions = s.headerDecisions) ∨
    (s.phase = .returnType ∧ s'.indents.length = s.indents.length + 1 ∧ s'.headerDecisions = 0 ∧
      ∃ name params start,
        s'.ledger = (s.ledger.openFunction name params start).recordDecisions s.headerDecisions)

theorem beforeParameters_spec (s : Indent) (text : String) (h : s.headerDecisions = 0) :
    Frames s (s.beforeParameters text) ∧ Opens s (s.beforeParameters text) := by
  unfold beforeParameters
  split
  · exact ⟨⟨rfl, rfl, rfl, rfl, fun _ => h⟩, .inl ⟨rfl, rfl, rfl⟩⟩
  · split
    · exact ⟨⟨rfl, rfl, rfl, rfl, fun _ => h⟩, .inl ⟨rfl, rfl, rfl⟩⟩
    · exact ⟨⟨rfl, rfl, rfl, rfl, fun _ => h⟩, .inl ⟨rfl, rfl, rfl⟩⟩

theorem inTypeParameters_spec (s : Indent) (text : String) (h : s.headerDecisions = 0) :
    Frames s (s.inTypeParameters text) ∧ Opens s (s.inTypeParameters text) := by
  unfold inTypeParameters
  split
  · exact ⟨⟨rfl, rfl, rfl, rfl, fun _ => h⟩, .inl ⟨rfl, rfl, rfl⟩⟩
  · split
    · exact ⟨⟨rfl, rfl, rfl, rfl, fun _ => h⟩, .inl ⟨rfl, rfl, rfl⟩⟩
    · exact ⟨⟨rfl, rfl, rfl, rfl, fun _ => h⟩, .inl ⟨rfl, rfl, rfl⟩⟩

theorem inParameters_spec (s : Indent) (text : String) :
    Frames s (s.inParameters text) ∧ Opens s (s.inParameters text) := by
  refine ⟨⟨rfl, rfl, rfl, rfl, ?_⟩, .inl ⟨rfl, rfl, rfl⟩⟩
  -- the parameters go on, or the return type follows: both are parts of the header
  unfold inParameters
  dsimp only
  split <;> simp [inHeader]

/-- In every phase a token does nothing to the ledger or opens a function. -/
theorem readPhase_spec (s : Indent) (t : Token)
    (hs : inHeader s.phase = false → s.headerDecisions = 0) :
    Frames s (s.readPhase t) ∧ Opens s (s.readPhase t) := by
  have hstay : Opens s s := .inl ⟨rfl, rfl, rfl⟩
  unfold readPhase
  cases hphase : s.phase with
  | outside =>
    have h : s.headerDecisions = 0 := hs (by rw [hphase]; rfl)
    dsimp only
    split
    · exact ⟨⟨rfl, rfl, rfl, rfl, fun _ => rfl⟩, .inl ⟨rfl, rfl, h.symm⟩⟩
    · exact ⟨⟨rfl, rfl, rfl, rfl, fun _ => h⟩, hstay⟩
  | name =>
    have h : s.headerDecisions = 0 := hs (by rw [hphase]; rfl)
    dsimp only
    split
    · exact ⟨⟨rfl, rfl, rfl, rfl, fun _ => h⟩, .inl ⟨rfl, rfl, rfl⟩⟩
    · exact ⟨⟨rfl, rfl, rfl, rfl, fun _ => h⟩, .inl ⟨rfl, rfl, rfl⟩⟩
  | beforeParameters => exact beforeParameters_spec s t.text (hs (by rw [hphase]; rfl))
  | typeParameters => exact inTypeParameters_spec s t.text (hs (by rw [hphase]; rfl))
  | parameters => exact inParameters_spec s t.text
  | returnType =>
    dsimp only
    split
    · exact ⟨⟨rfl, rfl, rfl, rfl, fun _ => rfl⟩, .inr ⟨hphase, rfl, rfl, _, _, _, rfl⟩⟩
    · refine ⟨⟨rfl, rfl, rfl, rfl, ?_⟩, hstay⟩
      rw [hphase]
      simp [inHeader]

/-- Opening a function keeps the indentations in step. -/
theorem Opens.inStep (h : Opens s s') (hs : s.InStep) : s'.InStep := by
  unfold InStep at hs ⊢
  rcases h with ⟨hledger, hindents, _⟩ | ⟨_, hindents, _, name, params, start, hledger⟩
  · rw [hledger, hindents, hs]
  · rw [hledger, hindents, hs, Ledger.recordDecisions_depth, Ledger.openFunction_depth]

/-- Whether a decision token is a `case` that does not begin a logical line. -/
def isLateCase (table : DecisionTable) (s : Indent) (t : Token) : Bool :=
  t.isCode && table.decides t.text && (t.text == "case" && !s.atLineStart)

/-- A decision is counted or waits in the header, unless it is a late `case`. -/
theorem countDecision_cases (s : Indent) (text : String) :
    ((text == "case" && !s.firstOnLine) = true ∧ s.countDecision text = s) ∨
    ((text == "case" && !s.firstOnLine) = false ∧
      ((inHeader s.phase = true ∧
          s.countDecision text = { s with headerDecisions := s.headerDecisions + 1 }) ∨
        (inHeader s.phase = false ∧
          s.countDecision text = { s with ledger := s.ledger.recordDecisions 1 }))) := by
  unfold countDecision
  by_cases hcase : text = "case" ∧ (!s.firstOnLine) = true
  · left
    rw [if_pos hcase]
    exact ⟨by simp [hcase.1, hcase.2], rfl⟩
  · right
    rw [if_neg hcase]
    refine ⟨Bool.eq_false_iff.2 (by simpa using hcase), ?_⟩
    cases hphase : s.phase <;> simp [inHeader]

/-- Reading a token counts no decision but those of the header whose function it opens. -/
theorem readToken_reads (s : Indent) (t : Token) (hs : s.Sound) :
    ∃ reach k, Ledger.Reads reach k s.ledger (s.readToken t).ledger ∧
      k + (s.readToken t).headerDecisions = s.headerDecisions := by
  have hadvance := advance_advances s t hs
  obtain ⟨_, hopens⟩ := readPhase_spec (s.advance t) t (hadvance.header hs)
  rcases hopens with ⟨hledger, _, hdecisions⟩ | ⟨hphase, _, hdecisions, name, params, start, hledger⟩
  · refine ⟨s.reaches, 0, ?_, ?_⟩
    · rw [readToken, hledger]
      exact .settles hadvance.settles
    · rw [readToken, hdecisions, hadvance.headerDecisions_eq, Nat.zero_add]
  · -- where a header is being read, no logical line begins, and so no function has closed
    have hstart : s.atLineStart = false := by
      rw [Bool.eq_false_iff]
      intro hstart
      have := hs.lineStart hstart
      rw [hadvance.phase_eq, this] at hphase
      cases hphase
    refine ⟨true, 0 + s.headerDecisions, ?_, ?_⟩
    · rw [readToken, hledger, hadvance.ledger_eq hstart, hadvance.headerDecisions_eq]
      apply Ledger.Reads.opens name params start
      rw [Nat.cast_zero, Ledger.recordDecisions_zero]
      exact Ledger.settles_recordDecisions true _ s.headerDecisions
    · rw [readToken, hdecisions, Nat.zero_add, Nat.add_zero]

/-- What is left after reading a token, before it is counted as a decision. -/
theorem readToken_frame (s : Indent) (t : Token) (hs : s.Sound) :
    (s.readToken t).firstOnLine = s.atLineStart ∧ (s.readToken t).atLineStart = false ∧
      (s.readToken t).bracketDepth = bracketsAfter s.bracketDepth t ∧
      (s.readToken t).lastCodeLine = s.ledger.line + lineBreaks t.text ∧
      (inHeader (s.readToken t).phase = false → (s.readToken t).headerDecisions = 0) ∧
      (s.InStep → (s.readToken t).InStep) := by
  have hadvance := advance_advances s t hs
  obtain ⟨hframes, hopens⟩ := readPhase_spec (s.advance t) t (hadvance.header hs)
  exact ⟨hframes.firstOnLine_eq.trans hadvance.firstOnLine_eq,
    hframes.atLineStart_eq.trans hadvance.atLineStart_eq,
    hframes.bracketDepth_eq.trans hadvance.bracketDepth_eq,
    hframes.lastCodeLine_eq.trans hadvance.lastCodeLine_eq, hframes.header,
    fun h => hopens.inStep (hadvance.inStep h)⟩

/-- A token that is no line break is a reading. The decisions of the header and the token itself, if it
is a decision, are counted or wait afterwards; only a `case` that does not begin a logical line is
dropped. -/
theorem read_reads (table : DecisionTable) (s : Indent) (t : Token) (hs : s.Sound)
    (ht : t.isNewline = false) :
    ∃ reach k, Ledger.Reads reach k s.ledger (s.read table t).ledger ∧
      k + (s.read table t).headerDecisions + (s.isLateCase table t).toNat =
        s.headerDecisions + (t.isCode && table.decides t.text).toNat := by
  obtain ⟨reach, k, hreads, hk⟩ := readToken_reads s t hs
  obtain ⟨hfirst, _⟩ := readToken_frame s t hs
  unfold read isLateCase
  rw [if_neg (by simp [ht])]
  dsimp only
  cases hdec : (t.isCode && table.decides t.text) with
  | false =>
    refine ⟨reach, k, hreads, ?_⟩
    simp only [Bool.false_eq_true, if_false, Bool.false_and, Bool.toNat_false, Nat.add_zero]
    exact hk
  | true =>
    simp only [if_true, Bool.true_and, Bool.toNat_true]
    -- the token is a late `case`, waits in a header, or is counted
    rcases countDecision_cases (s.readToken t) t.text with
      ⟨hcase, hcount⟩ | ⟨hcase, ⟨_, hcount⟩ | ⟨_, hcount⟩⟩
    · rw [hfirst] at hcase
      refine ⟨reach, k, ?_, ?_⟩
      · rw [hcount]
        exact hreads
      · rw [hcount, hcase, Bool.toNat_true, hk]
    · rw [hfirst] at hcase
      refine ⟨reach, k, ?_, ?_⟩
      · rw [hcount]
        exact hreads
      · rw [hcount, hcase, Bool.toNat_false, Nat.add_zero, ← Nat.add_assoc, hk]
    · rw [hfirst] at hcase
      refine ⟨reach, k + 1, ?_, ?_⟩
      · rw [hcount]
        exact hreads.trans_settles (Ledger.settles_recordDecisions reach _ 1)
      · rw [hcount, hcase, Bool.toNat_false]
        dsimp only
        omega

/-- Counting a decision leaves lines, brackets and indentations alone. -/
theorem countDecision_frame (s : Indent) (text : String) :
    (s.countDecision text).atLineStart = s.atLineStart ∧
      (s.countDecision text).bracketDepth = s.bracketDepth ∧
      (s.countDecision text).lastCodeLine = s.lastCodeLine ∧
      ((inHeader s.phase = false → s.headerDecisions = 0) →
        inHeader (s.countDecision text).phase = false → (s.countDecision text).headerDecisions = 0) ∧
      (s.InStep → (s.countDecision text).InStep) := by
  rcases countDecision_cases s text with ⟨_, hcount⟩ | ⟨_, ⟨hphase, hcount⟩ | ⟨_, hcount⟩⟩
  · rw [hcount]
    exact ⟨rfl, rfl, rfl, id, id⟩
  · rw [hcount]
    refine ⟨rfl, rfl, rfl, ?_, id⟩
    intro _ h
    rw [show inHeader _ = true from hphase] at h
    cases h
  · rw [hcount]
    refine ⟨rfl, rfl, rfl, id, ?_⟩
    intro hstep
    unfold InStep at hstep ⊢
    rw [Ledger.recordDecisions_depth]
    exact hstep

/-- Lines and brackets after a token. -/
theorem read_frame (table : DecisionTable) (s : Indent) (t : Token) (hs : s.Sound)
    (ht : t.isNewline = false) :
    (s.read table t).atLineStart = false ∧
      (s.read table t).bracketDepth = bracketsAfter s.bracketDepth t ∧
      (s.read table t).lastCodeLine = s.ledger.line + lineBreaks t.text ∧
      (inHeader (s.read table t).phase = false → (s.read table t).headerDecisions = 0) ∧
      (s.InStep → (s.read table t).InStep) := by
  obtain ⟨_, hstart, hbrackets, hlast, hheader, hstep⟩ := readToken_frame s t hs
  unfold read
  rw [if_neg (by simp [ht])]
  dsimp only
  split
  · obtain ⟨hstart', hbrackets', hlast', hheader', hstep'⟩ :=
      countDecision_frame (s.readToken t) t.text
    exact ⟨hstart'.trans hstart, hbrackets'.trans hbrackets, hlast'.trans hlast,
      hheader' hheader, fun h => hstep' (hstep h)⟩
  · exact ⟨hstart, hbrackets, hlast, hheader, hstep⟩

theorem read_sound (table : DecisionTable) (s : Indent) (t : Token) (hs : s.Sound)
    (ht : t.isNewline = false) : (s.read table t).Sound := by
  obtain ⟨reach, k, hreads, _⟩ := read_reads table s t hs ht
  obtain ⟨hstart, _, hlast, hheader, _⟩ := read_frame table s t hs ht
  have hstarted := hreads.started hs.started
  refine ⟨?_, hheader, ?_, hstarted⟩
  · rw [hstart]
    simp
  · intro f hf
    have hf := hstarted f hf
    rw [hreads.line_eq] at hf
    rw [hlast]
    omega

/-! ## Line breaks and the end -/

/-- Releasing the header counts its decisions. -/
theorem releaseHeader_settles (reach : Bool) (s : Indent) :
    Ledger.Settles reach s.headerDecisions s.ledger s.releaseHeader.ledger :=
  Ledger.settles_recordDecisions reach s.ledger s.headerDecisions

/-- A line break hands the decisions of a header that it ends to the innermost function. -/
theorem readNewline_settles (reach : Bool) (s : Indent) (implicit : Bool) :
    ∃ k, Ledger.Settles reach k s.ledger (s.readNewline implicit).ledger ∧
      k + (s.readNewline implicit).headerDecisions = s.headerDecisions := by
  unfold readNewline
  split
  · exact ⟨0, .refl _, Nat.zero_add _⟩
  · split
    · exact ⟨0, .refl _, Nat.zero_add _⟩
    · exact ⟨s.headerDecisions,
        releaseHeader_settles reach { s with atLineStart := true, phase := .outside }, rfl⟩

/-- Lines and brackets after a line break. -/
theorem readNewline_frame (s : Indent) (implicit : Bool) :
    (s.readNewline implicit).atLineStart =
        (s.atLineStart || (!implicit && s.bracketDepth == 0)) ∧
      (s.readNewline implicit).bracketDepth = s.bracketDepth ∧
      (s.readNewline implicit).lastCodeLine = s.lastCodeLine ∧
      (s.InStep → (s.readNewline implicit).InStep) := by
  unfold readNewline
  by_cases h : implicit = true ∨ 0 < s.bracketDepth
  · rw [if_pos h]
    refine ⟨?_, rfl, rfl, id⟩
    rcases h with h | h
    · simp [h]
    · have hne : (s.bracketDepth == 0) = false := by
        rw [beq_eq_false_iff_ne]
        omega
      simp [hne]
  · rw [if_neg h]
    rw [not_or] at h
    have hzero : (s.bracketDepth == 0) = true := by
      rw [beq_iff_eq]
      omega
    have himplicit : implicit = false := Bool.eq_false_iff.2 h.1
    rw [hzero, himplicit]
    split
    · exact ⟨by simp, rfl, rfl, id⟩
    · refine ⟨by simp [releaseHeader], rfl, rfl, ?_⟩
      intro hstep
      unfold InStep at hstep ⊢
      simp only [releaseHeader, Ledger.recordDecisions_depth]
      exact hstep

theorem readNewline_sound (s : Indent) (implicit : Bool) (hs : s.Sound) :
    (s.readNewline implicit).Sound := by
  obtain ⟨k, hsettles, _⟩ := readNewline_settles true s implicit
  unfold readNewline at hsettles ⊢
  split
  · exact hs
  · split
    · rename_i houtside
      exact ⟨fun _ => houtside, hs.header, hs.reached, hs.started⟩
    · refine ⟨fun _ => rfl, fun _ => rfl, ?_, ?_⟩
      · exact Ledger.startLine_le_recordDecisions hs.reached _
      · exact hs.started.recordDecisions _

/-- The end of the input counts the decisions of a header that is left open and then, if no bracket is
open, closes all functions. -/
theorem finish_settles (s : Indent) (hs : s.Sound) (hsucc : s.finish.2 = none) :
    ∃ reach, Ledger.Settles reach s.headerDecisions s.ledger s.finish.1.ledger ∧
      (s.InStep → s.finish.1.ledger.frames = []) := by
  obtain ⟨l, hl, hsettles, hdepth, _⟩ := foldl_closeInnermost s.releaseHeader.indents
    s.releaseHeader (Ledger.startLine_le_recordDecisions hs.reached _)
  have hbrackets : ¬ 0 < s.releaseHeader.bracketDepth := by
    intro h
    simp [finish, h] at hsucc
  have hfinish : s.finish.1.ledger = l := by
    simp only [finish, if_neg hbrackets]
    rw [hl]
  rw [hfinish]
  refine ⟨s.releaseHeader.reaches, ?_, ?_⟩
  · simpa using (releaseHeader_settles _ s).trans hsettles
  · intro hstep
    have hlen : s.releaseHeader.indents.length = s.releaseHeader.ledger.depth := by
      simp only [releaseHeader, Ledger.recordDecisions_depth]
      exact hstep
    rw [hlen, Nat.sub_self] at hdepth
    exact List.eq_nil_of_length_eq_zero hdepth

end Cyclomatic.Recognizer.Indent
