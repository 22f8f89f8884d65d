import Mathlib
import Cyclomatic.Proofs.Ledger.Row
import Cyclomatic.Proofs.Recognizer.Endings

/-!
# Headers and indentations

What a Python token does to the stack of indentations. A token that begins a logical line takes off all
indentations from the innermost outwards that are not left of it, and a token that ends a header puts the
indentation of the header's line on the stack (`Indent.read_indents`). A header is begun by `def`, and
remembers the line of the word and the indentation of its logical line while it is read
(`Indent.read_header`).

The recognizer looks at the innermost indentation only. That it pops all that it should is due to the order
of the stack: indentations do not grow outwards, and none is right of the present line (`Indent.Stacked`).
-/

namespace Cyclomatic.Recognizer.Indent

variable {s s' : Indent}

/-- Whether a token opens the function whose header is being read: the colon after the parameters, outside
brackets. -/
def opensBody (s : Indent) (t : Token) : Bool :=
  s.phase == .returnType && t.text == ":" && bracketsAfter s.bracketDepth t == 0

/-! ## Up to the token itself -/

/-- What following lines and brackets up to a token does to indentations and headers. -/
structure Aligns (s : Indent) (t : Token) (s' : Indent) : Prop where
  indents_eq : s'.indents =
    if s.atLineStart then s.indents.dropWhile (t.column ≤ ·) else s.indents
  lineIndent_eq : s'.lineIndent = if s.atLineStart then t.column else s.lineIndent
  functionLine_eq : s'.functionLine = s.functionLine
  functionIndent_eq : s'.functionIndent = s.functionIndent

theorem beginLine_aligns (s : Indent) (t : Token) (hs : s.Sound) :
    Aligns s t (s.beginLine t.column) := by
  unfold beginLine
  cases hstart : s.atLineStart with
  | false => exact ⟨by simp [hstart], by simp [hstart], rfl, rfl⟩
  | true =>
    obtain ⟨l, hl, _⟩ := foldl_closeInnermost (s.indents.takeWhile (t.column ≤ ·))
      { s with firstOnLine := true, atLineStart := false, lineIndent := t.column } hs.reached
    rw [if_pos rfl, dedent, hl]
    exact ⟨by simp [hstart, drop_length_takeWhile], by simp [hstart], rfl, rfl⟩

theorem advance_aligns (s : Indent) (t : Token) (hs : s.Sound) : Aligns s t (s.advance t) := by
  have hbegin := beginLine_aligns s t hs
  have hbrackets (x : Indent) : (x.followBrackets t.text).indents = x.indents ∧
      (x.followBrackets t.text).lineIndent = x.lineIndent ∧
      (x.followBrackets t.text).functionLine = x.functionLine ∧
      (x.followBrackets t.text).functionIndent = x.functionIndent := by
    unfold followBrackets
    split
    · exact ⟨rfl, rfl, rfl, rfl⟩
    · split <;> exact ⟨rfl, rfl, rfl, rfl⟩
  unfold advance
  dsimp only
  split
  · obtain ⟨hindents, hline, hfunction, hindent⟩ := hbrackets
      { s.beginLine t.column with
        lastCodeLine := (s.beginLine t.column).ledger.line + lineBreaks t.text }
    exact ⟨hindents.trans hbegin.indents_eq, hline.trans hbegin.lineIndent_eq,
      hfunction.trans hbegin.functionLine_eq, hindent.trans hbegin.functionIndent_eq⟩
  · exact ⟨hbegin.indents_eq, hbegin.lineIndent_eq, hbegin.functionLine_eq,
      hbegin.functionIndent_eq⟩

/-! ## The token itself -/

/-- What a token in its phase does to indentations and headers. `opened` tells whether it opens the
function of a header. -/
structure Heads (s : Indent) (t : Token) (opened : Bool) (s' : Indent) : Prop where
  lineIndent_eq : s'.lineIndent = s.lineIndent
  indents_eq : s'.indents = if opened then s.functionIndent :: s.indents else s.indents
  starts_eq : s'.ledger.frames.map (·.startLine) =
    if opened then min s.functionLine s.ledger.line :: s.ledger.frames.map (·.startLine)
    else s.ledger.frames.map (·.startLine)
  header : s'.phase ≠ .outside →
    (t.isCode = true ∧ t.text = "def" ∧ s'.functionLine = s.ledger.line ∧
        s'.functionIndent = s.lineIndent) ∨
      (s.phase ≠ .outside ∧ s'.functionLine = s.functionLine ∧
        s'.functionIndent = s.functionIndent)

/-- A token that leaves a header open, or gives it up. -/
theorem heads_of_phase {t : Token} (hs : s.phase ≠ .outside) (hindents : s'.indents = s.indents)
    (hline : s'.lineIndent = s.lineIndent) (hledger : s'.ledger = s.ledger)
    (hfunction : s'.functionLine = s.functionLine)
    (hindent : s'.functionIndent = s.functionIndent) : Heads s t false s' :=
  ⟨hline, hindents, by rw [hledger]; rfl, fun _ => .inr ⟨hs, hfunction, hindent⟩⟩

theorem readPhase_heads (s : Indent) (t : Token) :
    Heads s t (s.phase == .returnType && t.text == ":" && s.bracketDepth == 0) (s.readPhase t) := by
  unfold readPhase
  cases hphase : s.phase with
  | outside =>
    dsimp only
    split
    · rename_i hdef
      exact ⟨rfl, rfl, rfl, fun _ => .inl ⟨hdef.1, hdef.2, rfl, rfl⟩⟩
    · exact ⟨rfl, rfl, rfl, fun h => absurd hphase h⟩
  | name =>
    dsimp only
    split
    · exact heads_of_phase (by simp [hphase]) rfl rfl rfl rfl rfl
    · exact heads_of_phase (by simp [hphase]) rfl rfl rfl rfl rfl
  | beforeParameters =>
    dsimp only [beforeParameters]
    split
    · exact heads_of_phase (by simp [hphase]) rfl rfl rfl rfl rfl
    · split <;> exact heads_of_phase (by simp [hphase]) rfl rfl rfl rfl rfl
  | typeParameters =>
    dsimp only [inTypeParameters]
    split
    · exact heads_of_phase (by simp [hphase]) rfl rfl rfl rfl rfl
    · split <;> exact heads_of_phase (by simp [hphase]) rfl rfl rfl rfl rfl
  | parameters => exact heads_of_phase (by simp [hphase]) rfl rfl rfl rfl rfl
  | returnType =>
    dsimp only
    split
    · -- the header has been read
      rename_i hcolon
      rw [hcolon.1, hcolon.2]
      refine ⟨rfl, rfl, ?_, fun h => absurd rfl h⟩
      exact Ledger.map_frames_recordDecisions _ _ (·.startLine) fun _ _ => rfl
    · rename_i hcolon
      have hopened : (t.text == ":" && s.bracketDepth == 0) = false := by
        rw [Bool.eq_false_iff]
        simpa using hcolon
      rw [show (IndentPhase.returnType == IndentPhase.returnType) = true from rfl, Bool.true_and,
        hopened]
      exact heads_of_phase (by simp [hphase]) rfl rfl rfl rfl rfl

/-- Counting a decision leaves indentations and headers alone. -/
theorem countDecision_heads (s : Indent) (text : String) :
    (s.countDecision text).lineIndent = s.lineIndent ∧
      (s.countDecision text).indents = s.indents ∧
      (s.countDecision text).functionLine = s.functionLine ∧
      (s.countDecision text).functionIndent = s.functionIndent ∧
      (s.countDecision text).phase = s.phase ∧
      (s.countDecision text).ledger.frames.map (·.startLine) =
        s.ledger.frames.map (·.startLine) := by
  rcases countDecision_cases s text with ⟨_, hcount⟩ | ⟨_, ⟨_, hcount⟩ | ⟨_, hcount⟩⟩
  · rw [hcount]
    exact ⟨rfl, rfl, rfl, rfl, rfl, rfl⟩
  · rw [hcount]
    exact ⟨rfl, rfl, rfl, rfl, rfl, rfl⟩
  · rw [hcount]
    exact ⟨rfl, rfl, rfl, rfl, rfl,
      Ledger.map_frames_recordDecisions _ _ (·.startLine) fun _ _ => rfl⟩

/-! ## Whole tokens -/

variable (table : DecisionTable) {t : Token}

/-- What a token does to indentations and headers, from the state after lines and brackets are followed
up to it. -/
theorem read_heads (s : Indent) (hs : s.Sound) (ht : t.isNewline = false) :
    Heads (s.advance t) t (s.opensBody t) (s.read table t) := by
  have hadvance := advance_advances s t hs
  have hphase := readPhase_heads (s.advance t) t
  rw [hadvance.phase_eq, hadvance.bracketDepth_eq] at hphase
  rw [read, if_neg (by simp [ht])]
  dsimp only
  split
  · obtain ⟨hline, hindents, hfunction, hindent, hsame, hstarts⟩ :=
      countDecision_heads (s.readToken t) t.text
    refine ⟨hline.trans hphase.lineIndent_eq, hindents.trans hphase.indents_eq,
      hstarts.trans hphase.starts_eq, ?_⟩
    rw [hsame, hfunction, hindent]
    exact hphase.header
  · exact hphase

theorem read_lineIndent (s : Indent) (hs : s.Sound) (ht : t.isNewline = false) :
    (s.read table t).lineIndent = if s.atLineStart then t.column else s.lineIndent := by
  rw [(read_heads table s hs ht).lineIndent_eq, (advance_aligns s t hs).lineIndent_eq]

/-- No logical line begins inside a header. -/
theorem Sound.atLineStart_of_phase (hs : s.Sound) (h : s.phase ≠ .outside) :
    s.atLineStart = false := by
  rw [Bool.eq_false_iff]
  exact fun hstart => h (hs.lineStart hstart)

theorem phase_of_opensBody (h : s.opensBody t = true) : s.phase = .returnType := by
  rw [opensBody, Bool.and_eq_true_iff, Bool.and_eq_true_iff, beq_iff_eq] at h
  exact h.1.1

/-- The stack of indentations after a token. -/
theorem read_indents (s : Indent) (hs : s.Sound) (ht : t.isNewline = false) :
    (s.read table t).indents =
      if s.opensBody t then s.functionIndent :: s.indents
      else if s.atLineStart then s.indents.dropWhile (t.column ≤ ·) else s.indents := by
  have haligns := advance_aligns s t hs
  rw [(read_heads table s hs ht).indents_eq, haligns.functionIndent_eq, haligns.indents_eq]
  cases hopens : s.opensBody t with
  | false => rfl
  | true =>
    have hstart := hs.atLineStart_of_phase (by rw [phase_of_opensBody hopens]; simp)
    rw [hstart]
    rfl

/-- The first lines of the open functions after a token that opens one. -/
theorem read_starts (s : Indent) (hs : s.Sound) (ht : t.isNewline = false)
    (hopens : s.opensBody t = true) :
    (s.read table t).ledger.frames.map (·.startLine) =
      min s.functionLine s.ledger.line :: s.ledger.frames.map (·.startLine) := by
  have hadvance := advance_advances s t hs
  have hstart := hs.atLineStart_of_phase (by rw [phase_of_opensBody hopens]; simp)
  rw [(read_heads table s hs ht).starts_eq, hopens, if_pos rfl, hadvance.ledger_eq hstart,
    (advance_aligns s t hs).functionLine_eq]

/-- A header is begun by `def` or goes on. -/
theorem read_header (s : Indent) (hs : s.Sound) (ht : t.isNewline = false)
    (h : (s.read table t).phase ≠ .outside) :
    (t.isCode = true ∧ t.text = "def" ∧ (s.read table t).functionLine = s.ledger.line ∧
        (s.read table t).functionIndent = (s.read table t).lineIndent) ∨
      (s.phase ≠ .outside ∧ (s.read table t).functionLine = s.functionLine ∧
        (s.read table t).functionIndent = s.functionIndent) := by
  have hadvance := advance_advances s t hs
  have haligns := advance_aligns s t hs
  have hheads := read_heads table s hs ht
  rcases hheads.header h with ⟨hcode, hdef, hline, hindent⟩ | ⟨hphase, hline, hindent⟩
  · refine .inl ⟨hcode, hdef, ?_, ?_⟩
    · rw [hline, hadvance.settles.line_eq]
    · rw [hindent, hheads.lineIndent_eq]
  · rw [hadvance.phase_eq] at hphase
    rw [haligns.functionLine_eq] at hline
    rw [haligns.functionIndent_eq] at hindent
    exact .inr ⟨hphase, hline, hindent⟩

/-- A line break leaves indentations and headers alone, unless it ends a header. -/
theorem readNewline_header (s : Indent) (implicit : Bool) :
    (s.readNewline implicit).lineIndent = s.lineIndent ∧
      (s.readNewline implicit).indents = s.indents ∧
      ((s.readNewline implicit).phase ≠ .outside → s.phase ≠ .outside ∧
        (s.readNewline implicit).functionLine = s.functionLine ∧
        (s.readNewline implicit).functionIndent = s.functionIndent) := by
  unfold readNewline
  split
  · exact ⟨rfl, rfl, fun h => ⟨h, rfl, rfl⟩⟩
  · split
    · exact ⟨rfl, rfl, fun h => ⟨h, rfl, rfl⟩⟩
    · exact ⟨rfl, rfl, fun h => absurd rfl h⟩

/-! ## The order of the stack -/

/-- Popping a stack that does not grow outwards leaves only what is left of the column. -/
theorem lt_of_mem_dropWhile {xs : List Int} {column : Int}
    (h : xs.Pairwise fun inner outer => outer ≤ inner) :
    ∀ x ∈ xs.dropWhile (column ≤ ·), x < column := by
  induction xs with
  | nil => simp
  | cons y ys ih =>
    obtain ⟨hhead, htail⟩ := List.pairwise_cons.1 h
    intro x hx
    by_cases hy : column ≤ y
    · rw [List.dropWhile_cons_of_pos (by simpa using hy)] at hx
      exact ih htail x hx
    · rw [List.dropWhile_cons_of_neg (by simpa using hy)] at hx
      rcases List.mem_cons.1 hx with rfl | hx
      · omega
      · have := hhead x hx
        omega

/-- Indentations do not grow outwards, and none is right of the present line. -/
structure Stacked (s : Indent) : Prop where
  nested : s.indents.Pairwise fun inner outer => outer ≤ inner
  bounded : ∀ d ∈ s.indents, d ≤ s.lineIndent

/-- A header keeps the indentation of its line. -/
def Aligned (s : Indent) : Prop :=
  s.phase ≠ .outside → s.functionIndent = s.lineIndent

theorem Aligned.read (h : s.Aligned) (hs : s.Sound)
    (ht : t.isNewline = false) : (s.read table t).Aligned := by
  intro hphase
  rcases read_header table s hs ht hphase with ⟨_, _, _, hindent⟩ | ⟨hold, _, hindent⟩
  · exact hindent
  · rw [hindent, h hold, read_lineIndent table s hs ht, hs.atLineStart_of_phase hold]
    rfl

/-- A token keeps the stack in order: it pushes the indentation of its own line, or pops whatever is not
left of it. -/
theorem Stacked.read (h : s.Stacked) (haligned : s.Aligned) (hs : s.Sound)
    (ht : t.isNewline = false) : (s.read table t).Stacked := by
  have hindents := read_indents table s hs ht
  have hline := read_lineIndent table s hs ht
  cases hopens : s.opensBody t with
  | true =>
    -- a body opens: its indentation is that of the line, and no other lies right of that
    have hphase : s.phase ≠ .outside := by
      rw [phase_of_opensBody hopens]
      simp
    rw [hs.atLineStart_of_phase hphase] at hline
    simp only [Bool.false_eq_true, if_false] at hline
    rw [hopens, if_pos rfl, haligned hphase] at hindents
    refine ⟨?_, ?_⟩
    · rw [hindents]
      exact List.pairwise_cons.2 ⟨h.bounded, h.nested⟩
    · rw [hindents, hline]
      intro d hd
      rcases List.mem_cons.1 hd with rfl | hd
      · exact le_rfl
      · exact h.bounded d hd
  | false =>
    rw [hopens, if_neg (by simp)] at hindents
    cases hstart : s.atLineStart with
    | true =>
      rw [hstart, if_pos rfl] at hindents hline
      refine ⟨?_, ?_⟩
      · rw [hindents]
        exact h.nested.sublist (List.dropWhile_sublist _)
      · rw [hindents, hline]
        exact fun d hd => (lt_of_mem_dropWhile h.nested d hd).le
    | false =>
      rw [hstart, if_neg (by simp)] at hindents hline
      refine ⟨?_, ?_⟩
      · rw [hindents]
        exact h.nested
      · rw [hindents, hline]
        exact h.bounded

theorem Stacked.readNewline (h : s.Stacked) (implicit : Bool) :
    (s.readNewline implicit).Stacked := by
  obtain ⟨hline, hindents, _⟩ := readNewline_header s implicit
  refine ⟨?_, ?_⟩
  · rw [hindents]
    exact h.nested
  · rw [hindents, hline]
    exact h.bounded

theorem Aligned.readNewline (h : s.Aligned) (implicit : Bool) :
    (s.readNewline implicit).Aligned := by
  obtain ⟨hline, _, hheader⟩ := readNewline_header s implicit
  intro hphase
  obtain ⟨hold, _, hindent⟩ := hheader hphase
  rw [hindent, hline, h hold]

/-! ## How many functions close -/

/-- A token closes one function for each indentation that it takes off the stack. -/
theorem length_functions_read (s : Indent) (hs : s.Sound) (hstep : s.InStep)
    (ht : t.isNewline = false) :
    (s.read table t).ledger.functions.length = s.ledger.functions.length +
      if s.atLineStart then (s.indents.takeWhile (t.column ≤ ·)).length else 0 := by
  rw [functions_read table s t hs ht, beginLine]
  cases hstart : s.atLineStart with
  | false => simp
  | true =>
    simp only [if_true]
    obtain ⟨l, hl, hsettles, hdepth, _⟩ := foldl_closeInnermost
      (s.indents.takeWhile (t.column ≤ ·))
      { s with firstOnLine := true, atLineStart := false, lineIndent := t.column } hs.reached
    have htotal := hsettles.length_functions_add_depth
    have hle := (List.takeWhile_prefix (l := s.indents) (t.column ≤ ·)).length_le
    have hdepth' : s.indents.length = s.ledger.depth := hstep
    rw [dedent, hl]
    dsimp only at hdepth htotal ⊢
    omega

end Cyclomatic.Recognizer.Indent
