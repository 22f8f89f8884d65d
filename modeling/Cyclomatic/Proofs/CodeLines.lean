import Mathlib
import Cyclomatic.Proofs.Closings
import Cyclomatic.Proofs.Survey

/-!
# The code lines of a file and of its functions

A pass collects the code lines of the file token by token, and these are the lines that are counted in
one go (`Analysis.codeLines_run`). The lines of a function come from two sides: those of its signature are
looked up among the lines so far when its body opens, and the others come with the tokens that are
credited to it (`Course.lines`).

The lines of a function lie between its first and its last line (`Analysis.survey_tracks`), because a
function reaches all lines that were read before it closed, and those of a token that it closes with.
-/

namespace Cyclomatic

open Recognizer

/-! ## Sets of lines -/

namespace LineSet

variable {s u : LineSet}

/-- A set has no more lines than one that holds them all. -/
theorem size_le_of_subset (h : ∀ l ∈ s, l ∈ u) : s.size ≤ u.size :=
  (s.nodup.subperm h).length_le

/-- A set of lines between two lines has no more lines than there are. -/
theorem size_le_of_between {first last : Int} (h : ∀ l ∈ s, first ≤ l ∧ l ≤ last)
    (hne : ∃ l, l ∈ s) : (s.size : Int) ≤ last - first + 1 := by
  have hsubset : s.lines.toFinset ⊆ Finset.Icc first last := by
    intro l hl
    rw [List.mem_toFinset] at hl
    exact Finset.mem_Icc.2 (h l hl)
  have hcard := Finset.card_le_card hsubset
  rw [List.toFinset_card_of_nodup s.nodup, Int.card_Icc] at hcard
  obtain ⟨l, hl⟩ := hne
  obtain ⟨hfirst, hlast⟩ := h l hl
  rw [size]
  omega

theorem size_pos_of_mem {l : Int} (h : l ∈ s) : 1 ≤ s.size :=
  List.length_pos_of_mem h

end LineSet

namespace Analysis

variable {language : Language} {source : String} {before after : List Token} {t : Token}

/-! ## The lines of the file -/

theorem codeLines_concat (ts : List Token) (t : Token) :
    codeLines (ts ++ [t]) =
      if t.isSubstance then (codeLines ts).insertRun t.line t.lineSpan else codeLines ts := by
  simp [codeLines]

/-- More tokens have more lines. -/
theorem mem_codeLines_append {l : Int} (h : l ∈ codeLines before) (after : List Token) :
    l ∈ codeLines (before ++ after) := by
  induction after using List.reverseRecOn with
  | nil => simpa using h
  | append_singleton after t ih =>
    rw [← List.append_assoc, codeLines_concat]
    split
    · exact LineSet.mem_insertRun.2 (.inl ih)
    · exact ih

/-- A line break is neither code nor a string. -/
theorem isSubstance_of_isNewline (h : t.isNewline = true) : t.isSubstance = false := by
  rw [Token.isNewline, beq_iff_eq] at h
  rw [Token.isSubstance, h]
  rfl

/-- Tokens without substance add no lines. -/
theorem codeLines_append_of_forall (ts : List Token) {us : List Token}
    (h : ∀ u ∈ us, u.isSubstance = false) : codeLines (ts ++ us) = codeLines ts := by
  induction us using List.reverseRecOn with
  | nil => simp
  | append_singleton us u ih =>
    rw [← List.append_assoc, codeLines_concat, h u (by simp)]
    exact ih fun v hv => h v (by simp [hv])

/-- What is significant of a token has its lines. -/
theorem codeLines_append_significant (ts : List Token) (t : Token) :
    codeLines (ts ++ t.significant) = codeLines (ts ++ [t]) := by
  have hinner : ∀ u ∈ t.innerBreaks, u.isSubstance = false :=
    fun u hu => isSubstance_of_isNewline (Token.isNewline_of_mem_innerBreaks hu)
  unfold Token.significant
  split
  · rfl
  · split
    · rw [← List.singleton_append, ← List.append_assoc, codeLines_append_of_forall _ hinner]
    · rename_i hsubstance
      rw [codeLines_append_of_forall _ hinner, codeLines_concat, if_neg hsubstance]

/-- The significant tokens have the code lines of all tokens. -/
theorem codeLines_significantTokens (ts : List Token) :
    codeLines (significantTokens ts) = codeLines ts := by
  induction ts using List.reverseRecOn with
  | nil => rfl
  | append_singleton ts t ih =>
    have hconcat : significantTokens (ts ++ [t]) = significantTokens ts ++ t.significant := by
      simp [significantTokens]
    rw [hconcat, codeLines_append_significant, codeLines_concat, codeLines_concat, ih]

/-- A significant token is code, a string or a line break. -/
theorem isSubstance_of_mem (ht : t ∈ sourceTokens language source) (hn : t.isNewline = false) :
    t.isSubstance = true := by
  obtain ⟨u, _, hu⟩ := List.mem_flatMap.1 ht
  unfold Token.significant at hu
  split at hu
  · obtain rfl := List.mem_singleton.1 hu
    simp_all
  · split at hu
    · rcases List.mem_cons.1 hu with rfl | hu
      · assumption
      · simp [Token.isNewline_of_mem_innerBreaks hu] at hn
    · simp [Token.isNewline_of_mem_innerBreaks hu] at hn

/-- No code line lies beyond the last line that was touched. -/
theorem codeLines_le_lastTouched (h : sourceTokens language source = before ++ after) :
    ∀ l ∈ codeLines before, l ≤ lastTouched before := by
  refine forall_beginning (P := fun before => ∀ l ∈ codeLines before, l ≤ lastTouched before)
    ?_ ?_ h
  · intro l hl
    exact absurd hl (LineSet.not_mem_empty l)
  · intro before t after hsplit ih l hl
    rw [lastTouched_concat]
    rw [codeLines_concat] at hl
    cases hn : t.isNewline with
    | true =>
      rw [isSubstance_of_isNewline hn] at hl
      exact ih l hl
    | false =>
      rw [isSubstance_of_mem (mem_of_split hsplit) hn, if_pos rfl, LineSet.mem_insertRun] at hl
      have hbefore := lastTouched_le_line hsplit hn
      simp only [Bool.false_eq_true, if_false, Token.lastLine]
      rcases hl with hl | ⟨_, hl⟩
      · have := ih l hl
        omega
      · rw [Token.lineSpan] at hl
        push_cast at hl
        omega

/-- The code lines that a pass has collected are those of the tokens so far. -/
theorem codeLines_run (h : sourceTokens language source = before ++ after) :
    (passBefore language before).ledger.codeLines = codeLines before := by
  refine forall_beginning
    (P := fun before => (passBefore language before).ledger.codeLines = codeLines before) ?_ ?_ h
  · rw [passBefore, run_nil, ledger_start]
    rfl
  · intro before t after hsplit ih
    rw [passBefore, run_append, run_cons, run_nil, codeLines_concat]
    cases hn : t.isNewline with
    | true =>
      obtain ⟨_, _, _, _, _, hlines⟩ :=
        feed_newline_frames (.of language) (passBefore_idle language before) hn
      rw [hlines, ih, isSubstance_of_isNewline hn]
      rfl
    | false =>
      obtain ⟨_, _, _, _, _, _, _, hlines⟩ := feed_frames (.of language)
        (passBefore_sound language before) hn ((ledger_line_before language hsplit).2 hn)
      rw [hlines, ih, isSubstance_of_mem (mem_of_split hsplit) hn, if_pos rfl]

end Analysis

/-! ## The lines of a function -/

/-- The lines of a function that begins on the line `first`: the code lines from there up to the token
that opens it, and those of the tokens that are credited to it. -/
def Course.lines (tokens : List Token) (first : Int) (c : Course) : LineSet :=
  c.credited.foldr
    (fun place lines => tokens[place]?.elim lines fun t => lines.insertRun t.line t.lineSpan)
    ((Analysis.codeLines (tokens.take c.opening)).within first
      (tokens[c.opening]?.elim first (·.line)))

/-- The lines with one token more. -/
theorem Course.lines_credit {tokens : List Token} {place : Nat} {t : Token}
    (h : tokens[place]? = some t) (first : Int) (c : Course) :
    (c.credit place).lines tokens first = (c.lines tokens first).insertRun t.line t.lineSpan := by
  simp [Course.lines, Course.credit, h]

namespace Analysis

/-- What an open function and its course have to do with each other, when the tokens `before` have been
read. -/
structure Tracks (tokens before : List Token) (f : Frame) (c : Course) : Prop where
  lines_eq : f.codeLines = c.lines tokens f.startLine
  nonempty : ∃ l, l ∈ f.codeLines
  sound : ∀ l ∈ f.codeLines, f.startLine ≤ l ∧ l ∈ codeLines before

/-- What a function and its extent have to do with each other. -/
structure Covers (language : Language) (source : String) (f : FunctionMeasure) (e : Extent) : Prop where
  nloc_eq : f.nloc = (e.lines (sourceTokens language source) f.startLine).size
  nonempty : ∃ l, l ∈ e.lines (sourceTokens language source) f.startLine
  within : ∀ l ∈ e.lines (sourceTokens language source) f.startLine,
    l ∈ codeLines ((Lexicon.of language).tokens source) ∧ f.startLine ≤ l ∧ l ≤ f.endLine
  ends : f.endLine ≤ 1 + lineBreaks source

variable {language : Language} {source : String} {before after : List Token} {t : Token}
  {f : Frame} {c : Course}

/-- The number of lines of a function is bounded by its extent and by the lines of the file. -/
theorem Covers.nloc_bounds {f : FunctionMeasure} {e : Extent} (h : Covers language source f e) :
    1 ≤ f.nloc ∧ f.nloc ≤ min (f.endLine - f.startLine + 1) (countCodeLines language source) := by
  have hbetween := LineSet.size_le_of_between (fun l hl => (h.within l hl).2) h.nonempty
  have hsubset := LineSet.size_le_of_subset fun l hl => (h.within l hl).1
  obtain ⟨l, hl⟩ := h.nonempty
  have hpos := LineSet.size_pos_of_mem hl
  rw [h.nloc_eq]
  exact ⟨by exact_mod_cast hpos, le_min hbetween (by exact_mod_cast hsubset)⟩

theorem Tracks.mono {tokens : List Token} (h : Tracks tokens before f c) (t : Token) :
    Tracks tokens (before ++ [t]) f c :=
  ⟨h.lines_eq, h.nonempty, fun l hl => ⟨(h.sound l hl).1, mem_codeLines_append (h.sound l hl).2 [t]⟩⟩

/-- A frame with the lines of one token more. -/
theorem mem_credit {l first : Int} {span : Nat} :
    l ∈ (f.credit first span).codeLines ↔ l ∈ f.codeLines ∨ first ≤ l ∧ l ≤ first + span := by
  show l ∈ f.codeLines.insertRun first (span + 1) ↔ _
  rw [LineSet.mem_insertRun]
  push_cast
  constructor
  · rintro (h | h)
    · exact .inl h
    · exact .inr (by omega)
  · rintro (h | h)
    · exact .inl h
    · exact .inr (by omega)

/-- The lines of a token are code lines after it. -/
theorem mem_codeLines_of_token (h : sourceTokens language source = before ++ t :: after)
    (ht : t.isNewline = false) {l : Int} (hl : t.line ≤ l ∧ l ≤ t.line + lineBreaks t.text) :
    l ∈ codeLines (before ++ [t]) := by
  rw [codeLines_concat, isSubstance_of_mem (mem_of_split h) ht, if_pos rfl, LineSet.mem_insertRun,
    Token.lineSpan]
  right
  push_cast
  omega

theorem Tracks.credit (h : Tracks (sourceTokens language source) before f c)
    (hsplit : sourceTokens language source = before ++ t :: after) (ht : t.isNewline = false) :
    Tracks (sourceTokens language source) (before ++ [t]) (f.credit t.line (lineBreaks t.text))
      (c.credit before.length) := by
  have hstarted : f.startLine ≤ t.line := by
    obtain ⟨l, hl⟩ := h.nonempty
    obtain ⟨hfirst, hmem⟩ := h.sound l hl
    have hle := codeLines_le_lastTouched hsplit l hmem
    have hline := lastTouched_le_line hsplit ht
    omega
  refine ⟨?_, ?_, ?_⟩
  · rw [Course.lines_credit (getElem?_split hsplit)]
    show f.codeLines.insertRun t.line t.lineSpan = _
    rw [h.lines_eq]
    rfl
  · exact ⟨t.line, mem_credit.2 (.inr (by omega))⟩
  · intro l hl
    rcases mem_credit.1 hl with hl | hl
    · exact (h.mono t).sound l hl
    · exact ⟨hstarted.trans hl.1, mem_codeLines_of_token hsplit ht hl⟩

/-- A function that opens has the lines of its signature and those of the token that opens it. -/
theorem tracks_newFrame (hsplit : sourceTokens language source = before ++ t :: after)
    (ht : t.isNewline = false) (name : String) (params : Int) (first : Option Int) :
    Tracks (sourceTokens language source) (before ++ [t])
      (((passBefore language before).ledger.newFrame name params first).credit t.line
        (lineBreaks t.text)) ⟨before.length, [before.length]⟩ := by
  have hline := (ledger_line_before language hsplit).2 ht
  have hlines := codeLines_run hsplit
  have htake : (sourceTokens language source).take before.length = before := by
    rw [hsplit]
    simp
  have hcourse : (⟨before.length, [before.length]⟩ : Course) =
      (⟨before.length, []⟩ : Course).credit before.length := rfl
  refine ⟨?_, ?_, ?_⟩
  · rw [hcourse, Course.lines_credit (getElem?_split hsplit), Course.lines, htake,
      getElem?_split hsplit]
    simp only [Frame.credit, Ledger.newFrame, hline, hlines]
    rfl
  · exact ⟨t.line, mem_credit.2 (.inr (by omega))⟩
  · intro l hl
    have hstart : ((passBefore language before).ledger.newFrame name params first).startLine ≤
        t.line := by
      rw [← hline]
      exact min_le_right _ _
    rcases mem_credit.1 hl with hl | hl
    · obtain ⟨hl, hfirst, _⟩ := LineSet.mem_within.1 hl
      rw [hlines] at hl
      exact ⟨hfirst, mem_codeLines_append hl [t]⟩
    · exact ⟨hstart.trans hl.1, mem_codeLines_of_token hsplit ht hl⟩

/-- A function that has tracked its course and closes after all its lines covers its extent. -/
theorem Tracks.covers (h : Tracks (sourceTokens language source) before f.undecided c)
    (hsplit : sourceTokens language source = before ++ after) {last : Int} (place : Nat)
    (hreach : lastTouched before ≤ last) (hlast : last ≤ 1 + lineBreaks source) :
    Covers language source (f.measure last) (c.until place) := by
  have hlines : f.codeLines = (c.until place).lines (sourceTokens language source) f.startLine :=
    h.lines_eq
  refine ⟨?_, ?_, ?_, hlast⟩
  · show (f.nloc : Int) = _
    rw [Frame.nloc, hlines]
    rfl
  · obtain ⟨l, hl⟩ := h.nonempty
    exact ⟨l, hlines ▸ hl⟩
  · intro l hl
    obtain ⟨hfirst, hmem⟩ := h.sound l (hlines ▸ hl)
    have hall : l ∈ codeLines (sourceTokens language source) := by
      rw [hsplit]
      exact mem_codeLines_append hmem after
    rw [sourceTokens, codeLines_significantTokens] at hall
    exact ⟨hall, hfirst, (codeLines_le_lastTouched hsplit l hmem).trans hreach⟩

/-- In every state of a pass the open functions track their courses, and the functions that have closed
cover their extents. -/
theorem survey_tracks (h : sourceTokens language source = before ++ after) :
    List.Forall₂ (Tracks (sourceTokens language source) before)
        ((passBefore language before).ledger.frames.map (·.undecided))
        (Survey.of language before).running ∧
      List.Forall₂ (Covers language source) (passBefore language before).ledger.functions
        (Survey.of language before).extents := by
  refine forall_beginning (P := fun before =>
    List.Forall₂ (Tracks (sourceTokens language source) before)
        ((passBefore language before).ledger.frames.map (·.undecided))
        (Survey.of language before).running ∧
      List.Forall₂ (Covers language source) (passBefore language before).ledger.functions
        (Survey.of language before).extents) ?_ ?_ h
  · rw [passBefore, run_nil, ledger_start]
    exact ⟨.nil, .nil⟩
  · rintro before t after hsplit ⟨htracks, hcovers⟩
    have hclosed (f : Frame) (last : Int)
        (hf : f.measure last ∈ (passBefore language before).closedBy (.of language) t) :=
      closing_reaches hsplit hf
    have hsplit' : sourceTokens language source = (before ++ [t]) ++ after := by simp [hsplit]
    rw [passBefore, ← Survey.of_pass] at htracks hcovers hclosed
    rw [passBefore, ← Survey.of_pass, Survey.of_concat]
    have hplace := Survey.of_place language before
    cases ht : t.isNewline with
    | true =>
      obtain ⟨hrunning, hextents⟩ := Survey.step_newline (s := Survey.of language before)
        (by rw [Survey.of_pass]; exact passBefore_idle language before) ht htracks hcovers
        fun f last c hf hc => by
          obtain ⟨hreach, _, hlast⟩ := hclosed f last hf
          exact hc.covers hsplit _ hreach hlast
      exact ⟨hrunning.imp fun f c hc => hc.mono t, hextents⟩
    | false =>
      refine Survey.step_token (s := Survey.of language before)
        (by rw [Survey.of_pass]; exact passBefore_sound language before) ht
        (by rw [Survey.of_pass]; exact (ledger_line_before language hsplit).2 ht)
        htracks hcovers ?_ (fun f c hc => hc.mono t) ?_ ?_
      · intro _ name params first _
        rw [hplace, Survey.of_pass]
        exact tracks_newFrame hsplit ht name params first
      · intro f c hc
        rw [hplace]
        exact hc.credit hsplit ht
      · intro f last c hf hc
        obtain ⟨hreach, hreach', hlast⟩ := hclosed f last hf
        rcases hc with hc | ⟨hline, hc⟩
        · -- it has closed before the token was credited
          exact hc.covers hsplit _ hreach hlast
        · -- it reaches the line of the token and has been credited with it
          exact hc.covers hsplit' _ (hreach' ht hline) hlast

/-- A pass that ends well has all code lines of the text, and its functions cover their extents. -/
theorem recognize_covers (hsucc : (recognize language source).2 = none) :
    (recognize language source).1.ledger.codeLines =
        codeLines ((Lexicon.of language).tokens source) ∧
      List.Forall₂ (Covers language source) (recognize language source).1.ledger.functions
        (extents language source) := by
  have hall := (List.append_nil (sourceTokens language source)).symm
  have hsound := passBefore_sound language (sourceTokens language source)
  have hidle := passBefore_idle language (sourceTokens language source)
  constructor
  · obtain ⟨_, _, hsettles, _⟩ := finish_settles hsound hsucc
    obtain ⟨_, _, _, hlines⟩ := hsettles.idle_row hidle
    rw [recognize, hlines, codeLines_run hall, sourceTokens, codeLines_significantTokens]
  · obtain ⟨htracks, hcovers⟩ := survey_tracks hall
    have hframes := recognize_frames_eq_nil hsucc
    have hfinish (f : Frame) (last : Int)
        (hf : f.measure last ∈ (recognize language source).1.ledger.functions.drop
          (passBefore language (sourceTokens language source)).ledger.functions.length) :=
      finish_reaches hsucc hf
    rw [recognize] at hsucc hframes hfinish ⊢
    rw [passBefore] at hsound hidle htracks hcovers hfinish
    rw [← Survey.of_pass] at *
    refine Survey.finish_rows hsound hidle hsucc hframes htracks hcovers ?_
    intro f last c hf hc
    obtain ⟨hreach, hlast⟩ := hfinish f last hf
    exact hc.covers hall _ hreach hlast

/-- A text that is measured function by function: at the end of the pass the ledger has exactly the code
lines of the text, which are counted as its size. The lines of a function, those that are credited to it
with its signature and its tokens, are some of them, at least one, and lie between its first and its last
line, which is a line of the text. -/
theorem functions_cover_lines {filename : String} {a : Analysis}
    (h : byFunction language filename source = .ok a) :
    (recognize language source).1.ledger.codeLines =
        codeLines ((Lexicon.of language).tokens source) ∧
    ((recognize language source).1.ledger.codeLines.size : Int) = a.nloc ∧
    List.Forall₂ (fun (f : FunctionMeasure) (e : Extent) =>
        f.nloc = (e.lines (sourceTokens language source) f.startLine).size ∧
        (∃ l, l ∈ e.lines (sourceTokens language source) f.startLine) ∧
        ∀ l ∈ e.lines (sourceTokens language source) f.startLine,
          l ∈ (recognize language source).1.ledger.codeLines ∧ f.startLine ≤ l ∧ l ≤ f.endLine)
      a.functions (extents language source) ∧
    ∀ f ∈ a.functions, 1 ≤ f.nloc ∧ f.nloc ≤ min (f.endLine - f.startLine + 1) a.nloc ∧
      f.endLine ≤ 1 + lineBreaks source := by
  have hreports := byFunction_reports h
  obtain ⟨hlines, hcovers⟩ := recognize_covers hreports.succeeds
  rw [← hreports.functions_eq] at hcovers
  have hsize : ((recognize language source).1.ledger.codeLines.size : Int) = a.nloc := by
    rw [hlines, hreports.nloc_eq]
    rfl
  refine ⟨hlines, hsize, ?_, ?_⟩
  · rw [hlines]
    exact hcovers.imp fun f e hfe => ⟨hfe.nloc_eq, hfe.nonempty, hfe.within⟩
  · rw [hreports.nloc_eq]
    exact ((List.forall₂_and_left _ _).1 (hcovers.imp fun f e hfe =>
      ⟨⟨hfe.nloc_bounds.1, hfe.nloc_bounds.2, hfe.ends⟩, hfe⟩)).1

/-- A Python function with a signature and a string that both go over two lines, and a line after it. -/
def documented : String :=
  "def f(a,\n b):\n \"\"\"x\n\"\"\"\ny"

/-- The measures of that function. -/
def documentedFunction : FunctionMeasure :=
  ⟨"f", 1, 4, 1, 4, 2, 2, 0⟩

/-- The measures of that text. -/
def documentedMeasured : Analysis where
  totalCcn := 1
  nloc := 5
  tokenCount := 10
  decisionPoints := 0
  functions := [documentedFunction]
  language := some .python
  filename := ""

/-- All four lines of the function are its own, and four of the five lines of the text. -/
theorem functions_cover_lines_documented :
    byFunction .python "" documented = .ok documentedMeasured ∧
      ((recognize .python documented).1.ledger.codeLines.size : Int) = 5 ∧
      (4 : Int) ≤ min (4 - 1 + 1) 5 := by
  have hmeasured : byFunction .python "" documented = .ok documentedMeasured := by
    decide +kernel
  obtain ⟨_, hsize, _, hbounds⟩ := functions_cover_lines hmeasured
  exact ⟨hmeasured, hsize, (hbounds documentedFunction List.mem_cons_self).2.1⟩

end Analysis

end Cyclomatic
