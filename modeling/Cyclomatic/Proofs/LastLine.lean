import Mathlib
import Cyclomatic.Proofs.CodeLines

/-!
# The last line of a function

Where a function ends is settled by the place where it closes (`Analysis.closingLine`): in Python on the
last line that was touched before, and among braces on the line that the closing token leads to. A closing
token that is code stands on that line, so the line holds code. Only an arrow function whose body is an
expression can close without one, at a line break or at the end of the text, and then it ends on the line
that begins there, whatever that line holds (`Analysis.functions_end_lines`).
-/

namespace Cyclomatic.Analysis

open Recognizer

variable {language : Language} {source : String} {before after : List Token} {t : Token}

/-! ## Lines -/

theorem lineAfter_concat (ts : List Token) (t : Token) :
    lineAfter (ts ++ [t]) = lineAfter ts + (if t.isNewline then 1 else 0) := by
  rw [lineAfter, lineAfter, List.countP_append, List.countP_singleton]
  split
  · push_cast
    omega
  · simp

/-- The last line that was touched is a code line, if any was. -/
theorem lastTouched_mem (h : sourceTokens language source = before ++ after) :
    lastTouched before = 0 ∨ lastTouched before ∈ codeLines before := by
  refine forall_beginning
    (P := fun before => lastTouched before = 0 ∨ lastTouched before ∈ codeLines before) ?_ ?_ h
  · exact .inl rfl
  · intro before t after hsplit ih
    rw [lastTouched_concat]
    cases ht : t.isNewline with
    | true =>
      rw [if_pos rfl]
      exact ih.imp_right fun hmem => mem_codeLines_append hmem [t]
    | false =>
      rw [if_neg (by simp), Token.lastLine]
      exact .inr (mem_codeLines_of_token hsplit ht ⟨by omega, le_rfl⟩)

/-- The line of a token of a text is a code line, line breaks aside. -/
theorem line_mem_codeLines (h : sourceTokens language source = before ++ t :: after)
    (ht : t.isNewline = false) : t.line ∈ codeLines ((Lexicon.of language).tokens source) := by
  have hown := mem_codeLines_of_token h ht ⟨le_refl t.line, by omega⟩
  have hall := mem_codeLines_append hown after
  rwa [List.append_assoc, List.singleton_append, ← h, sourceTokens, codeLines_significantTokens]
    at hall

/-! ## Closing -/

/-- The line on which a function ends that closes at a place among tokens. -/
def closingLine (language : Language) (tokens : List Token) (place : Nat) : Int :=
  if language = .python then lastTouched (tokens.take place)
  else lineAfter (tokens.take (place + 1))

/-- How a function ends: on its closing line. What closes it is no line break inside a token, and in Go it
is no line break at all. -/
structure Ends (language : Language) (source : String) (f : FunctionMeasure) (e : Extent) : Prop where
  endLine_eq : f.endLine = closingLine language (sourceTokens language source) e.closing
  explicit : ∀ t ∈ (sourceTokens language source)[e.closing]?, t.isNewline = true → t.EndsLine
  go : language = .go → ∃ t ∈ (sourceTokens language source)[e.closing]?, t.isNewline = false

/-! ## Functions of Go -/

/-- A pass in Go stays one. -/
theorem exists_go (before : List Token) : ∃ s, passBefore .go before = go s := by
  induction before using List.reverseRecOn with
  | nil => exact ⟨_, rfl⟩
  | append_singleton before t ih =>
    obtain ⟨s, hs⟩ := ih
    have hfeed : passBefore .go (before ++ [t]) = (go s).feed (.of .go) t := by
      rw [← hs, passBefore, run_append, run_cons, run_nil]
    rw [hfeed, feed]
    split
    · exact ⟨_, rfl⟩
    · exact ⟨_, rfl⟩

/-- A line break closes no function of Go. -/
theorem closedBy_newline_go (before : List Token) (ht : t.isNewline = true) :
    (passBefore .go before).closedBy (.of .go) t = [] := by
  obtain ⟨s, hs⟩ := exists_go before
  apply closedBy_eq
  rw [hs, feed_of_isNewline _ _ ht, List.append_nil]
  show ((s.mapLedger Ledger.nextLine).read (.of .go) t).braces.ledger.functions = _
  rw [Go.read, if_pos ht, Go.readNewline_braces]
  rfl

/-- The end of the input closes no function of Go. -/
theorem functions_finish_go (before : List Token) :
    (passBefore .go before).finish.1.ledger.functions =
      (passBefore .go before).ledger.functions := by
  obtain ⟨s, hs⟩ := exists_go before
  rw [hs]
  rfl

/-! ## Passes -/

theorem closingLine_python (tokens : List Token) (place : Nat) :
    closingLine .python tokens place = lastTouched (tokens.take place) :=
  if_pos rfl

theorem closingLine_of_ne_python (h : language ≠ .python) (tokens : List Token) (place : Nat) :
    closingLine language tokens place = lineAfter (tokens.take (place + 1)) :=
  if_neg h

/-- Among braces a function ends on the line that the closing token leads to. -/
theorem endLine_of_braces (hpython : language ≠ .python) {f : FunctionMeasure}
    (hf : f ∈ (passBefore language before).closedBy (.of language) t) :
    f.endLine = lineAfter (before ++ [t]) := by
  have hne := run_ne_indent (.of language) (start_ne_indent hpython 1) before
  have hnext : ((passBefore language before).mapLedger Ledger.nextLine).endingLine =
      (passBefore language before).endingLine + 1 := by
    cases hr : passBefore language before with
    | go s => rfl
    | script s => rfl
    | indent s => exact absurd hr (hne s)
  rw [endLine_of_mem_closedBy hf, lineAfter_concat, lineAfter,
    ← endingLine_of_ne_python hpython before]
  split
  · exact hnext
  · exact (add_zero _).symm

/-- A function that a token closes ends as its language has it. -/
theorem ends_of_closedBy (h : sourceTokens language source = before ++ t :: after)
    {f : FunctionMeasure} (hf : f ∈ (passBefore language before).closedBy (.of language) t)
    (c : Course) : Ends language source f (c.until before.length) := by
  have hplace : (sourceTokens language source)[before.length]? = some t := getElem?_split h
  have htake : (sourceTokens language source).take before.length = before := by simp [h]
  have htake' : (sourceTokens language source).take (before.length + 1) = before ++ [t] := by
    rw [h, List.take_length_add_append]
    rfl
  refine ⟨?_, ?_, ?_⟩
  · show f.endLine = closingLine language _ before.length
    by_cases hpython : language = .python
    · subst hpython
      rw [closingLine_python, htake]
      exact endLine_of_python h hf
    · rw [closingLine_of_ne_python hpython, htake']
      exact endLine_of_braces hpython hf
  · intro u hu hn
    rw [Course.until, hplace] at hu
    obtain rfl := Option.some.inj hu
    exact ⟨hn, implicit_of_closes hn hf⟩
  · rintro rfl
    refine ⟨t, hplace, Bool.eq_false_iff.2 fun hn => ?_⟩
    rw [closedBy_newline_go before hn] at hf
    cases hf

/-- A function that the end of the text closes ends as its language has it. -/
theorem ends_of_finish (hsucc : (recognize language source).2 = none) {f : FunctionMeasure}
    (hf : f ∈ (recognize language source).1.ledger.functions.drop
      (passBefore language (sourceTokens language source)).ledger.functions.length) (c : Course) :
    Ends language source f (c.until (sourceTokens language source).length) := by
  have hplace : (sourceTokens language source)[(sourceTokens language source).length]? = none :=
    List.getElem?_eq_none le_rfl
  refine ⟨?_, ?_, ?_⟩
  · show f.endLine = closingLine language _ (sourceTokens language source).length
    by_cases hpython : language = .python
    · subst hpython
      rw [closingLine_python, List.take_length]
      exact endLine_of_finish_python hsucc hf
    · obtain ⟨closing, hfunctions, hclosing⟩ := finish_endsOn
        (passBefore_sound language (sourceTokens language source))
        (passBefore_started language (sourceTokens language source)) hsucc
      rw [recognize, hfunctions, List.drop_left] at hf
      rw [closingLine_of_ne_python hpython, List.take_of_length_le (Nat.le_succ _), hclosing f hf,
        endingLine_of_ne_python hpython, lineAfter]
  · intro u hu
    rw [Course.until, hplace] at hu
    cases hu
  · rintro rfl
    have hdrop := List.drop_length (l := (passBefore .go (sourceTokens .go source)).ledger.functions)
    rw [← functions_finish_go] at hdrop
    rw [recognize, ← functions_finish_go] at hf
    rw [hdrop] at hf
    cases hf

/-- In every state of a pass the functions that have closed end as their language has it. -/
theorem survey_ends (h : sourceTokens language source = before ++ after) :
    List.Forall₂ (Ends language source) (passBefore language before).ledger.functions
      (Survey.of language before).extents := by
  refine forall_beginning (P := fun before =>
    List.Forall₂ (Ends language source) (passBefore language before).ledger.functions
      (Survey.of language before).extents) ?_ ?_ h
  · rw [passBefore, run_nil, ledger_start]
    exact .nil
  · intro before t after hsplit hends
    have htracks := (survey_tracks hsplit).1
    have hclosed (f : Frame) (last : Int) (c : Course)
        (hf : f.measure last ∈ (passBefore language before).closedBy (.of language) t) :
        Ends language source (f.measure last) (c.until (Survey.of language before).place) := by
      rw [Survey.of_place]
      exact ends_of_closedBy hsplit hf c
    rw [passBefore, ← Survey.of_pass] at hends htracks hclosed
    rw [passBefore, ← Survey.of_pass, Survey.of_concat]
    cases ht : t.isNewline with
    | true =>
      exact (Survey.step_newline (s := Survey.of language before)
        (by rw [Survey.of_pass]; exact passBefore_idle language before) ht htracks hends
        fun f last c hf _ => hclosed f last c hf).2
    | false =>
      -- the functions that stay open are not of interest here
      have hstep : List.Forall₂ (fun (_ : Frame) (_ : Course) => True) _ _ ∧
          List.Forall₂ (Ends language source) _ _ :=
        Survey.step_token (s := Survey.of language before)
          (by rw [Survey.of_pass]; exact passBefore_sound language before) ht
          (by rw [Survey.of_pass]; exact (ledger_line_before language hsplit).2 ht)
          htracks hends (fun _ _ _ _ _ => trivial) (fun _ _ _ => trivial) (fun _ _ _ => trivial)
          fun f last c hf _ => hclosed f last c hf
      exact hstep.2

/-- The functions of a text end as their language has it. -/
theorem recognize_ends (hsucc : (recognize language source).2 = none) :
    List.Forall₂ (Ends language source) (recognize language source).1.ledger.functions
      (extents language source) := by
  have hall := (List.append_nil (sourceTokens language source)).symm
  have hsound := passBefore_sound language (sourceTokens language source)
  have hidle := passBefore_idle language (sourceTokens language source)
  have hframes := recognize_frames_eq_nil hsucc
  have htracks := (survey_tracks hall).1
  have hends := survey_ends hall
  have hclosed (f : Frame) (last : Int) (c : Course)
      (hf : f.measure last ∈ (recognize language source).1.ledger.functions.drop
        (passBefore language (sourceTokens language source)).ledger.functions.length) :
      Ends language source (f.measure last)
        (c.until (Survey.of language (sourceTokens language source)).place) := by
    rw [Survey.of_place]
    exact ends_of_finish hsucc hf c
  rw [recognize] at hsucc hframes hclosed ⊢
  rw [passBefore] at hsound hidle htracks hends hclosed
  rw [← Survey.of_pass] at *
  exact Survey.finish_rows hsound hidle hsucc hframes htracks hends fun f last c hf _ =>
    hclosed f last c hf

/-! ## Code lines -/

/-- The code lines of a text are counted from 1. -/
theorem one_le_of_mem_codeLines (h : sourceTokens language source = before ++ after) :
    ∀ l ∈ codeLines before, 1 ≤ l := by
  refine forall_beginning (P := fun before => ∀ l ∈ codeLines before, 1 ≤ l) ?_ ?_ h
  · intro l hl
    exact absurd hl (LineSet.not_mem_empty l)
  · intro before t after hsplit ih l hl
    rw [codeLines_concat] at hl
    split at hl
    · rename_i hsubstance
      rcases LineSet.mem_insertRun.1 hl with hl | ⟨hl, _⟩
      · exact ih l hl
      · have hn : t.isNewline = false := by
          rw [Bool.eq_false_iff]
          intro hn
          rw [isSubstance_of_isNewline hn] at hsubstance
          cases hsubstance
        rw [line_of_sourceTokens hsplit hn] at hl
        omega
    · exact ih l hl

/-- A token at a place comes after those before it. -/
theorem split_of_getElem? {tokens : List Token} {place : Nat} (h : tokens[place]? = some t) :
    tokens = tokens.take place ++ t :: tokens.drop (place + 1) := by
  obtain ⟨hlt, rfl⟩ := List.getElem?_eq_some_iff.1 h
  rw [← List.drop_eq_getElem_cons hlt, List.take_append_drop]

/-- In Python a function that covers its extent ends on a code line. -/
theorem Ends.code_of_python {f : FunctionMeasure} {e : Extent} (h : Ends .python source f e)
    (hcovers : Covers .python source f e) :
    f.endLine ∈ codeLines ((Lexicon.of (some .python)).tokens source) := by
  have hsplit := (List.take_append_drop e.closing (sourceTokens .python source)).symm
  have hend := h.endLine_eq
  rw [closingLine_python] at hend
  obtain ⟨l, hl⟩ := hcovers.nonempty
  obtain ⟨hmem, _, hle⟩ := hcovers.within l hl
  have hpos := one_le_of_mem_codeLines (List.append_nil (sourceTokens .python source)).symm l
    (by rwa [sourceTokens, codeLines_significantTokens])
  rcases lastTouched_mem hsplit with hzero | hlast
  · omega
  · have hall := mem_codeLines_append hlast ((sourceTokens .python source).drop e.closing)
    rw [← hend, ← hsplit, sourceTokens, codeLines_significantTokens] at hall
    exact hall

/-- A function that closes with code or a string ends on the line of that token. -/
theorem Ends.code_of_token (hpython : language ≠ .python) {f : FunctionMeasure} {e : Extent}
    (h : Ends language source f e) (ht : (sourceTokens language source)[e.closing]? = some t)
    (hn : t.isNewline = false) : f.endLine ∈ codeLines ((Lexicon.of language).tokens source) := by
  have hsplit := split_of_getElem? ht
  have htake : (sourceTokens language source).take (e.closing + 1) =
      (sourceTokens language source).take e.closing ++ [t] := by
    rw [List.take_add_one, ht]
    rfl
  have hend := h.endLine_eq
  rw [closingLine_of_ne_python hpython, htake, lineAfter_concat, hn, if_neg (by simp), add_zero,
    lineAfter, ← line_of_sourceTokens hsplit hn] at hend
  rw [hend]
  exact line_mem_codeLines hsplit hn

/-- A function that ends as its language has it and covers its extent ends on a code line, unless what
closes it is a line break or the end of the text. -/
theorem Ends.code_or_break {f : FunctionMeasure} {e : Extent} (h : Ends language source f e)
    (hcovers : Covers language source f e) :
    (f.endLine ∈ codeLines ((Lexicon.of language).tokens source) ∨
      (∀ t ∈ (sourceTokens language source)[e.closing]?, t.EndsLine) ∧
        f.endLine = lineAfter ((sourceTokens language source).take (e.closing + 1))) ∧
    (language = .go ∨ language = .python →
      f.endLine ∈ codeLines ((Lexicon.of language).tokens source)) := by
  by_cases hpython : language = .python
  · subst hpython
    have hcode := h.code_of_python hcovers
    exact ⟨.inl hcode, fun _ => hcode⟩
  · have hend := h.endLine_eq
    rw [closingLine_of_ne_python hpython] at hend
    by_cases hbreak : ∀ t ∈ (sourceTokens language source)[e.closing]?, t.isNewline = true
    · refine ⟨.inr ⟨fun t ht => h.explicit t ht (hbreak t ht), hend⟩, ?_⟩
      rintro (hgo | hpython')
      · obtain ⟨t, ht, hn⟩ := h.go hgo
        rw [hbreak t ht] at hn
        cases hn
      · exact absurd hpython' hpython
    · push Not at hbreak
      obtain ⟨t, ht, hn⟩ := hbreak
      have hcode := h.code_of_token hpython ht (Bool.eq_false_iff.2 hn)
      exact ⟨.inl hcode, fun _ => hcode⟩

/-- Every function of a measured text ends on a code line, but for one that a line break outside all tokens
or the end of the text closes: it ends on the line that begins there. In Go and in Python there are no such
functions. -/
theorem functions_end_lines {filename : String} {a : Analysis}
    (h : byFunction language filename source = .ok a) :
    List.Forall₂ (fun (f : FunctionMeasure) (e : Extent) =>
        f.endLine ∈ codeLines ((Lexicon.of language).tokens source) ∨
          (∀ t ∈ (sourceTokens language source)[e.closing]?, t.EndsLine) ∧
            f.endLine = lineAfter ((sourceTokens language source).take (e.closing + 1)))
      a.functions (extents language source) ∧
    (language = .go ∨ language = .python →
      ∀ f ∈ a.functions, f.endLine ∈ codeLines ((Lexicon.of language).tokens source)) := by
  have hreports := byFunction_reports h
  have hends := recognize_ends hreports.succeeds
  have hcovers := (recognize_covers hreports.succeeds).2
  rw [← hreports.functions_eq] at hends hcovers
  have hall := List.Forall₂.mp (fun f e hf he => Ends.code_or_break hf he) hends hcovers
  refine ⟨hall.imp fun f e hfe => hfe.1, fun hlanguage => ?_⟩
  exact ((List.forall₂_and_left _ _).1 (hall.imp fun f e hfe => ⟨hfe.2 hlanguage, hfe.1⟩)).1

/-- A function whose body is an expression on a line of its own. -/
def inlineArrow : String :=
  "f=x=>\nx||1\n"

/-- The measures of that text. -/
def inlineArrowMeasured : Analysis where
  totalCcn := 2
  nloc := 2
  tokenCount := 7
  decisionPoints := 1
  functions := [⟨"f", 1, 3, 2, 2, 1, 3, 0⟩]
  language := some .typescript
  filename := ""

/-- The second line break of the text closes the function, which ends on the line after it. -/
theorem functions_end_lines_inlineArrow :
    byFunction .typescript "" inlineArrow = .ok inlineArrowMeasured ∧
      (extents .typescript inlineArrow).map (·.closing) = [8] ∧
      List.Forall₂ (fun (f : FunctionMeasure) (e : Extent) =>
        f.endLine ∈ codeLines ((Lexicon.of (some .typescript)).tokens inlineArrow) ∨
          (∀ t ∈ (sourceTokens .typescript inlineArrow)[e.closing]?, t.EndsLine) ∧
            f.endLine = lineAfter ((sourceTokens .typescript inlineArrow).take (e.closing + 1)))
        inlineArrowMeasured.functions (extents .typescript inlineArrow) := by
  have hmeasured : byFunction .typescript "" inlineArrow = .ok inlineArrowMeasured := by
    decide +kernel
  exact ⟨hmeasured, by decide +kernel, (functions_end_lines hmeasured).1⟩

/-- A function whose body is an expression can end on a line without code: on the one after the line break
that closes it, or on the last line of a comment at the end of the text. -/
theorem arrow_ends_without_code :
    (byFunction .typescript "" "f=x=>1\n").toOption.map (·.functions) =
        some [⟨"f", 1, 2, 1, 1, 1, 1, 0⟩] ∧
      (2 : Int) ∉ codeLines ((Lexicon.of (some .typescript)).tokens "f=x=>1\n") ∧
      (byFunction .typescript "" "f=x=>1/*\n*/").toOption.map (·.functions) =
        some [⟨"f", 1, 2, 1, 1, 1, 1, 0⟩] ∧
      (2 : Int) ∉ codeLines ((Lexicon.of (some .typescript)).tokens "f=x=>1/*\n*/") := by
  decide +kernel

end Cyclomatic.Analysis
