import Mathlib
import Cyclomatic.Proofs.Conditional
import Cyclomatic.Proofs.ParameterList
import Cyclomatic.Proofs.Recognizer.OutermostGroup

/-!
# Tokens that hide no bracket

Only a signature hides brackets, in its type parameters or in its return type. The first can begin behind the
keyword `function`, the second at a colon behind a parenthesis that has closed. Tokens without either
(`signatureFree`) are read as ordinary code. So all their brackets are counted, and if these are balanced, what
is open around the tokens remains open (`Recognizer.balancedInside_of_signatureFree`). What such a text leaves
open is just what its end looks at (`Analysis.recognize_error_of_signatureFree`).
-/

namespace Cyclomatic

/-- Whether in tokens no `function` occurs, and no colon behind a parenthesis that has closed; `closed` tells
whether one has directly before. -/
def signatureFree (closed : Bool) : List Token → Bool
  | [] => true
  | t :: ts =>
    if t.isNewline then signatureFree closed ts
    else
      !(t.isCode && (t.text == "function" || closed && t.text == ":")) &&
        signatureFree (t.isCode && t.text == ")") ts

/-- Line breaks do not matter to whether tokens are free of signatures. -/
theorem signatureFree_newline {t : Token} (ht : t.isNewline = true) {closed : Bool} {ts : List Token}
    (h : signatureFree closed (t :: ts) = true) : signatureFree closed ts = true := by
  simpa [signatureFree, ht] using h

/-- Any other token is no `function`, and behind a parenthesis no colon. -/
theorem signatureFree_token {t : Token} (ht : t.isNewline = false) {closed : Bool} {ts : List Token}
    (h : signatureFree closed (t :: ts) = true) :
    (t.isCode = true → t.text ≠ "function" ∧ (closed = true → t.text ≠ ":")) ∧
      signatureFree (t.isCode && t.text == ")") ts = true := by
  rw [signatureFree, if_neg (by simp [ht]), Bool.and_eq_true] at h
  refine ⟨fun hcode => ?_, h.2⟩
  have hnot := h.1
  simp only [hcode, Bool.true_and, Bool.not_eq_true', Bool.or_eq_false_iff, beq_eq_false_iff_ne] at hnot
  refine ⟨hnot.1, fun hclosed htext => ?_⟩
  simp [hclosed, htext] at hnot

/-- Only the texts of code tell which brackets are open. -/
theorem Brackets.afterAll_codeTexts (stack : List String) (ts : List Token) :
    afterAll stack (codeTokens (codeTexts ts)) = afterAll stack ts := by
  induction ts generalizing stack with
  | nil => rfl
  | cons t ts ih =>
    cases hcode : t.isCode with
    | false =>
      rw [codeTexts_cons_of_not_isCode hcode, ih, afterAll_cons, after_of_neutral _ (by simp [hcode])]
      rfl
    | true =>
      have hsame : after stack { kind := .code, text := t.text } = after stack t := by
        unfold after
        rw [hcode]
        rfl
      rw [codeTexts_cons_of_isCode hcode, afterAll_cons, ← hsame]
      exact congrArg (Option.bind _) (funext ih)

namespace Recognizer

namespace Script

variable {s : Script} {t : Token}

/-- Ordinary code is read, or the first token behind an arrow. -/
def Ordinary (s : Script) : Prop :=
  s.phase = .statement ∨ ∃ f, s.phase = .arrowBody f

/-- Ordinary code hides no bracket. -/
theorem Ordinary.visible (h : s.Ordinary) (text : String) : s.hides text = false := by
  obtain h | ⟨f, h⟩ := h <;> rw [hides, h]

/-- A token leads on to ordinary code, and is a parenthesis if one has closed. -/
def Proceeds (t : Token) (s : Script) : Prop :=
  s.Ordinary ∧ (s.closedGroup = none ∨ t.isCode = true ∧ t.text = ")")

/-- Where no signature begins, ordinary code is followed by ordinary code, and only a parenthesis waits. -/
theorem readStatement_proceeds (hs : s.Ready) (closed : Option Group)
    (hfunction : t.isCode = true → t.text ≠ "function")
    (hcolon : t.isCode = true → t.text = ":" → closed = none) : Proceeds t (s.readStatement closed t) := by
  have hready := hs.keeps (declare_keeps s t.text)
  have hkept {x : Script} (h : Keeps (s.declare t.text) x) : Proceeds t x :=
    ⟨.inl (h.phase_eq.trans hready.1), .inl (h.closedGroup_eq.trans hready.2)⟩
  have hbegin := beginEntry_keeps (s.declare t.text)
  -- in the order in which the kinds of tokens are tried
  unfold readStatement
  dsimp only
  refine iteInduction (fun _ => ?_) fun hcode => ?_
  · have hkeeps := beginEntry_keeps s
    exact ⟨.inl (hkeeps.phase_eq.trans hs.1), .inl (hkeeps.closedGroup_eq.trans hs.2)⟩
  replace hcode : t.isCode = true := by simpa using hcode
  refine iteInduction (fun h => absurd h (hfunction hcode)) fun _ => ?_
  refine iteInduction (fun _ => ?_) fun _ => ?_
  · exact hkept ⟨hbegin.phase_eq, hbegin.closedGroup_eq, hbegin.question_eq⟩
  refine iteInduction (fun _ => hkept (openParenthesis_keeps _)) fun _ => ?_
  refine iteInduction (fun _ => hkept (openSquare_keeps _)) fun _ => ?_
  refine iteInduction (fun _ => ?_) fun _ => ?_
  · refine ⟨.inl ((closeGroup_frame _ _).1.trans hready.1), ?_⟩
    by_cases hparen : t.text = ")"
    · exact .inr ⟨hcode, hparen⟩
    · exact .inl (hready.closeGroup hparen).2
  refine iteInduction (fun _ => hkept (openBrace_keeps _ closed)) fun _ => ?_
  refine iteInduction (fun _ => hkept ⟨rfl, rfl, rfl⟩) fun _ => ?_
  refine iteInduction (fun _ => ⟨.inr ⟨_, rfl⟩, .inl hready.2⟩) fun _ => ?_
  refine iteInduction (fun h => ?_) fun _ => ?_
  · refine ⟨.inl ?_, .inl ((readColon_frame _ closed).1.trans hready.2)⟩
    rcases readColon_phase hready.1 closed with hphase | ⟨⟨g, hg, -⟩, -⟩
    · exact hphase
    · rw [hcolon hcode h] at hg
      cases hg
  refine iteInduction (fun _ => hkept (hbegin.trans (takeName_keeps _))) fun _ => ?_
  refine iteInduction (fun _ => hkept (readComma_keeps _)) fun _ => ?_
  refine iteInduction (fun _ => hkept (readSemicolon_keeps _)) fun _ => ?_
  exact iteInduction (fun _ => hkept ⟨hbegin.phase_eq, hbegin.closedGroup_eq, hbegin.question_eq⟩) fun _ =>
    hkept hbegin

/-- So it is when something has waited for the token. -/
theorem readToken_proceeds (h : s.Ordinary) (hfunction : t.isCode = true → t.text ≠ "function")
    (hcolon : t.isCode = true → t.text = ":" → s.closedGroup = none) : Proceeds t (s.readToken t) := by
  have hphase {y : Script} (hy : y.Ordinary) (hnone : y.closedGroup = none) (closed : Option Group)
      (hclosed : t.isCode = true → t.text = ":" → closed = none) : Proceeds t (y.readPhase closed t) := by
    unfold readPhase
    obtain hp | ⟨f, hp⟩ := hy
    · rw [hp]
      exact readStatement_proceeds ⟨hp, hnone⟩ closed hfunction hclosed
    · rw [hp]
      refine iteInduction (fun _ => ?_) fun _ => ?_
      · have hkeeps := beginEntry_keeps { y with phase := .statement }
        exact ⟨.inl hkeeps.phase_eq, .inl (hkeeps.closedGroup_eq.trans hnone)⟩
      · exact readStatement_proceeds (s := { y with
          phase := .statement, braces := y.braces.openExpression f y.groups.length }) ⟨rfl, hnone⟩ none
          hfunction fun _ _ => rfl
  obtain ⟨hsettledPhase, hsettledClosed, -⟩ := settleQuestion_frame s t
  have hsettled : (s.settleQuestion t).Ordinary := by rwa [Ordinary, hsettledPhase]
  rw [← hsettledClosed] at hcolon
  unfold readToken
  dsimp only
  generalize s.settleQuestion t = q at hsettled hcolon
  cases hclosed : q.closedGroup with
  | none => exact hphase hsettled hclosed none fun _ _ => rfl
  | some g =>
    have hnever (hcode : t.isCode = true) (htext : t.text = ":") : (some g : Option Group) = none :=
      hclosed.symm.trans (hcolon hcode htext)
    refine iteInduction (fun _ => ?_) fun _ => ?_
    · exact hphase (y := { q with closedGroup := none }) hsettled rfl (some g) hnever
    · have hkeeps := release_keeps { q with closedGroup := none } g
      refine hphase ?_ hkeeps.closedGroup_eq _ fun hcode htext => absurd (hnever hcode htext) (by simp)
      rw [Ordinary, hkeeps.phase_eq]
      exact hsettled

/-- A token at which no signature begins is followed by ordinary code. -/
theorem read_proceeds (table : DecisionTable) (hn : t.isNewline = false) (h : s.Ordinary)
    (hfunction : t.isCode = true → t.text ≠ "function")
    (hcolon : t.isCode = true → t.text = ":" → s.closedGroup = none) : Proceeds t (s.read table t) := by
  have htoken := readToken_proceeds h hfunction hcolon
  have hkept {x : Script} (hx : Keeps (s.readToken t) x) : Proceeds t x := by
    rw [Proceeds, Ordinary, hx.phase_eq, hx.closedGroup_eq]
    exact htoken
  unfold Script.read
  rw [if_neg (by simp [hn])]
  show Proceeds t (if t.isCode && table.decides t.text then (s.readToken t).countDecision t.text
    else s.readToken t)
  refine iteInduction (fun _ => iteInduction (fun _ => htoken) fun _ => ?_) fun _ => htoken
  exact hkept (record_keeps _ 1)

/-- The end of a line leaves the phase and the closed group as they are. -/
theorem readNewline_ordinary (h : s.Ordinary) (implicit : Bool) :
    (s.readNewline implicit).Ordinary ∧ (s.readNewline implicit).closedGroup = s.closedGroup := by
  have hend := endLine_keeps s
  unfold Script.readNewline
  split
  · exact ⟨h, rfl⟩
  · obtain hp | ⟨f, hp⟩ := h
    · rw [hp]
      exact ⟨.inl (hend.phase_eq.trans hp), hend.closedGroup_eq⟩
    · rw [hp]
      exact ⟨.inr ⟨f, hp⟩, rfl⟩

end Script

open Script

variable {s : Script}

/-- Without signatures all the brackets of code are counted. -/
theorem run_ordinary (table : DecisionTable) (h : s.Ordinary) {closed : Bool}
    (hclosed : s.closedGroup = none ∨ closed = true) {ts : List Token}
    (hts : signatureFree closed ts = true) :
    (script s).counted table ts = codeTexts ts ∧
      ∃ s', (script s).run table ts = script s' ∧ s'.Ordinary := by
  induction ts generalizing s closed with
  | nil => exact ⟨rfl, s, rfl, h⟩
  | cons t ts ih =>
    have hcounted {x : Script} (hx : (script s).feed table t = script x)
        (hrest : (script x).counted table ts = codeTexts ts) :
        (script s).counted table (t :: ts) = codeTexts (t :: ts) := by
      -- in an ordinary state no bracket is hidden
      have hvisible : (script s).hides t.text = false := h.visible t.text
      rw [counted, hx, hrest, hvisible, Bool.not_false, Bool.and_true]
      cases hcode : t.isCode with
      | true => rw [if_pos rfl, codeTexts_cons_of_isCode hcode]
      | false => rw [if_neg Bool.false_ne_true, codeTexts_cons_of_not_isCode hcode]
    rw [run_cons]
    cases ht : t.isNewline with
    | true =>
      obtain ⟨hx, hsame⟩ := readNewline_ordinary (s := s.mapLedger Ledger.nextLine) h t.implicit
      obtain ⟨hrest, hrun⟩ := ih hx (by rwa [hsame]) (signatureFree_newline ht hts)
      have hfeed : (script s).feed table t = script _ := feed_script_newline ht
      exact ⟨hcounted hfeed hrest, by rwa [hfeed]⟩
    | false =>
      obtain ⟨htext, hfree⟩ := signatureFree_token ht hts
      have hcolon (hcode : t.isCode = true) (hmark : t.text = ":") : s.closedGroup = none :=
        hclosed.resolve_right fun hc => (htext hcode).2 hc hmark
      obtain ⟨hx, hnext⟩ := read_proceeds (s := s.mapLedger (·.announce t.lineSpan)) table ht h
        (fun hcode => (htext hcode).1) hcolon
      have hfeed : (script s).feed table t = script _ := feed_script_token ht
      have hclosed' : ((s.mapLedger (·.announce t.lineSpan)).read table t).closedGroup = none ∨
          (t.isCode && t.text == ")") = true := by simpa using hnext
      obtain ⟨hrest, hrun⟩ := ih (s := Script.mapLedger _ (·.credit)) hx hclosed' hfree
      exact ⟨hcounted hfeed hrest, by rwa [hfeed]⟩

/-- So balanced brackets remain balanced. -/
theorem balancedInside_of_signatureFree (table : DecisionTable) (h : s.Ordinary)
    (hclosed : s.closedGroup = none) {ts : List Token} (hfree : signatureFree false ts = true)
    (hts : WellNested ts) : BalancedInside table (script s) ts := by
  obtain ⟨hcounted, s', hrun, hs'⟩ := run_ordinary table h (.inl hclosed) hfree
  refine ⟨?_, ?_⟩
  · rw [WellNested, hcounted, Brackets.afterAll_codeTexts]
    exact hts
  · rw [hrun]
    exact hs'.visible ")"

end Recognizer

namespace Analysis

open Recognizer

/-- In a TypeScript or JavaScript text without such signatures all brackets are counted. So the end of the text
looks at those that are left open, if every closing bracket closes the innermost open one. -/
theorem recognize_error_of_signatureFree {language : Language} (h : IsScript language) {source : String}
    (hfree : signatureFree false (sourceTokens language source) = true) {stack : List String}
    (hstack : Brackets.afterAll [] (sourceTokens language source) = some stack) :
    (recognize language source).2 = (Openings.inside {} stack).error? := by
  have hstart : start language = .script (Script.start 1) := by
    rcases h with rfl | rfl <;> rfl
  have hpython : language ≠ .python := by
    rcases h with rfl | rfl <;> decide
  obtain ⟨hcounted, -⟩ :=
    run_ordinary (.of language) (s := Script.start 1) (.inl rfl) (.inl rfl) hfree
  rw [recognize_error_eq hpython, openAtEnd, hstart, hcounted, Openings.foldl_after_codeTexts hstack]

end Analysis

end Cyclomatic
