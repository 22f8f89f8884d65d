import Mathlib
import Cyclomatic.Proofs.CodeLines
import Cyclomatic.Proofs.Recognizer.Alike

/-!
# What the measures do not see

Two source texts whose significant tokens are alike (`Token.Alike`) have the same measures
(`Analysis.ofSource_alike`): the passes over them are alike, and so are the tokens that are counted and the
lines that hold code.
-/

namespace Cyclomatic.Analysis

open Recognizer

variable {ts us : List Token}

/-- Tokens that are alike stand on the same code lines. -/
theorem codeLines_alike (h : List.Forall₂ Token.Alike ts us) : codeLines us = codeLines ts := by
  unfold codeLines
  generalize LineSet.empty = lines
  induction h generalizing lines with
  | nil => rfl
  | cons htu _ ih =>
    rw [List.foldl_cons, List.foldl_cons, htu.isSubstance_eq, htu.line_eq, htu.lineSpan_eq]
    exact ih _

/-- As many of the tokens as of others that are alike have a property that shows in the same way. -/
theorem countP_alike {p : Token → Bool} (hp : ∀ t u : Token, t.Alike u → p u = p t)
    (h : List.Forall₂ Token.Alike ts us) : us.countP p = ts.countP p := by
  induction h with
  | nil => rfl
  | cons htu _ ih => rw [List.countP_cons, List.countP_cons, ih, hp _ _ htu]

/-- Texts whose significant tokens are alike have as many code lines. -/
theorem countCodeLines_alike {language : Option Language} {source source' : String}
    (h : List.Forall₂ Token.Alike (significantTokens ((Lexicon.of language).tokens source))
      (significantTokens ((Lexicon.of language).tokens source'))) :
    countCodeLines language source' = countCodeLines language source := by
  have hlines := codeLines_alike h
  rw [codeLines_significantTokens, codeLines_significantTokens] at hlines
  rw [countCodeLines, countCodeLines, hlines]

variable {language : Language} {source source' : String}

/-- A pass over tokens that are alike has the same result. -/
theorem recognize_alike
    (h : List.Forall₂ Token.Alike (sourceTokens language source) (sourceTokens language source')) :
    (recognize language source').1.ledger = (recognize language source).1.ledger ∧
      (recognize language source').2 = (recognize language source).2 := by
  have hpass := ((Alike.start language 1).run (DecisionTable.of language) h).finish
  exact ⟨hpass.1.ledger_eq, hpass.2⟩

/-- Whether a token is a decision shows in the same way in tokens that are alike. -/
theorem isDecision_alike (table : DecisionTable) {t u : Token} (h : t.Alike u) :
    isDecision table u = isDecision table t := by
  rw [isDecision, isDecision, h.isCode_eq]
  cases hcode : t.isCode with
  | true => rw [h.text_eq hcode]
  | false => rfl

theorem aggregate_alike (filename : String)
    (h : List.Forall₂ Token.Alike (sourceTokens language source) (sourceTokens language source')) :
    aggregate language filename source' = aggregate language filename source := by
  have htokens : ((sourceTokens language source').filter (!·.isNewline)).length =
      ((sourceTokens language source).filter (!·.isNewline)).length := by
    rw [← List.countP_eq_length_filter, ← List.countP_eq_length_filter]
    exact countP_alike (fun t u htu => by rw [htu.isNewline_eq]) h
  have hdecisions : ((sourceTokens language source').filter (!·.isNewline)).countP
        (isDecision (DecisionTable.of language)) =
      ((sourceTokens language source).filter (!·.isNewline)).countP
        (isDecision (DecisionTable.of language)) := by
    rw [List.countP_filter, List.countP_filter]
    exact countP_alike (fun t u htu => by rw [isDecision_alike _ htu, htu.isNewline_eq]) h
  have hlines : countCodeLines (some language) source' = countCodeLines (some language) source :=
    countCodeLines_alike h
  unfold isDecision at hdecisions
  rw [aggregate, aggregate, htokens, hdecisions, hlines]

theorem byFunction_alike (filename : String)
    (h : List.Forall₂ Token.Alike (sourceTokens language source) (sourceTokens language source')) :
    byFunction language filename source' = byFunction language filename source := by
  obtain ⟨hledger, herror⟩ := recognize_alike h
  have htokens : (sourceTokens language source').countP (!·.isNewline) =
      (sourceTokens language source).countP (!·.isNewline) :=
    countP_alike (fun t u htu => by rw [htu.isNewline_eq]) h
  unfold byFunction
  rw [countCodeLines_alike h, htokens]
  generalize recognize language source' = pass' at hledger herror ⊢
  generalize recognize language source = pass at hledger herror ⊢
  obtain ⟨r', e'⟩ := pass'
  obtain ⟨r, e⟩ := pass
  dsimp only at hledger herror
  subst herror
  cases e' with
  | some e => rfl
  | none =>
    dsimp only
    rw [hledger]

/-- Texts whose significant tokens are alike have the same measures. -/
theorem ofSource_alike (filename : String)
    (h : List.Forall₂ Token.Alike (sourceTokens language source) (sourceTokens language source')) :
    ofSource language filename source' = ofSource language filename source := by
  rw [ofSource, ofSource, byFunction_alike filename h, aggregate_alike filename h]

end Cyclomatic.Analysis
