import Mathlib
import Cyclomatic.Analysis
import Cyclomatic.Proofs.ScopeStack

/-!
# What a measurement reports

A text that is measured function by function is reported from the ledger at the end of its pass
(`Analysis.byFunction_reports`). By then every function has closed, so closing all functions adds none.
If the pass ends in an error, what is reported is an estimate (`Analysis.ofSource_of_error`).
-/

namespace Cyclomatic.Analysis

open Recognizer

/-- The sum of complexities, less one for each function, is the sum of their decisions. -/
theorem sum_ccn_sub_length (fs : List FunctionMeasure) :
    (fs.map (·.ccn)).foldr (· + ·) (0 : Int) - fs.length = (fs.map fun f => f.ccn - 1).sum := by
  induction fs with
  | nil => rfl
  | cons f fs ih =>
    simp only [List.map_cons, List.foldr_cons, List.length_cons, List.sum_cons]
    push_cast
    omega

/-- What a measurement function by function reports of a text. -/
structure Reports (language : Language) (source : String) (a : Analysis) : Prop where
  succeeds : (recognize language source).2 = none
  frames_eq : (recognize language source).1.ledger.frames = []
  functions_eq : a.functions = (recognize language source).1.ledger.functions
  decisionPoints_eq : a.decisionPoints = (a.functions.map fun f => f.ccn - 1).sum
  nloc_eq : a.nloc = countCodeLines language source
  tokenCount_eq : a.tokenCount = (sourceTokens language source).countP (!·.isNewline)

/-- No function is open at the end of a pass that ends well. -/
theorem recognize_frames_eq_nil {language : Language} {source : String}
    (h : (recognize language source).2 = none) : (recognize language source).1.ledger.frames = [] :=
  finish_frames_eq_nil (sound_run _ (sound_start language 1) _)
    (scopesAgree_run _ (scopesAgree_start language 1) (sound_start language 1) _) h

theorem byFunction_reports {language : Language} {filename source : String} {a : Analysis}
    (h : byFunction language filename source = .ok a) : Reports language source a := by
  unfold byFunction at h
  split at h
  · cases h
  · rename_i r hr
    have hsucc : (recognize language source).2 = none := by rw [hr]
    have hframes := recognize_frames_eq_nil hsucc
    have hclosed : r.ledger.closeAll = r.ledger := by
      rw [hr] at hframes
      exact Ledger.closeAll_of_frames_eq_nil hframes
    obtain rfl := Except.ok.inj h
    rw [hclosed]
    exact
      { succeeds := hsucc
        frames_eq := hframes
        functions_eq := by rw [hr]
        decisionPoints_eq := sum_ccn_sub_length _
        nloc_eq := rfl
        tokenCount_eq := rfl }

/-- A pass that ends well leaves the measures of functions. -/
theorem exists_byFunction {language : Language} {source : String}
    (h : (recognize language source).2 = none) (filename : String) :
    ∃ a, byFunction language filename source = .ok a ∧ a.mode = .function := by
  unfold byFunction
  split
  · rename_i e hr
    rw [hr] at h
    cases h
  · exact ⟨_, rfl, rfl⟩

/-- A pass that ends in an error leaves no measures of functions. -/
theorem byFunction_of_error {language : Language} {source : String} {e : ScopeError}
    (h : (recognize language source).2 = some e) (filename : String) :
    byFunction language filename source = .error e := by
  unfold byFunction
  split
  · rename_i r e' hr
    rw [hr] at h
    rw [Option.some.inj h]
  · rename_i r hr
    rw [hr] at h
    cases h

/-- A pass that ends in an error leaves an estimate. -/
theorem ofSource_of_error {language : Language} {source : String} {e : ScopeError}
    (h : (recognize language source).2 = some e) (filename : String) :
    ofSource language filename source = (aggregate language filename source, some e) := by
  rw [ofSource, byFunction_of_error h]

end Cyclomatic.Analysis
