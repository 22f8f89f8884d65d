import Mathlib
import Cyclomatic.Proofs.Analysis
import Cyclomatic.Proofs.Lexicon.Places
import Cyclomatic.Proofs.Recognizer.PassMoved

/-!
# Passes over any tokens

A token that need not come from a text may be refused (`Recognizer.offer`), and then there is no pass over
the tokens. What a pass over tokens measures, or why it measures nothing, is `Analysis.functionsOf`. The
tokens of a text are never refused, so for them this is what the text is measured by
(`Analysis.functionsOf_sourceTokens`).
-/

namespace Cyclomatic

/-- Why a pass over tokens measures nothing. -/
inductive PassError where
  /-- A token was refused. -/
  | refused
  /-- Scopes were left open at the end. -/
  | unclosed (e : ScopeError)
deriving DecidableEq, Repr

namespace Recognizer

/-! ## Tokens that are refused -/

/-- Whether a token is refused. -/
def refuses (t : Token) : Recognizer → Bool
  | indent s => !t.isNewline && s.refuses t
  | _ => false

/-- Takes in a token, unless it is refused. -/
def take? (table : DecisionTable) (r : Recognizer) (t : Token) : Option Recognizer :=
  if t.isNewline then some (r.feed table t)
  else if (r.offer table t).2 then some (r.offer table t).1 else none

/-- Takes in tokens, unless one of them is refused. -/
def takeAll? (table : DecisionTable) : Recognizer → List Token → Option Recognizer
  | r, [] => some r
  | r, t :: ts => (r.take? table t).bind (takeAll? table · ts)

variable {table : DecisionTable} {r r' : Recognizer} {t : Token}

/-- A token is refused, or taken in. -/
theorem take?_eq (table : DecisionTable) (r : Recognizer) (t : Token) :
    r.take? table t = if r.refuses t then none else some (r.feed table t) := by
  unfold take?
  cases ht : t.isNewline with
  | true => cases r <;> simp [refuses, ht]
  | false =>
    rw [feed_of_not_isNewline table r ht]
    cases r with
    | go s => rfl
    | script s => rfl
    | indent s => cases hs : s.refuses t <;> simp [refuses, offer, ht, hs]

@[simp] theorem takeAll?_nil (table : DecisionTable) (r : Recognizer) : r.takeAll? table [] = some r :=
  rfl

/-- Tokens are refused if one of them is. -/
theorem takeAll?_cons (table : DecisionTable) (r : Recognizer) (t : Token) (ts : List Token) :
    r.takeAll? table (t :: ts) = if r.refuses t then none else (r.feed table t).takeAll? table ts := by
  rw [takeAll?, take?_eq]
  split <;> rfl

/-- Tokens may be taken in piece by piece. -/
theorem takeAll?_append (table : DecisionTable) (r : Recognizer) (ts us : List Token) :
    r.takeAll? table (ts ++ us) = (r.takeAll? table ts).bind (·.takeAll? table us) := by
  induction ts generalizing r with
  | nil => rfl
  | cons t ts ih =>
    rw [List.cons_append, takeAll?_cons, takeAll?_cons]
    split
    · rfl
    · exact ih _

/-- A line break is never refused. -/
theorem refuses_of_isNewline (ht : t.isNewline = true) : r.refuses t = false := by
  cases r <;> simp [refuses, ht]

/-- A pass without refusals is a pass. -/
theorem eq_run_of_takeAll? {ts : List Token} (h : r.takeAll? table ts = some r') :
    r' = r.run table ts := by
  induction ts generalizing r with
  | nil => exact (Option.some.inj h).symm
  | cons t ts ih =>
    rw [takeAll?_cons] at h
    split at h
    · cases h
    · exact ih h

/-- A token with a character is taken in. -/
theorem refuses_of_ne_empty (r : Recognizer) (ht : t.text ≠ "") : r.refuses t = false := by
  cases r with
  | go s => rfl
  | script s => rfl
  | indent s => simp [refuses, Indent.refuses, ht]

/-- Tokens with characters are all taken in. -/
theorem takeAll?_of_ne_empty {ts : List Token} (h : ∀ t ∈ ts, t.text ≠ "") (r : Recognizer) :
    r.takeAll? table ts = some (r.run table ts) := by
  induction ts generalizing r with
  | nil => rfl
  | cons t ts ih =>
    obtain ⟨ht, hts⟩ := List.forall_mem_cons.1 h
    rw [takeAll?_cons, r.refuses_of_ne_empty ht, run_cons, ← ih hts]
    rfl

/-- A token is refused on one line exactly if it is on another. -/
theorem Moved.refuses_eq {C : Relocation} (h : Moved C r r') (t : Token) :
    r'.refuses t = r.refuses t := by
  cases h with
  | go h => rfl
  | script h => rfl
  | indent h => rw [refuses, refuses, h.refuses_eq]

/-! ## What is measured -/

/-- The functions of a pass that ends here. -/
def conclude (r : Recognizer) : Except PassError (List FunctionMeasure) :=
  match r.finish with
  | (_, some e) => .error (.unclosed e)
  | (r, none) => .ok r.ledger.closeAll.functions

/-- The functions of a pass that goes on with some tokens. -/
def functionsAfter (table : DecisionTable) (r : Recognizer) (ts : List Token) :
    Except PassError (List FunctionMeasure) :=
  match r.takeAll? table ts with
  | none => .error .refused
  | some r => r.conclude

/-- What is measured after a token is what the pass measures from there on. -/
theorem functionsAfter_cons (table : DecisionTable) (r : Recognizer) (t : Token) (ts : List Token) :
    r.functionsAfter table (t :: ts) =
      if r.refuses t then .error .refused else (r.feed table t).functionsAfter table ts := by
  rw [functionsAfter, takeAll?_cons]
  by_cases h : r.refuses t = true
  · rw [if_pos h, if_pos h]
  · rw [if_neg h, if_neg h, functionsAfter]

/-- What is measured after tokens that are taken in is what the pass measures from there on. -/
theorem functionsAfter_append {ts : List Token} (h : r.takeAll? table ts = some r')
    (us : List Token) : r.functionsAfter table (ts ++ us) = r'.functionsAfter table us := by
  rw [functionsAfter, takeAll?_append, h]
  rfl

/-- A pass that ends in a state without open scopes measures what has closed. -/
theorem conclude_of_finish (h : r.finish.2 = none) :
    r.conclude = .ok r.finish.1.ledger.closeAll.functions := by
  unfold conclude
  split
  · rename_i r' e hr
    rw [hr] at h
    cases h
  · rename_i r' hr
    rw [hr]

/-- A pass that ends with open scopes measures nothing. -/
theorem conclude_of_error {e : ScopeError} (h : r.finish.2 = some e) :
    r.conclude = .error (.unclosed e) := by
  unfold conclude
  split
  · rename_i r' e' hr
    rw [hr] at h
    rw [Option.some.inj h]
  · rename_i r' hr
    rw [hr] at h
    cases h

end Recognizer

namespace Analysis

open Recognizer

/-- The functions that a pass over tokens finds. -/
def functionsOf (language : Language) (ts : List Token) : Except PassError (List FunctionMeasure) :=
  (start language).functionsAfter (.of language) ts

/-- No token of a text is empty. -/
theorem ne_empty_of_mem_sourceTokens {language : Language} {source : String} {t : Token}
    (ht : t ∈ sourceTokens language source) : t.text ≠ "" := by
  obtain ⟨u, hu, ht⟩ := List.mem_flatMap.1 ht
  have hinner : t ∈ u.innerBreaks → t.text ≠ "" := by
    intro ht
    obtain ⟨i, _, rfl⟩ := List.mem_map.1 ht
    exact show "\n" ≠ "" by decide
  have hown : t = u → t.text ≠ "" := by
    rintro rfl
    exact Lexicon.token_ne_empty hu
  unfold Token.significant at ht
  split at ht
  · exact hown (List.mem_singleton.1 ht)
  · split at ht
    · exact (List.mem_cons.1 ht).elim hown hinner
    · exact hinner ht

/-- A text is measured by the pass over its tokens. -/
theorem functionsOf_sourceTokens (language : Language) (filename source : String) :
    functionsOf language (sourceTokens language source) =
      ((byFunction language filename source).map (·.functions)).mapError .unclosed := by
  rw [functionsOf, functionsAfter,
    takeAll?_of_ne_empty fun t ht => ne_empty_of_mem_sourceTokens ht]
  dsimp only
  rw [conclude, byFunction, recognize]
  rcases ((start language).run (.of language) (sourceTokens language source)).finish with ⟨r, _ | e⟩
  · rfl
  · rfl

end Analysis

end Cyclomatic
