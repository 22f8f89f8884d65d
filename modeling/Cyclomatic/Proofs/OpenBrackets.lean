import Mathlib
import Cyclomatic.Proofs.Analysis
import Cyclomatic.Proofs.Brackets
import Cyclomatic.Proofs.ParameterList
import Cyclomatic.Proofs.Recognizer.Openings

/-!
# Texts with open brackets

In the grammars with braces, the end of the input looks at what the counted brackets of a text have left
open. If that is anything, the measurement is an estimate over the whole text; which brackets the error
speaks of, and how many, is also settled by them alone (`Analysis.recognize_error`).

If all brackets of a kind are counted, one of them that a text leaves open makes the measurement an estimate
(`Analysis.estimate_of_leftOpen`). A text can also leave brackets open that are not counted, and these go
unnoticed: a type literal among the results of a Go function, say, or a return type.
-/

namespace Cyclomatic

/-! ## Stacks and counts -/

/-- What is open inside brackets. -/
def Openings.inside (o : Openings) (stack : List String) : Openings :=
  ⟨o.braces + stack.count "\x7b", o.groups + stack.count "(" + stack.count "["⟩

/-- A bracket that opens, or closes the innermost open one, is counted as it is stacked. -/
theorem Openings.inside_after (o : Openings) {stack next : List String} {t : Token} (ht : t.isCode = true)
    (h : Brackets.after stack t = some next) : (o.inside stack).after t.text = o.inside next := by
  rcases Brackets.after_cases h with
    ⟨⟨hopening, hclosing⟩, rfl⟩ | ⟨-, hopening, rfl⟩ | ⟨-, hclosing, rfl⟩
  · rw [ht, Bool.true_and] at hopening hclosing
    exact after_of_not_isBracket _ (by simp [isBracket, hopening, hclosing])
  · simp only [isOpening, Bool.or_eq_true, beq_iff_eq] at hopening
    rcases hopening with (htext | htext) | htext <;>
      simp [htext, inside, after, bracesAfter, groupsAfter] <;> omega
  · simp only [isClosing, Bool.or_eq_true, beq_iff_eq] at hclosing
    rcases hclosing with (htext | htext) | htext <;>
      simp [htext, inside, after, bracesAfter, groupsAfter, Brackets.partner]
    omega

/-- What tokens leave open is counted as it is stacked, if every closing bracket closes the innermost open
one. -/
theorem Openings.inside_afterAll (o : Openings) {stack stack' : List String} {ts : List Token}
    (h : Brackets.afterAll stack ts = some stack') :
    (codeTexts ts).foldl Openings.after (o.inside stack) = o.inside stack' := by
  induction ts generalizing stack with
  | nil =>
    obtain rfl := Option.some.inj h
    rfl
  | cons t ts ih =>
    obtain ⟨next, hnext, hrest⟩ := Option.bind_eq_some_iff.1 h
    cases ht : t.isCode with
    | true => rw [codeTexts_cons_of_isCode ht, List.foldl_cons, o.inside_after ht hnext, ih hrest]
    | false =>
      rw [Brackets.after_of_neutral stack (by simp [ht])] at hnext
      rw [codeTexts_cons_of_not_isCode ht, Option.some.inj hnext, ih hrest]

/-- What tokens leave open from nothing is counted as it is stacked. -/
theorem Openings.foldl_after_codeTexts {stack : List String} {ts : List Token}
    (h : Brackets.afterAll [] ts = some stack) :
    (codeTexts ts).foldl Openings.after {} = Openings.inside {} stack :=
  Openings.inside_afterAll {} h

/-- Texts that change nothing may be left out. -/
theorem foldl_filter_of_neutral {kind : String → Bool} {step : Nat → String → Nat}
    (h : ∀ {text}, kind text = false → ∀ n, step n text = n) (texts : List String) (n : Nat) :
    (texts.filter kind).foldl step n = texts.foldl step n := by
  have hskip : (fun n text => if kind text then step n text else n) = step := by
    funext n text
    cases hkind : kind text with
    | true => rfl
    | false => exact (h hkind n).symm
  rw [List.foldl_filter, hskip]

/-- Whether a token is a brace. -/
def isBrace (text : String) : Bool :=
  ["\x7b", "\x7d"].contains text

theorem bracesAfter_of_not_isBrace {text : String} (h : isBrace text = false) (depth : Nat) :
    bracesAfter depth text = depth := by
  simp only [isBrace, List.contains_cons, List.contains_nil, Bool.or_false, Bool.or_eq_false_iff,
    beq_eq_false_iff_ne] at h
  exact bracesAfter_of_ne h.1 h.2 depth

/-- Only braces matter to the number of open braces. -/
theorem Openings.foldl_after_braces (o : Openings) (texts : List String) :
    (texts.foldl Openings.after o).braces = (texts.filter isBrace).foldl bracesAfter o.braces := by
  rw [foldl_filter_of_neutral bracesAfter_of_not_isBrace]
  exact (List.foldl_hom Openings.braces fun _ _ => rfl).symm

/-- Only round and square brackets matter to the number of open groups. -/
theorem Openings.foldl_after_groups (o : Openings) (texts : List String) :
    (texts.foldl Openings.after o).groups = (texts.filter isGroupBracket).foldl groupsAfter o.groups := by
  rw [foldl_filter_of_neutral groupsAfter_of_not_isGroupBracket]
  exact (List.foldl_hom Openings.groups fun _ _ => rfl).symm

namespace Recognizer

/-! ## Passes -/

/-- What is open in a state. In Go only braces are counted. An indentation grammar counts brackets in a
way of its own. -/
def openings : Recognizer → Openings
  | go s => { braces := s.braces.depth }
  | script s => s.openings
  | indent _ => {}

/-- Whether a token is left out of the count. -/
def hides (r : Recognizer) (text : String) : Bool :=
  match r with
  | go s => isGroupBracket text || s.hides text
  | script s => s.hides text
  | indent _ => true

/-- The texts of the code tokens that a pass counts. -/
def counted (table : DecisionTable) (r : Recognizer) : List Token → List String
  | [] => []
  | t :: ts =>
    if t.isCode && !r.hides t.text then t.text :: (r.feed table t).counted table ts
    else (r.feed table t).counted table ts

variable (table : DecisionTable) (r : Recognizer)

theorem openings_read (t : Token) : (r.read table t).openings =
    if t.isCode && !r.hides t.text then r.openings.after t.text else r.openings := by
  cases r with
  | go s =>
    show ({ braces := (s.read table t).braces.depth } : Openings) = _
    rw [s.read_depth table t, hides]
    cases hgroup : isGroupBracket t.text with
    | true =>
      rw [bracesAfter_of_isGroupBracket hgroup, ite_self, Bool.true_or, Bool.not_true, Bool.and_false]
      rfl
    | false =>
      rw [Bool.false_or, openings, Openings.after, groupsAfter_of_not_isGroupBracket hgroup]
      split <;> rfl
  | script s => exact s.read_openings t table
  | indent s =>
    rw [hides, Bool.not_true, Bool.and_false]
    rfl

@[simp] theorem openings_mapLedger (f : Ledger → Ledger) : (r.mapLedger f).openings = r.openings := by
  cases r <;> rfl

@[simp] theorem hides_mapLedger (f : Ledger → Ledger) (text : String) :
    (r.mapLedger f).hides text = r.hides text := by
  cases r <;> rfl

/-- A token opens or closes what its text says, unless it is hidden. -/
theorem openings_feed (t : Token) : (r.feed table t).openings =
    if t.isCode && !r.hides t.text then r.openings.after t.text else r.openings := by
  cases ht : t.isNewline with
  | true =>
    rw [feed_of_isNewline table r ht, openings_read, hides_mapLedger, openings_mapLedger]
  | false =>
    rw [feed_of_not_isNewline table r ht, absorb, openings_mapLedger, openings_read, hides_mapLedger,
      openings_mapLedger]

/-- What is open after a pass is what the counted brackets have left open. -/
theorem openings_run (ts : List Token) :
    (r.run table ts).openings = (r.counted table ts).foldl Openings.after r.openings := by
  induction ts generalizing r with
  | nil => rfl
  | cons t ts ih =>
    rw [run_cons, ih, openings_feed, counted]
    split <;> rfl

/-- Whether a recognizer follows indentation. -/
def isIndent : Recognizer → Bool
  | indent _ => true
  | _ => false

theorem isIndent_run (ts : List Token) : (r.run table ts).isIndent = r.isIndent := by
  have hfeed (r : Recognizer) (t : Token) : (r.feed table t).isIndent = r.isIndent := by
    unfold feed
    cases r <;> split <;> rfl
  induction ts generalizing r with
  | nil => rfl
  | cons t ts ih => rw [run_cons, ih, hfeed]

variable {r} in
/-- In a grammar with braces, the end of the input looks at what is open. -/
theorem finish_error (h : r.isIndent = false) : r.finish.2 = r.openings.error? := by
  cases r with
  | go s => rfl
  | script s => exact s.finish_error
  | indent s => cases h

end Recognizer

namespace Analysis

open Recognizer

/-- What the counted brackets of a text leave open. -/
def openAtEnd (language : Language) (source : String) : Openings :=
  ((start language).counted (.of language) (sourceTokens language source)).foldl Openings.after {}

/-- The end of a text looks at what its counted brackets leave open. -/
theorem recognize_error_eq {language : Language} (h : language ≠ .python) (source : String) :
    (recognize language source).2 = (openAtEnd language source).error? := by
  have hopen : (start language).openings = {} := by cases language <;> rfl
  have hindent : (start language).isIndent = false := by
    cases language with
    | python => exact absurd rfl h
    | go | typescript | javascript => rfl
  rw [recognize, finish_error ((isIndent_run _ _ _).trans hindent), openings_run, hopen, openAtEnd]

/-- What the counted brackets leave open is all that the end of a text looks at. If it is anything, the
measurement is an estimate without functions. -/
theorem recognize_error (language : Language) (filename source : String) (h : language ≠ .python) :
    (recognize language source).2 = (openAtEnd language source).error? ∧
      ∀ e, (openAtEnd language source).error? = some e →
        ofSource language filename source = (aggregate language filename source, some e) ∧
          (aggregate language filename source).mode = .aggregate ∧
          (aggregate language filename source).functions = [] := by
  have herror := recognize_error_eq h source
  exact ⟨herror, fun e he => ⟨ofSource_of_error (herror.trans he) filename, rfl, rfl⟩⟩

/-- A parenthesis is left open in the body of a function. -/
theorem recognize_error_parenthesis :
    Language.typescript ≠ .python ∧
      (openAtEnd .typescript "function f() \x7b (").error? = some (.unclosedBrackets 1) ∧
      (recognize .typescript "function f() \x7b (").2 = some (.unclosedBrackets 1) := by
  have hopen : (openAtEnd .typescript "function f() \x7b (").error? = some (.unclosedBrackets 1) := by
    decide +kernel
  refine ⟨by decide, hopen, ?_⟩
  rw [(recognize_error .typescript "a.ts" "function f() \x7b (" (by decide)).1, hopen]

/-! ## Brackets that are left open -/

/-- The open brackets after tokens, innermost first. A closing bracket that does not close the innermost
open one is passed over. -/
def leftOpen (tokens : List Token) : List String :=
  tokens.foldl (fun stack t => (Brackets.after stack t).getD stack) []

/-- Where every closing bracket closes the innermost open one, none is passed over. -/
theorem leftOpen_eq {tokens : List Token} {stack : List String}
    (h : Brackets.afterAll [] tokens = some stack) : leftOpen tokens = stack := by
  suffices hfold : ∀ below, Brackets.afterAll below tokens = some stack →
      tokens.foldl (fun stack t => (Brackets.after stack t).getD stack) below = stack from hfold [] h
  clear h
  induction tokens with
  | nil => exact fun below h => Option.some.inj h
  | cons t ts ih =>
    intro below h
    obtain ⟨next, hnext, hrest⟩ := Option.bind_eq_some_iff.1 h
    rw [List.foldl_cons, hnext]
    exact ih next hrest

/-- All brackets of a kind that stand in the code of a text are counted: no signature hides one. -/
def CountsAll (kind : String → Bool) (language : Language) (source : String) : Prop :=
  ((start language).counted (.of language) (sourceTokens language source)).filter kind =
    (codeTexts (sourceTokens language source)).filter kind

variable {language : Language} {source : String} {stack : List String}

/-- Where all braces are counted, those that are left open are open at the end. -/
theorem openAtEnd_braces (hcounts : CountsAll isBrace language source)
    (h : Brackets.afterAll [] (sourceTokens language source) = some stack) :
    (openAtEnd language source).braces = stack.count "\x7b" := by
  rw [openAtEnd, Openings.foldl_after_braces, hcounts, ← Openings.foldl_after_braces,
    Openings.foldl_after_codeTexts h]
  simp [Openings.inside]

/-- Where all round and square brackets are counted, those that are left open are open at the end. -/
theorem openAtEnd_groups (hcounts : CountsAll isGroupBracket language source)
    (h : Brackets.afterAll [] (sourceTokens language source) = some stack) :
    (openAtEnd language source).groups = stack.count "(" + stack.count "[" := by
  rw [openAtEnd, Openings.foldl_after_groups, hcounts, ← Openings.foldl_after_groups,
    Openings.foldl_after_codeTexts h]
  simp [Openings.inside]

/-- A bracket that is left open makes the measurement an estimate, if all brackets of its kind are counted and
every closing bracket closes the innermost open one. -/
theorem estimate_of_leftOpen (filename : String) (hlanguage : language ≠ .python)
    (hmatched : (Brackets.afterAll [] (sourceTokens language source)).isSome)
    (hopen : "\x7b" ∈ leftOpen (sourceTokens language source) ∧ CountsAll isBrace language source ∨
      ("(" ∈ leftOpen (sourceTokens language source) ∨ "[" ∈ leftOpen (sourceTokens language source)) ∧
        CountsAll isGroupBracket language source) :
    ∃ e, (recognize language source).2 = some e ∧
      ofSource language filename source = (aggregate language filename source, some e) := by
  obtain ⟨stack, hstack⟩ := Option.isSome_iff_exists.1 hmatched
  rw [leftOpen_eq hstack] at hopen
  cases herror : (openAtEnd language source).error? with
  | some e =>
    have hrecognized := (recognize_error_eq hlanguage source).trans herror
    exact ⟨e, hrecognized, ofSource_of_error hrecognized filename⟩
  | none =>
    -- nothing is open at the end, so nothing is left on the stack
    have hnone := Openings.eq_of_error?_eq_none herror
    exfalso
    rcases hopen with ⟨hbrace, hcounts⟩ | ⟨hgroup, hcounts⟩
    · have hcount := openAtEnd_braces hcounts hstack
      rw [hnone] at hcount
      exact List.count_eq_zero.1 hcount.symm hbrace
    · have hcount := openAtEnd_groups hcounts hstack
      rw [hnone] at hcount
      obtain ⟨hround, hsquare⟩ := Nat.add_eq_zero_iff.1 hcount.symm
      rcases hgroup with hgroup | hgroup
      · exact List.count_eq_zero.1 hround hgroup
      · exact List.count_eq_zero.1 hsquare hgroup

/-! ## Brackets that go unnoticed -/

/-- The braces of a type literal among results and the brackets of a return type go unnoticed. -/
theorem left_open_unnoticed :
    leftOpen (sourceTokens .go "func f() struct \x7b") = ["\x7b"] ∧
      (recognize .go "func f() struct \x7b").2 = none ∧
      leftOpen (sourceTokens .typescript "function f(): [") = ["["] ∧
      (recognize .typescript "function f(): [").2 = none := by
  decide +kernel

end Analysis

end Cyclomatic
