import Mathlib
import Cyclomatic.Proofs.Analysis
import Cyclomatic.Proofs.Recognizer.Pass

/-!
# The balance of decisions

Every decision token of a text ends up in exactly one place: in the function that was innermost when it
was counted, in no function, or, if it only looked like a decision, nowhere. Until then it waits.

What only looks like a decision can be told from the tokens alone: a question mark that is an optional
marker (`optionalMarks`) and a `case` inside a line (`lateCases`). The balance holds after every token of
a pass (`Recognizer.books_run`), and at the end only an arrow without a body and a question mark that
nothing follows still keep decisions waiting.
-/

namespace Cyclomatic

namespace Recognizer

/-! ## What only looks like a decision -/

/-- The question marks that are optional markers: those that the next token, line breaks aside, shows to
be ones. `question` tells whether the token before was a question mark that counts as a decision. -/
def optionalMarks (table : DecisionTable) : Bool → List Token → Nat
  | _, [] => 0
  | question, t :: ts =>
    if t.isNewline then optionalMarks table question ts
    else
      (question && (t.isCode && Script.marksOptional t.text)).toNat +
        optionalMarks table (isDecision table t && t.text == "?") ts

/-- The decision tokens `case` that do not begin a logical line. `depth` is the number of open brackets,
and `fresh` tells whether the next token begins a logical line. -/
def lateCases (table : DecisionTable) : Nat → Bool → List Token → Nat
  | _, _, [] => 0
  | depth, fresh, t :: ts =>
    if t.isNewline then lateCases table depth (fresh || (!t.implicit && depth == 0)) ts
    else
      (isDecision table t && (t.text == "case" && !fresh)).toNat +
        lateCases table (Indent.bracketsAfter depth t) false ts

/-- The decision tokens of a text that only look like decisions. -/
def vetoedDecisions (language : Language) (tokens : List Token) : Nat :=
  match language with
  | .go => 0
  | .typescript | .javascript => optionalMarks (.of language) false tokens
  | .python => lateCases (.of language) 0 true tokens

/-- The decision tokens that only look like decisions, from a state of a pass on. -/
def vetoedFrom (table : DecisionTable) (tokens : List Token) : Recognizer → Nat
  | go _ => 0
  | script s => optionalMarks table s.question tokens
  | indent s => lateCases table s.bracketDepth s.atLineStart tokens

theorem vetoedFrom_nil (table : DecisionTable) (r : Recognizer) : r.vetoedFrom table [] = 0 := by
  cases r <;> rfl

theorem vetoedFrom_start (language : Language) (line : Int) (tokens : List Token) :
    (start language line).vetoedFrom (.of language) tokens = vetoedDecisions language tokens := by
  cases language <;> rfl

/-- Absorbing a token has no part in whether later tokens are decisions, but for lines, brackets and
question marks. -/
theorem vetoedFrom_mapLedger (table : DecisionTable) (tokens : List Token) (f : Ledger → Ledger)
    (r : Recognizer) : (r.mapLedger f).vetoedFrom table tokens = r.vetoedFrom table tokens := by
  cases r <;> rfl

/-- A line break vetoes nothing. -/
theorem vetoedFrom_newline (table : DecisionTable) (r : Recognizer) {t : Token}
    (ht : t.isNewline = true) (ts : List Token) :
    r.vetoedFrom table (t :: ts) = (r.feed table t).vetoedFrom table ts := by
  rw [feed_of_isNewline table r ht, ← vetoedFrom_mapLedger table (t :: ts) Ledger.nextLine r]
  generalize r.mapLedger Ledger.nextLine = x
  cases x with
  | go s => rfl
  | script s =>
    have hread : s.read table t = s.readNewline t.implicit := by rw [Script.read, if_pos ht]
    rw [vetoedFrom, optionalMarks, if_pos ht, read, vetoedFrom, hread, Script.readNewline_question]
  | indent s =>
    have hread : s.read table t = s.readNewline t.implicit := by rw [Indent.read, if_pos ht]
    obtain ⟨hstart, hbrackets, _⟩ := Indent.readNewline_frame s t.implicit
    rw [vetoedFrom, lateCases, if_pos ht, read, vetoedFrom, hread, hstart, hbrackets]

/-- A token vetoes itself or the question mark before it. -/
theorem vetoedFrom_token (table : DecisionTable) {r : Recognizer} (hr : r.Sound) {t : Token}
    (ht : t.isNewline = false) (ts : List Token) :
    r.vetoedFrom table (t :: ts) =
      (r.voids table t).toNat + (r.feed table t).vetoedFrom table ts := by
  have hsound := hr.announce t.lineSpan
  rw [feed_of_not_isNewline table r ht, absorb, vetoedFrom_mapLedger,
    ← vetoedFrom_mapLedger table (t :: ts) (·.announce t.lineSpan) r,
    ← voids_mapLedger table t (·.announce t.lineSpan) r]
  generalize r.mapLedger (·.announce t.lineSpan) = x at hsound
  have hif : ¬ t.isNewline = true := by simp [ht]
  cases x with
  | go s => rfl
  | script s =>
    -- the question mark before the token is in the state, whatever came between
    rw [vetoedFrom, optionalMarks, if_neg hif, read, vetoedFrom, Script.read_question table s t ht]
    rfl
  | indent s =>
    obtain ⟨hstart, hbrackets, _⟩ := Indent.read_frame table s t hsound ht
    rw [vetoedFrom, lateCases, if_neg hif, read, vetoedFrom, hstart, hbrackets]
    rfl

/-! ## The books of a pass -/

/-- All decisions that a pass knows of: those in its ledger and those that wait. -/
def books (r : Recognizer) : Int :=
  r.ledger.bookedDecisions + r.held

/-- A line break leaves the books as they are. -/
theorem books_feed_newline (table : DecisionTable) (r : Recognizer) {t : Token}
    (ht : t.isNewline = true) : (r.feed table t).books = r.books := by
  obtain ⟨k, hsettles, hk⟩ := feed_newline_settles table r ht
  have hnext : r.ledger.nextLine.bookedDecisions = r.ledger.bookedDecisions := rfl
  rw [books, books, hsettles.bookedDecisions_eq, hnext]
  omega

/-- A decision token enters the books once; what only looked like a decision leaves them. -/
theorem books_feed_token (table : DecisionTable) {r : Recognizer} (hr : r.Sound) {t : Token}
    (ht : t.isNewline = false) :
    (r.feed table t).books + (r.voids table t).toNat = r.books + (isDecision table t).toNat := by
  obtain ⟨reach, k, m, hreads, hm, hk⟩ := absorb_reads table hr ht
  have hannounce : (r.ledger.announce t.lineSpan).bookedDecisions = r.ledger.bookedDecisions := rfl
  rw [feed_of_not_isNewline table r ht, books, books, hm, Ledger.bookedDecisions_credit,
    hreads.bookedDecisions_eq, hannounce]
  omega

/-- Over a pass the books grow by the decision tokens, less those that only look like decisions. -/
theorem books_run (table : DecisionTable) {r : Recognizer} (hr : r.Sound) (ts : List Token) :
    (r.run table ts).books + r.vetoedFrom table ts =
      r.books + (ts.countP (isDecision table) : Nat) := by
  induction ts generalizing r with
  | nil => simp [vetoedFrom_nil]
  | cons t ts ih =>
    have hih := ih (hr.feed table t)
    rw [run_cons, List.countP_cons]
    cases ht : t.isNewline with
    | true =>
      rw [vetoedFrom_newline table r ht, isDecision_of_isNewline table ht]
      rw [books_feed_newline table r ht] at hih
      simpa using hih
    | false =>
      have hstep := books_feed_token table hr ht
      rw [vetoedFrom_token table hr ht]
      cases hdec : isDecision table t with
      | true =>
        rw [hdec, Bool.toNat_true] at hstep
        simp only [if_true]
        push_cast at hstep ⊢
        omega
      | false =>
        rw [hdec, Bool.toNat_false] at hstep
        simp only [Bool.false_eq_true, if_false, Nat.add_zero]
        push_cast at hstep ⊢
        omega

/-! ## The ledger of a pass -/

/-- No count is negative in any state of a pass. -/
theorem tallied_run (table : DecisionTable) {r : Recognizer} (hr : r.Sound) (h : r.ledger.Tallied)
    (ts : List Token) : (r.run table ts).ledger.Tallied := by
  induction ts generalizing r with
  | nil => exact h
  | cons t ts ih =>
    apply ih (hr.feed table t)
    cases ht : t.isNewline with
    | true =>
      obtain ⟨k, hsettles, _⟩ := feed_newline_settles table r ht
      exact hsettles.tallied ⟨h.frames, h.functions, h.stray⟩
    | false =>
      obtain ⟨reach, k, m, hreads, hm, _⟩ := absorb_reads table hr ht
      rw [feed_of_not_isNewline table r ht, hm]
      exact (hreads.tallied ⟨h.frames, h.functions, h.stray⟩).credit _

end Recognizer

namespace Analysis

open Recognizer

/-- The books of a pass over the first tokens of a text hold every decision token so far, but for those
that only look like decisions. -/
theorem books_start_run (language : Language) (ts : List Token) :
    ((start language).run (.of language) ts).books + vetoedDecisions language ts =
      (ts.countP (isDecision (.of language)) : Nat) := by
  have hrun := books_run (.of language) (sound_start language 1) ts
  have hstart : (start language).books = 0 := by
    rw [books, ledger_start, held_start]
    rfl
  rw [vetoedFrom_start, hstart, zero_add] at hrun
  exact hrun

theorem tallied_start_run (language : Language) (ts : List Token) :
    ((start language).run (.of language) ts).ledger.Tallied := by
  apply tallied_run _ (sound_start language 1)
  rw [ledger_start]
  exact ⟨by simp, by simp [Ledger.functions], le_rfl⟩

/-- No count is negative at the end of a pass that ends well. -/
theorem tallied_recognize {language : Language} {source : String}
    (h : (recognize language source).2 = none) : (recognize language source).1.ledger.Tallied := by
  have hsound := sound_run (.of language) (sound_start language 1) (sourceTokens language source)
  obtain ⟨reach, k, hsettles, _⟩ := finish_settles hsound h
  exact hsettles.tallied (tallied_start_run language _)

/-- Measured as a whole, a text has as many decisions as decision tokens. -/
theorem aggregate_decisionPoints (language : Language) (filename source : String) :
    (aggregate language filename source).decisionPoints =
      ((sourceTokens language source).countP (isDecision (.of language)) : Nat) := by
  have hcount : ((sourceTokens language source).filter (!·.isNewline)).countP
        (isDecision (.of language)) =
      (sourceTokens language source).countP (isDecision (.of language)) := by
    rw [List.countP_filter]
    apply List.countP_congr
    intro t _
    cases ht : t.isNewline with
    | true => simp [isDecision_of_isNewline _ ht]
    | false => simp
  rw [← hcount]
  rfl

/-- At the end of a pass that ends well, every decision token belongs to a function or to none, only
looks like a decision, or was left waiting. -/
theorem recognize_balance (language : Language) (source : String)
    (hsucc : (recognize language source).2 = none) :
    ((sourceTokens language source).countP (isDecision (.of language)) : Nat) =
      (recognize language source).1.ledger.bookedDecisions +
        vetoedDecisions language (sourceTokens language source) +
        ((start language).run (.of language) (sourceTokens language source)).unsettled := by
  have hbooks := books_start_run language (sourceTokens language source)
  obtain ⟨reach, k, hsettles, hk⟩ :=
    finish_settles (sound_run _ (sound_start language 1) (sourceTokens language source)) hsucc
  have hbooked := hsettles.bookedDecisions_eq
  rw [books] at hbooks
  rw [recognize]
  omega

/-- A text that is measured function by function has each decision token in exactly one place: in one of
its functions, in none, among those that only look like decisions, or among those left waiting. The places
balance after every token, no count is negative, and a function that has closed keeps its count. Measured
as a whole, the text has at least as many decisions, and the same lines and tokens. -/
theorem decisions_balance {language : Language} {filename source : String} {a : Analysis}
    (h : byFunction language filename source = .ok a) :
    (aggregate language filename source).decisionPoints =
        (a.functions.map fun f => f.ccn - 1).sum +
          (recognize language source).1.ledger.strayDecisions +
          vetoedDecisions language (sourceTokens language source) +
          ((start language).run (.of language) (sourceTokens language source)).unsettled ∧
    (∀ before after, sourceTokens language source = before ++ after →
      ((start language).run (.of language) before).books + vetoedDecisions language before =
          (before.countP (isDecision (.of language)) : Nat) ∧
        ((start language).run (.of language) before).ledger.Tallied ∧
        ((start language).run (.of language) before).ledger.functions <+: a.functions) ∧
    (∀ f ∈ a.functions, 1 ≤ f.ccn) ∧
    a.decisionPoints ≤ (aggregate language filename source).decisionPoints ∧
    a.nloc = (aggregate language filename source).nloc ∧
    a.tokenCount = (aggregate language filename source).tokenCount := by
  have hreports := byFunction_reports h
  have hsound := sound_run (.of language) (sound_start language 1) (sourceTokens language source)
  obtain ⟨reach, k, hfinish, _⟩ := finish_settles hsound hreports.succeeds
  have htallied := tallied_recognize hreports.succeeds
  have hfunctions := hreports.functions_eq
  -- no function is open at the end, so the books hold closed functions and strays only
  have hbooked : (recognize language source).1.ledger.bookedDecisions =
      (a.functions.map fun f => f.ccn - 1).sum +
        (recognize language source).1.ledger.strayDecisions := by
    rw [Ledger.bookedDecisions, Ledger.closedDecisions, Ledger.openDecisions, hreports.frames_eq,
      hfunctions]
    simp
  have hbalance := recognize_balance language source hreports.succeeds
  rw [hbooked, ← aggregate_decisionPoints language filename source] at hbalance
  refine ⟨hbalance, ?_, ?_, ?_, hreports.nloc_eq, ?_⟩
  · intro before after hsplit
    refine ⟨books_start_run language before, tallied_start_run language before, ?_⟩
    have hrest := functions_isPrefix_run (.of language)
      (sound_run (.of language) (sound_start language 1) before) after
    rw [← run_append, ← hsplit] at hrest
    rw [hfunctions]
    exact hrest.trans hfinish.functions_isPrefix
  · rw [hfunctions]
    exact htallied.functions
  · have hstray := htallied.stray
    rw [hreports.decisionPoints_eq]
    omega
  · rw [hreports.tokenCount_eq, List.countP_eq_length_filter]
    rfl

/-- A text with a decision in each place: two in an arrow, one in no function, an optional marker, and
one in the parameters of an arrow without a body. -/
def everyPlace : String :=
  "(a=b&&c,d?:e)=>\x7ba?b:c\x7d;x&&y;(p=q||r)=>"

/-- The measures of the arrow in that text, and of the text. -/
def everyPlaceMeasured : Analysis where
  totalCcn := 3
  nloc := 1
  tokenCount := 33
  decisionPoints := 2
  functions := [⟨"(anonymous)", 1, 1, 3, 1, 2, 7, 0⟩]
  language := some .typescript
  filename := ""

theorem decisions_balance_everyPlace :
    byFunction .typescript "" everyPlace = .ok everyPlaceMeasured ∧
      (aggregate .typescript "" everyPlace).decisionPoints = 2 + 1 + 1 + 1 := by
  have hmeasured : byFunction .typescript "" everyPlace = .ok everyPlaceMeasured := by
    decide +kernel
  have hplaces : (recognize .typescript everyPlace).1.ledger.strayDecisions = 1 ∧
      vetoedDecisions .typescript (sourceTokens .typescript everyPlace) = 1 ∧
      ((start .typescript).run (.of .typescript) (sourceTokens .typescript everyPlace)).unsettled =
        1 := by
    decide +kernel
  obtain ⟨hstray, hvetoed, hunsettled⟩ := hplaces
  have hbalance := (decisions_balance hmeasured).1
  rw [hstray, hvetoed, hunsettled] at hbalance
  exact ⟨hmeasured, hbalance⟩

end Analysis

end Cyclomatic
