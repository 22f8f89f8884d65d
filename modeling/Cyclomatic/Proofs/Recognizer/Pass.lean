import Mathlib
import Cyclomatic.Proofs.Recognizer.Go
import Cyclomatic.Proofs.Recognizer.Indent
import Cyclomatic.Proofs.Recognizer.Script
import Cyclomatic.Recognizer

/-!
# A pass over tokens

What all recognizers have in common. Whatever the grammar, a token that is absorbed is a reading of the
ledger between its announcement and its credit (`Recognizer.absorb_reads`), a line break is a reading on
the next line that opens no function (`Recognizer.feed_newline_settles`), and so is the end of the input
(`Recognizer.finish_settles`). None of them loses a decision, but for those that a token makes void
(`Recognizer.voids`).

From the steps follow the facts about whole passes: states stay sound (`Recognizer.sound_run`), the ledger
is on the line that the line breaks so far lead to (`Recognizer.ledger_run_line`), and functions that have
closed stay as they are (`Recognizer.functions_isPrefix_run`).
-/

namespace Cyclomatic

namespace Recognizer

/-! ## States -/

/-- What holds in every state of a pass. -/
def Sound : Recognizer → Prop
  | go _ => True
  | script s => s.Sound
  | indent s => s.Sound

/-- The decisions that wait in a state. -/
def held : Recognizer → Nat
  | go _ => 0
  | script s => s.held
  | indent s => s.headerDecisions

/-- Whether a token makes a decision token void: itself, if it is a `case` inside a line, or the question
mark before it, if it shows that this is an optional marker. -/
def voids (table : DecisionTable) (t : Token) : Recognizer → Bool
  | go _ => false
  | script s => s.isOptional t
  | indent s => s.isLateCase table t

/-- Whether a token is a decision. -/
def isDecision (table : DecisionTable) (t : Token) : Bool :=
  t.isCode && table.decides t.text

/-- A line break is no decision. -/
theorem isDecision_of_isNewline (table : DecisionTable) {t : Token} (ht : t.isNewline = true) :
    isDecision table t = false := by
  rw [isDecision, Token.isCode_of_isNewline ht, Bool.false_and]

@[simp] theorem ledger_mapLedger (f : Ledger → Ledger) (r : Recognizer) :
    (r.mapLedger f).ledger = f r.ledger := by
  cases r <;> rfl

@[simp] theorem held_mapLedger (f : Ledger → Ledger) (r : Recognizer) :
    (r.mapLedger f).held = r.held := by
  cases r <;> rfl

@[simp] theorem voids_mapLedger (table : DecisionTable) (t : Token) (f : Ledger → Ledger)
    (r : Recognizer) : (r.mapLedger f).voids table t = r.voids table t := by
  cases r <;> rfl

/-- A change of the ledger that keeps the first lines of functions and moves no line back keeps a state
sound. -/
theorem Sound.mapLedger {r : Recognizer} (hr : r.Sound) {f : Ledger → Ledger}
    (hstarts : ∀ l : Ledger, (f l).frames.map (·.startLine) = l.frames.map (·.startLine))
    (hline : ∀ l : Ledger, l.line ≤ (f l).line) : (r.mapLedger f).Sound := by
  cases r with
  | go s => trivial
  | script s => exact hr
  | indent s =>
    have hframes {bound : Int} (h : ∀ g ∈ s.ledger.frames, g.startLine ≤ bound) :
        ∀ g ∈ (f s.ledger).frames, g.startLine ≤ bound :=
      Ledger.forall_frames_of_map_eq (P := fun first => first ≤ bound) (hstarts s.ledger) h
    refine ⟨hr.lineStart, hr.header, hframes hr.reached, ?_⟩
    exact hframes fun g hg => (hr.started g hg).trans (hline s.ledger)

/-- A state remains sound when a token is announced. -/
theorem Sound.announce {r : Recognizer} (hr : r.Sound) (lineSpan : Int) :
    (r.mapLedger (·.announce lineSpan)).Sound :=
  hr.mapLedger (fun _ => rfl) fun _ => le_rfl

theorem Sound.credit {r : Recognizer} (hr : r.Sound) (lineSpan : Int) :
    (r.mapLedger (·.credit lineSpan)).Sound :=
  hr.mapLedger (fun l => Ledger.map_frames_credit l lineSpan _ fun _ _ _ => rfl)
    fun l => (Ledger.credit_line l lineSpan).ge

/-- A state remains sound on the next line. -/
theorem Sound.nextLine {r : Recognizer} (hr : r.Sound) : (r.mapLedger Ledger.nextLine).Sound :=
  hr.mapLedger (fun _ => rfl) fun l => by simp [Ledger.nextLine]

/-! ## One token -/

/-- A token that is no line break is a reading of the ledger. -/
theorem read_reads (table : DecisionTable) {r : Recognizer} (hr : r.Sound) {t : Token}
    (ht : t.isNewline = false) :
    ∃ reach k, Ledger.Reads reach k r.ledger (r.read table t).ledger ∧
      k + (r.read table t).held + (r.voids table t).toNat =
        r.held + (isDecision table t).toNat := by
  cases r with
  | go s =>
    refine ⟨true, _, (Go.read_reads table s t).ledger, ?_⟩
    simp only [read, held, voids, isDecision, Bool.toNat_false]
    cases t.isCode && table.decides t.text <;> rfl
  | script s =>
    obtain ⟨k, hk, he⟩ := Script.read_hands table s t hr ht
    exact ⟨true, k, hk.ledger, he⟩
  | indent s => exact Indent.read_reads table s t hr ht

/-- A line break is a reading of the ledger that opens no function. -/
theorem read_newline_settles (table : DecisionTable) (r : Recognizer) {t : Token}
    (ht : t.isNewline = true) :
    ∃ k, Ledger.Settles true k r.ledger (r.read table t).ledger ∧
      k + (r.read table t).held = r.held := by
  cases r with
  | go s =>
    refine ⟨0, ?_, rfl⟩
    have hbraces : (s.read table t).braces = s.braces := by
      rw [Go.read, if_pos ht, Go.readNewline_braces]
    rw [read, ledger, ledger, hbraces]
    exact .refl _
  | script s =>
    have hread : s.read table t = s.readNewline t.implicit := by rw [Script.read, if_pos ht]
    obtain ⟨k, hk, he⟩ := Script.readNewline_hands s t.implicit
    refine ⟨k, ?_, ?_⟩
    · rw [read, hread]
      exact hk.ledger
    · -- a line break leaves an open question mark open
      have hquestion : (s.readNewline t.implicit).question = s.question :=
        Script.readNewline_question s t.implicit
      rw [read, hread, held, held, Script.held, Script.held, hquestion]
      omega
  | indent s =>
    have hread : s.read table t = s.readNewline t.implicit := by rw [Indent.read, if_pos ht]
    rw [read, hread]
    exact Indent.readNewline_settles true s t.implicit

/-- Reading keeps a state sound. -/
theorem Sound.read (table : DecisionTable) {r : Recognizer} (hr : r.Sound) (t : Token) :
    (r.read table t).Sound := by
  cases hn : t.isNewline with
  | true =>
    cases r with
    | go s => trivial
    | script s =>
      show (s.read table t).Sound
      rw [Script.read, if_pos hn]
      exact (Script.readNewline_framed s t.implicit hr).sound
    | indent s =>
      show (s.read table t).Sound
      rw [Indent.read, if_pos hn]
      exact Indent.readNewline_sound s t.implicit hr
  | false =>
    cases r with
    | go s => trivial
    | script s => exact Script.read_sound table s t hn
    | indent s => exact Indent.read_sound table s t hr hn

/-- A token that is absorbed is announced, read and credited. -/
theorem absorb_reads (table : DecisionTable) {r : Recognizer} (hr : r.Sound) {t : Token}
    (ht : t.isNewline = false) :
    ∃ reach k m, Ledger.Reads reach k (r.ledger.announce t.lineSpan) m ∧
      (r.absorb table t).ledger = m.credit ∧
      k + (r.absorb table t).held + (r.voids table t).toNat =
        r.held + (isDecision table t).toNat := by
  obtain ⟨reach, k, hreads, hk⟩ := read_reads table (hr.announce t.lineSpan) ht
  rw [ledger_mapLedger] at hreads
  rw [held_mapLedger, voids_mapLedger] at hk
  refine ⟨reach, k, _, hreads, ?_, ?_⟩
  · rw [absorb, ledger_mapLedger]
  · rw [absorb, held_mapLedger]
    exact hk

/-- A line break is read on the next line. -/
theorem feed_of_isNewline (table : DecisionTable) (r : Recognizer) {t : Token}
    (ht : t.isNewline = true) : r.feed table t = (r.mapLedger Ledger.nextLine).read table t := by
  rw [feed, if_pos ht]

/-- Any other token is absorbed. -/
theorem feed_of_not_isNewline (table : DecisionTable) (r : Recognizer) {t : Token}
    (ht : t.isNewline = false) : r.feed table t = r.absorb table t := by
  rw [feed, if_neg (by simp [ht])]

/-- A line break is a reading on the next line. -/
theorem feed_newline_settles (table : DecisionTable) (r : Recognizer) {t : Token}
    (ht : t.isNewline = true) :
    ∃ k, Ledger.Settles true k r.ledger.nextLine (r.feed table t).ledger ∧
      k + (r.feed table t).held = r.held := by
  rw [feed_of_isNewline table r ht]
  simpa using read_newline_settles table (r.mapLedger Ledger.nextLine) ht

/-- A state remains sound after any token. -/
theorem Sound.feed (table : DecisionTable) {r : Recognizer} (hr : r.Sound) (t : Token) :
    (r.feed table t).Sound := by
  cases ht : t.isNewline with
  | true =>
    rw [feed_of_isNewline table r ht]
    exact hr.nextLine.read table t
  | false =>
    rw [feed_of_not_isNewline table r ht]
    exact ((hr.announce _).read table t).credit _

/-- Only a line break moves the ledger, to the next line. -/
theorem ledger_feed_line (table : DecisionTable) {r : Recognizer} (hr : r.Sound) (t : Token) :
    (r.feed table t).ledger.line = r.ledger.line + t.isNewline.toNat := by
  cases ht : t.isNewline with
  | true =>
    obtain ⟨k, hsettles, _⟩ := feed_newline_settles table r ht
    rw [hsettles.line_eq]
    rfl
  | false =>
    obtain ⟨reach, k, m, hreads, hm, _⟩ := absorb_reads table hr ht
    rw [feed_of_not_isNewline table r ht, hm, Ledger.credit_line, hreads.line_eq,
      Ledger.announce_line]
    simp

/-- The decisions that no end of the input settles. -/
def unsettled : Recognizer → Nat
  | script s => s.unsettled
  | _ => 0

/-- An end of the input that succeeds is a reading of the ledger that opens no function. -/
theorem finish_settles {r : Recognizer} (hr : r.Sound) (hsucc : r.finish.2 = none) :
    ∃ reach k, Ledger.Settles reach k r.ledger r.finish.1.ledger ∧ k + r.unsettled = r.held := by
  cases r with
  | go s => exact ⟨true, 0, .refl _, rfl⟩
  | script s =>
    obtain ⟨k, hk, he, _⟩ := Script.finish_settles s hsucc
    exact ⟨true, k, hk.ledger, he⟩
  | indent s =>
    obtain ⟨reach, hsettles, _⟩ := Indent.finish_settles s hr hsucc
    exact ⟨reach, s.headerDecisions, hsettles, rfl⟩

/-! ## Whole passes -/

/-- A fresh recognizer is sound. -/
theorem sound_start (language : Language) (line : Int) : (start language line).Sound := by
  cases language with
  | go => trivial
  | typescript => exact .inl rfl
  | javascript => exact .inl rfl
  | python =>
    refine ⟨fun _ => rfl, fun _ => rfl, ?_, ?_⟩
    · simp [Indent.start]
    · simp [Ledger.Started, Indent.start]

@[simp] theorem ledger_start (language : Language) (line : Int) :
    (start language line).ledger = { line } := by
  cases language <;> rfl

@[simp] theorem held_start (language : Language) (line : Int) : (start language line).held = 0 := by
  cases language <;> rfl

@[simp] theorem run_nil (table : DecisionTable) (r : Recognizer) : r.run table [] = r := rfl

@[simp] theorem run_cons (table : DecisionTable) (r : Recognizer) (t : Token) (ts : List Token) :
    r.run table (t :: ts) = (r.feed table t).run table ts := rfl

/-- Tokens may be run through piece by piece. -/
theorem run_append (table : DecisionTable) (r : Recognizer) (ts us : List Token) :
    r.run table (ts ++ us) = (r.run table ts).run table us := by
  simp [run]

/-- Every state of a pass is sound. -/
theorem sound_run (table : DecisionTable) {r : Recognizer} (hr : r.Sound) (ts : List Token) :
    (r.run table ts).Sound := by
  induction ts generalizing r with
  | nil => exact hr
  | cons t ts ih => exact ih (hr.feed table t)

/-- A pass moves the ledger one line further for each line break. -/
theorem ledger_run_line (table : DecisionTable) {r : Recognizer} (hr : r.Sound) (ts : List Token) :
    (r.run table ts).ledger.line = r.ledger.line + (ts.countP (·.isNewline) : Nat) := by
  induction ts generalizing r with
  | nil => simp
  | cons t ts ih =>
    rw [run_cons, ih (hr.feed table t), ledger_feed_line table hr t, List.countP_cons]
    cases t.isNewline with
    | true => simp; omega
    | false => simp

/-- A function that has closed stays as it is. -/
theorem functions_isPrefix_run (table : DecisionTable) {r : Recognizer} (hr : r.Sound)
    (ts : List Token) : r.ledger.functions <+: (r.run table ts).ledger.functions := by
  induction ts generalizing r with
  | nil => exact List.prefix_rfl
  | cons t ts ih =>
    refine List.IsPrefix.trans ?_ (ih (hr.feed table t))
    cases ht : t.isNewline with
    | true =>
      obtain ⟨k, hsettles, _⟩ := feed_newline_settles table r ht
      exact hsettles.functions_isPrefix
    | false =>
      obtain ⟨reach, k, m, hreads, hm, _⟩ := absorb_reads table hr ht
      rw [feed_of_not_isNewline table r ht, hm, Ledger.credit_functions]
      exact hreads.functions_isPrefix

end Recognizer

end Cyclomatic
