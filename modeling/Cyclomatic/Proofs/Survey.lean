import Mathlib
import Cyclomatic.Proofs.Recognizer.Endings
import Cyclomatic.Proofs.TokenCredit

/-!
# The extents of functions

A survey follows a pass and notes, for each function, the place of the token that opens it, the places
of the tokens that are credited to it, and the place of the token that closes it (`Extent`). Places count
the tokens of the pass from 0; what the end of the input closes has the place after the last token. The
survey reads all of this off the states of the pass before and after a token.

Courses of open functions stand beside the frames of the ledger, and extents beside the functions that
have closed. A relation between frames and courses that every token keeps holds at the end of the pass
between functions and extents (`Survey.step_token`, `Survey.step_newline`, `Survey.finish_rows`).
-/

namespace Cyclomatic

/-- A relation between two rows holds after a change at the same place of both. -/
theorem forall₂_modify {α β : Type} {R R' : α → β → Prop} {f : α → α} {g : β → β} {xs : List α}
    {ys : List β} (h : List.Forall₂ R xs ys) (hkeep : ∀ a b, R a b → R' a b)
    (hchange : ∀ a b, R a b → R' (f a) (g b)) (i : Nat) :
    List.Forall₂ R' (xs.modify i f) (ys.modify i g) := by
  induction h generalizing i with
  | nil => simp
  | cons hab hrest ih =>
    cases i with
    | zero => exact .cons (hchange _ _ hab) (hrest.imp hkeep)
    | succ i => exact .cons (hkeep _ _ hab) (ih i)

/-- A change leaves the row before its place as it is. -/
theorem take_modify_self {α : Type} (f : α → α) (xs : List α) (i : Nat) :
    (xs.modify i f).take i = xs.take i := by
  induction xs generalizing i with
  | nil => simp
  | cons x xs ih =>
    cases i with
    | zero => simp
    | succ i => simp [ih]

/-- From its place on, a change is one at the front. -/
theorem drop_modify_self {α : Type} (f : α → α) (xs : List α) (i : Nat) :
    (xs.modify i f).drop i = (xs.drop i).modify 0 f := by
  induction xs generalizing i with
  | nil => simp
  | cons x xs ih =>
    cases i with
    | zero => simp
    | succ i => simp [ih]

/-- A change that a view does not see. -/
theorem map_modify_of_forall {α β : Type} {f : α → α} {g : α → β} (h : ∀ x, g (f x) = g x)
    (xs : List α) (i : Nat) : (xs.modify i f).map g = xs.map g := by
  induction xs generalizing i with
  | nil => simp
  | cons x xs ih => cases i <;> simp [h, ih]

/-- What stands beside something of the second row is in the first. -/
theorem exists_of_forall₂_right {α β : Type} {R : α → β → Prop} {xs : List α} {ys : List β}
    (h : List.Forall₂ R xs ys) {b : β} (hb : b ∈ ys) : ∃ a, R a b := by
  induction h with
  | nil => cases hb
  | cons hab _ ih =>
    rcases List.mem_cons.1 hb with rfl | hb
    · exact ⟨_, hab⟩
    · exact ih hb

/-- A fact about the second row may be added to a relation between two rows. -/
theorem forall₂_and_right {α β : Type} {R : α → β → Prop} {p : β → Prop} {xs : List α} {ys : List β}
    (h : List.Forall₂ R xs ys) (hp : ∀ b ∈ ys, p b) :
    List.Forall₂ (fun a b => R a b ∧ p b) xs ys := by
  induction h with
  | nil => exact .nil
  | cons hab _ ih =>
    exact .cons ⟨hab, hp _ List.mem_cons_self⟩ (ih fun b hb => hp b (List.mem_cons_of_mem _ hb))

/-! ## Frames before and after a token -/

namespace Ledger

variable {reach : Bool} {n : Nat} {l m : Ledger} {first : Int} {span : Nat}

/-- A credit of the announced token adds its lines to those of the file, and the token to the first of the
open functions. -/
theorem credit_of_announced (h : l.pending = .announced first span) (lineSpan : Int) :
    (l.credit lineSpan).codeLines = l.codeLines.insertRun first (span + 1) ∧
      (l.credit lineSpan).frames.map (·.undecided) =
        (l.frames.map (·.undecided)).modify 0 (·.credit first span) := by
  simp only [credit, h, creditInnermost]
  cases l.frames <;> simp

/-- A token that is settled has been credited. -/
theorem credit_of_settled (h : l.pending = .settled) (lineSpan : Int) :
    (l.credit lineSpan).codeLines = l.codeLines ∧
      (l.credit lineSpan).frames = l.frames := by
  simp [credit, h]

/-- The functions that close, as they are reported. -/
def measures (closing : List (Frame × Int)) : List FunctionMeasure :=
  closing.map fun c => c.1.measure c.2

/-- A token on a line that no closing function reaches belongs to the first function that stays open. -/
theorem creditPlace_measures {line : Int} {closing : List (Frame × Int)}
    (h : ∀ c ∈ closing, ¬ line ≤ c.2) : creditPlace line (measures closing) = closing.length := by
  have hany : (measures closing).any (fun f => decide (line ≤ f.endLine)) = false := by
    rw [List.any_eq_false]
    intro f hf
    obtain ⟨c, hc, rfl⟩ := List.mem_map.1 hf
    rw [decide_eq_true_eq]
    exact h c hc
  rw [creditPlace, hany]
  simp [measures]

/-- The row after a token that opens no function: the token is credited in one place of it. -/
theorem Settles.credited_row (h : Settles reach n l m) (hl : l.pending = .announced l.line span) :
    ∃ closing, m.credit.functions = l.functions ++ measures closing ∧
      (∀ c ∈ closing, decide (l.line ≤ c.2) = reach) ∧
      closing.map (·.1.undecided) ++ m.credit.frames.map (·.undecided) =
        (l.frames.map (·.undecided)).modify (creditPlace l.line (measures closing))
          (·.credit l.line span) ∧
      m.credit.codeLines = l.codeLines.insertRun l.line (span + 1) := by
  have hclaims (last : Int) (hlast : decide (l.line ≤ last) = reach) :
      l.pending.claimedBy last = if reach then some (l.line, span) else none := by
    rw [hl, ← hlast, PendingToken.claimedBy]
    by_cases hle : l.line ≤ last <;> simp [hle]
  obtain ⟨closing, hrow⟩ := h.row hclaims
  have hreaches : ∀ f ∈ measures closing, decide (l.line ≤ f.endLine) = reach := by
    intro f hf
    obtain ⟨c, hc, rfl⟩ := List.mem_map.1 hf
    exact hrow.reaches c hc
  refine ⟨closing, by rw [credit_functions, hrow.functions_eq]; rfl, hrow.reaches, ?_⟩
  have hpending := hrow.pending_eq
  cases hc : reach && !closing.isEmpty with
  | true =>
    -- the first function that closes has the token, and nothing is left to credit
    obtain ⟨rfl, _⟩ := Bool.and_eq_true_iff.1 hc
    have hlines := hrow.codeLines_eq
    have hframes := hrow.row_eq
    rw [hc, if_pos rfl] at hpending hlines hframes
    rw [(credit_of_settled hpending 1).1, (credit_of_settled hpending 1).2,
      creditPlace_eq_zero hreaches]
    exact ⟨hframes, hlines⟩
  | false =>
    have hlines := hrow.codeLines_eq
    have hframes := hrow.row_eq
    simp only [hc, Bool.false_eq_true, if_false] at hpending hlines hframes
    rw [hl] at hpending
    have hplace : creditPlace l.line (measures closing) = closing.length := by
      cases closing with
      | nil => rfl
      | cons c cs =>
        have hreach : reach = false := by simpa using hc
        exact creditPlace_measures fun d hd => of_decide_eq_false (by rw [hrow.reaches d hd, hreach])
    rw [(credit_of_announced hpending 1).1, (credit_of_announced hpending 1).2, hlines, hplace,
      ← hframes]
    refine ⟨?_, rfl⟩
    have hlength : closing.length = (closing.map (·.1.undecided)).length := by simp
    rw [hlength, modify_length_append]

/-- The row after a token: it begins with the function that the token opens, if it opens one, and then the
token belongs to that function. The functions that close all reach the token's line, or none of them has
the token. -/
theorem Reads.credited_row {t : Token} (h : Reads reach n (l.announce t.lineSpan) m) :
    ∃ closing opened, m.credit.functions = l.functions ++ measures closing ∧
      (opened = [] ∨ (∃ name params start, opened = [l.newFrame name params start]) ∧
        creditPlace l.line (measures closing) = 0) ∧
      ((∀ c ∈ closing, l.line ≤ c.2) ∨
        opened = [] ∧ creditPlace l.line (measures closing) = closing.length) ∧
      closing.map (·.1.undecided) ++ m.credit.frames.map (·.undecided) =
        (opened ++ l.frames.map (·.undecided)).modify (creditPlace l.line (measures closing))
          (·.credit l.line (lineBreaks t.text)) ∧
      m.credit.codeLines = l.codeLines.insertRun l.line t.lineSpan := by
  have hspan : t.lineSpan = extraLines t.lineSpan + 1 := by rw [extraLines_lineSpan, Token.lineSpan]
  rw [hspan, ← extraLines_lineSpan]
  cases h with
  | settles h =>
    obtain ⟨closing, hfunctions, hreach, hrow, hlines⟩ := h.credited_row rfl
    refine ⟨closing, [], hfunctions, .inl rfl, ?_, hrow, hlines⟩
    cases reach with
    | true => exact .inl fun c hc => of_decide_eq_true (hreach c hc)
    | false => exact .inr ⟨rfl, creditPlace_measures fun c hc => of_decide_eq_false (hreach c hc)⟩
  | @opens before _ _ _ name params start h =>
    have hpending : (((l.announce t.lineSpan).recordDecisions before).openFunction name params
        start).pending = .announced l.line (extraLines t.lineSpan) := by
      rw [openFunction_pending, recordDecisions_pending]
      rfl
    have hline : (((l.announce t.lineSpan).recordDecisions before).openFunction name params
        start).line = l.line := by
      rw [openFunction_line, recordDecisions_line, announce_line]
    rw [← hline] at hpending
    obtain ⟨closing, hfunctions, hreach, hrow, hlines⟩ := h.credited_row hpending
    rw [openFunction_functions, recordDecisions_functions] at hfunctions
    rw [hline, openFunction_frames, newFrame_recordDecisions, List.map_cons,
      map_undecided_recordDecisions] at hrow
    rw [hline, openFunction_codeLines, recordDecisions_codeLines] at hlines
    rw [hline] at hreach
    refine ⟨closing, [l.newFrame name params start], hfunctions, .inr ⟨⟨name, params, start, rfl⟩, ?_⟩,
      .inl fun c hc => of_decide_eq_true (hreach c hc), hrow, hlines⟩
    apply creditPlace_eq_zero
    intro f hf
    obtain ⟨c, hc, rfl⟩ := List.mem_map.1 hf
    exact hreach c hc

/-- Where no token is announced, closing takes functions off the front of the row. -/
theorem Settles.idle_row (h : Settles reach n l m) (hl : l.pending = .idle) :
    ∃ closing, m.functions = l.functions ++ measures closing ∧
      closing.map (·.1.undecided) ++ m.frames.map (·.undecided) = l.frames.map (·.undecided) ∧
      m.codeLines = l.codeLines := by
  have hclaims (last : Int) (_ : decide (l.line ≤ last) = reach) :
      l.pending.claimedBy last = if false then some (0, 0) else none := by
    rw [hl]
    rfl
  obtain ⟨closing, hrow⟩ := h.row hclaims
  exact ⟨closing, hrow.functions_eq, by simpa using hrow.row_eq, by simpa using hrow.codeLines_eq⟩

end Ledger

namespace Recognizer

/-- Whether a token opens a function: there are more functions, closed by it or open after it, than were
open before. -/
def opens (table : DecisionTable) (r : Recognizer) (t : Token) : Bool :=
  decide (r.ledger.depth < (r.closedBy table t).length + (r.feed table t).ledger.depth)

/-- A token changes the row of frames in one place. -/
theorem feed_frames (table : DecisionTable) {r : Recognizer} (hr : r.Sound) {t : Token}
    (ht : t.isNewline = false) (hline : r.ledger.line = t.line) :
    ∃ closing opened, r.closedBy table t = Ledger.measures closing ∧
      (r.feed table t).ledger.functions = r.ledger.functions ++ Ledger.measures closing ∧
      ((opened = [] ∧ r.opens table t = false) ∨ (∃ name params start,
        opened = [r.ledger.newFrame name params start]) ∧ r.opens table t = true ∧
          r.creditedTo table t = 0) ∧
      ((∀ c ∈ closing, t.line ≤ c.2) ∨ opened = [] ∧ r.creditedTo table t = closing.length) ∧
      closing.map (·.1.undecided) ++ (r.feed table t).ledger.frames.map (·.undecided) =
        (opened ++ r.ledger.frames.map (·.undecided)).modify (r.creditedTo table t)
          (·.credit t.line (lineBreaks t.text)) ∧
      (r.feed table t).ledger.codeLines = r.ledger.codeLines.insertRun t.line t.lineSpan := by
  obtain ⟨reach, k, m, hreads, hm, _⟩ := absorb_reads table hr ht
  obtain ⟨closing, opened, hfunctions, hopened, hreach, hrow, hlines⟩ := hreads.credited_row
  have hfeed : (r.feed table t).ledger = m.credit := by rw [feed_of_not_isNewline table r ht, hm]
  rw [← hfeed] at hfunctions hrow hlines
  have hclosed : r.closedBy table t = Ledger.measures closing := closedBy_eq table hfunctions
  have hplace : r.creditedTo table t = Ledger.creditPlace r.ledger.line (Ledger.measures closing) := by
    rw [creditedTo, hclosed, hline]
  rw [← hplace] at hopened hreach hrow
  rw [hline] at hreach hrow hlines
  refine ⟨closing, opened, hclosed, hfunctions, ?_, hreach, hrow, hlines⟩
  · -- the row is longer than before exactly if a function has opened
    have hlength := congrArg List.length hrow
    simp only [List.length_append, List.length_map, List.length_modify] at hlength
    have hdepth : r.opens table t = decide (0 < opened.length) := by
      simp only [opens, hclosed, Ledger.measures, List.length_map, Ledger.depth]
      rw [hlength]
      simp
    rcases hopened with rfl | ⟨⟨name, params, start, rfl⟩, hzero⟩
    · exact .inl ⟨rfl, hdepth⟩
    · exact .inr ⟨⟨name, params, start, rfl⟩, hdepth, hzero⟩

/-- A line break takes functions off the front of the row. -/
theorem feed_newline_frames (table : DecisionTable) {r : Recognizer}
    (hidle : r.ledger.pending = .idle) {t : Token} (ht : t.isNewline = true) :
    ∃ closing, r.closedBy table t = Ledger.measures closing ∧
      (r.feed table t).ledger.functions = r.ledger.functions ++ Ledger.measures closing ∧
      r.opens table t = false ∧
      closing.map (·.1.undecided) ++ (r.feed table t).ledger.frames.map (·.undecided) =
        r.ledger.frames.map (·.undecided) ∧
      (r.feed table t).ledger.codeLines = r.ledger.codeLines := by
  obtain ⟨k, hsettles, _⟩ := feed_newline_settles table r ht
  obtain ⟨closing, hfunctions, hrow, hlines⟩ := hsettles.idle_row hidle
  have hclosed : r.closedBy table t = Ledger.measures closing := closedBy_eq table hfunctions
  refine ⟨closing, hclosed, hfunctions, ?_, hrow, hlines⟩
  have hlength := congrArg List.length hrow
  simp only [List.length_append, List.length_map, Ledger.nextLine] at hlength
  simp only [opens, hclosed, Ledger.measures, List.length_map, Ledger.depth, decide_eq_false_iff_not]
  omega

end Recognizer

/-! ## Surveys -/

/-- The course of an open function: the place of the token that opened it, and the places of the tokens
that have been credited to it, newest first. -/
structure Course where
  opening : Nat
  credited : List Nat := []
deriving DecidableEq, Repr

/-- A course with one token more. -/
def Course.credit (c : Course) (place : Nat) : Course :=
  { c with credited := place :: c.credited }

/-- The extent of a function that has closed: its course and the place of the token that closed it. -/
structure Extent extends Course where
  closing : Nat
deriving DecidableEq, Repr

/-- The extent of a course that ends at a place. -/
def Course.until (c : Course) (place : Nat) : Extent :=
  { c with closing := place }

/-- A pass and the courses of its functions: of the open ones, innermost first, and of those that have
closed, in closing order. -/
structure Survey where
  pass : Recognizer
  place : Nat := 0
  running : List Course := []
  extents : List Extent := []

namespace Survey

open Recognizer

/-- The courses of the functions that a token closes and of those that are open after it. -/
def row (table : DecisionTable) (s : Survey) (t : Token) : List Course :=
  let row := if s.pass.opens table t then ⟨s.place, []⟩ :: s.running else s.running
  if t.isNewline then row else row.modify (s.pass.creditedTo table t) (·.credit s.place)

/-- Takes in a token. -/
def step (table : DecisionTable) (s : Survey) (t : Token) : Survey where
  pass := s.pass.feed table t
  place := s.place + 1
  running := (s.row table t).drop (s.pass.closedBy table t).length
  extents := s.extents ++
    ((s.row table t).take (s.pass.closedBy table t).length).map (·.until s.place)

/-- The survey of a pass over tokens of a language. -/
def of (language : Language) (tokens : List Token) : Survey :=
  tokens.foldl (step (.of language)) { pass := start language }

/-- All extents, if the input ends here. -/
def allExtents (s : Survey) : List Extent :=
  s.extents ++ s.running.map (·.until s.place)

@[simp] theorem of_nil (language : Language) : of language [] = { pass := start language } := rfl

theorem of_concat (language : Language) (ts : List Token) (t : Token) :
    of language (ts ++ [t]) = (of language ts).step (.of language) t := by
  simp [of]

/-- A survey follows the pass. -/
@[simp] theorem of_pass (language : Language) (ts : List Token) :
    (of language ts).pass = (start language).run (.of language) ts := by
  induction ts using List.reverseRecOn with
  | nil => rfl
  | append_singleton ts t ih => rw [of_concat, run_append, ← ih]; rfl

@[simp] theorem of_place (language : Language) (ts : List Token) :
    (of language ts).place = ts.length := by
  induction ts using List.reverseRecOn with
  | nil => rfl
  | append_singleton ts t ih =>
    rw [of_concat, List.length_append, ← ih]
    rfl

variable {table : DecisionTable} {s : Survey} {t : Token} {R R' : Frame → Course → Prop}
  {Q : FunctionMeasure → Extent → Prop}

/-- Functions and extents are related after a token if they were before and those that it closes are. -/
theorem forall₂_extents {closing : List (Frame × Int)} {courses : List Course}
    (hQ : List.Forall₂ Q s.pass.ledger.functions s.extents)
    (hclosing : List.Forall₂ R' (closing.map (·.1.undecided)) courses)
    (hclose : ∀ c ∈ closing, ∀ course, R' c.1.undecided course →
      Q (c.1.measure c.2) (course.until s.place)) :
    List.Forall₂ Q (s.pass.ledger.functions ++ Ledger.measures closing)
      (s.extents ++ courses.map (·.until s.place)) := by
  refine List.rel_append hQ ?_
  rw [List.forall₂_map_left_iff] at hclosing
  rw [Ledger.measures, List.forall₂_map_left_iff, List.forall₂_map_right_iff]
  exact ((List.forall₂_and_left (p := fun c => c ∈ closing) _ _).2
    ⟨fun c hc => hc, hclosing⟩).imp fun c course h => hclose c h.1 course h.2

/-- A relation between frames and courses that a token keeps: it holds of a function that opens, which has
the token, it holds after a credit, and it is kept where nothing is credited. A function that closes has
the token only if it reaches the token's line. -/
theorem step_token (hr : s.pass.Sound) (ht : t.isNewline = false)
    (hline : s.pass.ledger.line = t.line)
    (hR : List.Forall₂ R (s.pass.ledger.frames.map (·.undecided)) s.running)
    (hQ : List.Forall₂ Q s.pass.ledger.functions s.extents)
    (hopen : s.pass.opens table t = true → ∀ name params start,
      (s.pass.closedBy table t = [] →
        (s.pass.feed table t).ledger.frames.head?.map (·.undecided) =
          some ((s.pass.ledger.newFrame name params start).credit t.line (lineBreaks t.text))) →
      R' ((s.pass.ledger.newFrame name params start).credit t.line (lineBreaks t.text))
        ⟨s.place, [s.place]⟩)
    (hkeep : ∀ f c, R f c → R' f c)
    (hcredit : ∀ f c, R f c → R' (f.credit t.line (lineBreaks t.text)) (c.credit s.place))
    (hclose : ∀ (f : Frame) last c, f.measure last ∈ s.pass.closedBy table t →
      R f.undecided c ∨ (t.line ≤ last ∧ R' f.undecided c) → Q (f.measure last) (c.until s.place)) :
    List.Forall₂ R' ((s.step table t).pass.ledger.frames.map (·.undecided))
        (s.step table t).running ∧
      List.Forall₂ Q (s.step table t).pass.ledger.functions (s.step table t).extents := by
  obtain ⟨closing, opened, hclosed, hfunctions, hopened, hreach, hrow, _⟩ :=
    feed_frames table hr ht hline
  have hlength : (closing.map (·.1.undecided)).length = (s.pass.closedBy table t).length := by
    rw [hclosed, Ledger.measures, List.length_map, List.length_map]
  have hmem : ∀ c ∈ closing, c.1.measure c.2 ∈ s.pass.closedBy table t := by
    intro c hc
    rw [hclosed]
    exact List.mem_map_of_mem hc
  -- the courses change in the same place as the frames
  have hcourses : List.Forall₂ R' (closing.map (·.1.undecided) ++
      (s.pass.feed table t).ledger.frames.map (·.undecided)) (s.row table t) := by
    rw [hrow, Survey.row, if_neg (by simp [ht])]
    rcases hopened with ⟨rfl, hopens⟩ | ⟨⟨name, params, start, rfl⟩, hopens, hzero⟩
    · rw [hopens]
      exact forall₂_modify hR hkeep hcredit _
    · rw [hopens, hzero]
      refine .cons (hopen hopens name params start fun hnone => ?_) (hR.imp hkeep)
      -- where nothing closes, the new function is the first of those that are open
      have hnil : closing = [] := by simpa [hclosed, Ledger.measures] using hnone
      rw [hnil, List.map_nil, List.nil_append, hzero] at hrow
      rw [← List.head?_map, hrow]
      rfl
  have htake := List.forall₂_take (s.pass.closedBy table t).length hcourses
  have hdrop := List.forall₂_drop (s.pass.closedBy table t).length hcourses
  rw [List.take_left' hlength] at htake
  rw [List.drop_left' hlength] at hdrop
  refine ⟨hdrop, ?_⟩
  show List.Forall₂ Q (s.pass.feed table t).ledger.functions _
  rw [hfunctions]
  rcases hreach with hreach | ⟨rfl, hplace⟩
  · exact forall₂_extents hQ htake fun c hc course hcourse =>
      hclose c.1 c.2 course (hmem c hc) (.inr ⟨hreach c hc, hcourse⟩)
  · -- the change is beyond the functions that close
    obtain ⟨_, hopens⟩ | ⟨⟨name, params, start, hnil⟩, _⟩ := hopened
    · have hkept := List.forall₂_take closing.length hR
      have hframes : (s.pass.ledger.frames.map (·.undecided)).take closing.length =
          closing.map (·.1.undecided) := by
        rw [← take_modify_self (·.credit t.line (lineBreaks t.text)), ← hplace]
        rw [List.nil_append] at hrow
        rw [← hrow, hplace, List.take_left' (by simp)]
      have hrunning : s.running.take closing.length =
          (s.row table t).take (s.pass.closedBy table t).length := by
        rw [← hlength, List.length_map, Survey.row, if_neg (by simp [ht]), hopens, hplace]
        exact (take_modify_self _ _ _).symm
      rw [hframes, hrunning] at hkept
      exact forall₂_extents hQ hkept fun c hc course hcourse =>
        hclose c.1 c.2 course (hmem c hc) (.inl hcourse)
    · cases hnil

/-- A line break closes functions, and changes nothing else. -/
theorem step_newline (hidle : s.pass.ledger.pending = .idle) (ht : t.isNewline = true)
    (hR : List.Forall₂ R (s.pass.ledger.frames.map (·.undecided)) s.running)
    (hQ : List.Forall₂ Q s.pass.ledger.functions s.extents)
    (hclose : ∀ (f : Frame) last c, f.measure last ∈ s.pass.closedBy table t → R f.undecided c →
      Q (f.measure last) (c.until s.place)) :
    List.Forall₂ R ((s.step table t).pass.ledger.frames.map (·.undecided))
        (s.step table t).running ∧
      List.Forall₂ Q (s.step table t).pass.ledger.functions (s.step table t).extents := by
  obtain ⟨closing, hclosed, hfunctions, hopens, hrow, _⟩ := feed_newline_frames table hidle ht
  have hcourses : List.Forall₂ R (closing.map (·.1.undecided) ++
      (s.pass.feed table t).ledger.frames.map (·.undecided)) (s.row table t) := by
    rw [hrow, Survey.row, if_pos ht, hopens]
    exact hR
  have hlength : (closing.map (·.1.undecided)).length = (s.pass.closedBy table t).length := by
    rw [hclosed, Ledger.measures, List.length_map, List.length_map]
  have htake := List.forall₂_take (s.pass.closedBy table t).length hcourses
  have hdrop := List.forall₂_drop (s.pass.closedBy table t).length hcourses
  rw [List.take_left' hlength] at htake
  rw [List.drop_left' hlength] at hdrop
  refine ⟨hdrop, ?_⟩
  show List.Forall₂ Q (s.pass.feed table t).ledger.functions _
  rw [hfunctions]
  refine forall₂_extents hQ htake fun c hc course hcourse => hclose c.1 c.2 course ?_ hcourse
  rw [hclosed]
  exact List.mem_map_of_mem hc

/-- The end of the input closes all functions that are left. -/
theorem finish_rows (hr : s.pass.Sound) (hidle : s.pass.ledger.pending = .idle)
    (hsucc : s.pass.finish.2 = none) (hframes : s.pass.finish.1.ledger.frames = [])
    (hR : List.Forall₂ R (s.pass.ledger.frames.map (·.undecided)) s.running)
    (hQ : List.Forall₂ Q s.pass.ledger.functions s.extents)
    (hclose : ∀ (f : Frame) last c,
      f.measure last ∈ s.pass.finish.1.ledger.functions.drop s.pass.ledger.functions.length →
      R f.undecided c → Q (f.measure last) (c.until s.place)) :
    List.Forall₂ Q s.pass.finish.1.ledger.functions s.allExtents := by
  obtain ⟨reach, k, hsettles, _⟩ := finish_settles hr hsucc
  obtain ⟨closing, hfunctions, hrow, _⟩ := hsettles.idle_row hidle
  rw [hframes, List.map_nil, List.append_nil] at hrow
  rw [hfunctions]
  have hclosing : List.Forall₂ R (closing.map (·.1.undecided)) s.running := by
    rw [hrow]
    exact hR
  refine forall₂_extents hQ hclosing ?_
  intro c hc course hcourse
  apply hclose c.1 c.2 course _ hcourse
  rw [hfunctions, List.drop_left]
  exact List.mem_map_of_mem hc

end Survey

/-- The extents of the functions of a source text, in closing order. -/
def Analysis.extents (language : Language) (source : String) : List Extent :=
  (Survey.of language (sourceTokens language source)).allExtents

end Cyclomatic
