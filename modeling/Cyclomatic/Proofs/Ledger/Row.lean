import Mathlib
import Cyclomatic.Proofs.Ledger.Reading

/-!
# The row of functions that a reading passes

A reading closes functions from the innermost outwards. Those that it closes and those that stay open
stand in one row, and decisions aside the row is that of the functions that were open before
(`Ledger.Settles.row`): closing takes functions off its front, and the first that closes may claim the
announced token. The row keeps everything that a function has, its lines included.
-/

namespace Cyclomatic

/-- A frame without its decisions. -/
def Frame.undecided (f : Frame) : Frame :=
  { f with decisionCount := 0 }

@[simp] theorem Frame.undecided_credit (f : Frame) (first : Int) (span : Nat) :
    (f.credit first span).undecided = f.undecided.credit first span := rfl

namespace Ledger

variable {reach claims : Bool} {n : Nat} {l m : Ledger} {first : Int} {span : Nat}

/-! ## Opening and closing, in full -/

/-- The frame of a function that opens. -/
def newFrame (l : Ledger) (name : String) (params : Int) (start : Option Int) : Frame where
  name := if name.isEmpty then anonymous else name
  startLine := min (start.getD l.line) l.line
  parameterCount := params
  nestingDepth := l.depth
  codeLines := l.codeLines.within (min (start.getD l.line) l.line) l.line

@[simp] theorem openFunction_frames (l : Ledger) (name : String) (params : Int)
    (start : Option Int) :
    (l.openFunction name params start).frames = l.newFrame name params start :: l.frames := rfl

@[simp] theorem openFunction_codeLines (l : Ledger) (name : String) (params : Int)
    (start : Option Int) : (l.openFunction name params start).codeLines = l.codeLines := rfl

@[simp] theorem recordDecisions_codeLines (l : Ledger) (count : Int) :
    (l.recordDecisions count).codeLines = l.codeLines := by
  unfold recordDecisions
  split <;> rfl

@[simp] theorem map_undecided_recordDecisions (l : Ledger) (count : Int) :
    (l.recordDecisions count).frames.map (·.undecided) = l.frames.map (·.undecided) :=
  map_frames_recordDecisions l count _ fun _ _ => rfl

/-- Counting decisions has no part in the frames that open later. -/
@[simp] theorem newFrame_recordDecisions (l : Ledger) (count : Int) (name : String) (params : Int)
    (start : Option Int) :
    (l.recordDecisions count).newFrame name params start = l.newFrame name params start := by
  simp only [newFrame, recordDecisions_line, recordDecisions_depth, recordDecisions_codeLines]

/-- A function that does not claim the announced token closes as it is. -/
theorem closeFunction_of_not_claimed {f : Frame} {fs : List Frame} (h : l.frames = f :: fs)
    {endLine : Option Int}
    (hclaim : l.pending.claimedBy (max (endLine.getD l.line) f.startLine) = none) :
    (l.closeFunction endLine).functions =
        l.functions ++ [f.measure (max (endLine.getD l.line) f.startLine)] ∧
      (l.closeFunction endLine).pending = l.pending ∧
      (l.closeFunction endLine).codeLines = l.codeLines := by
  simp [closeFunction, h, hclaim, functions]

/-- A function that claims the announced token closes with it, and the token is settled. -/
theorem closeFunction_of_claimed {f : Frame} {fs : List Frame} (h : l.frames = f :: fs)
    {endLine : Option Int}
    (hclaim : l.pending.claimedBy (max (endLine.getD l.line) f.startLine) = some (first, span)) :
    (l.closeFunction endLine).functions =
        l.functions ++ [(f.credit first span).measure (max (endLine.getD l.line) f.startLine)] ∧
      (l.closeFunction endLine).pending = .settled ∧
      (l.closeFunction endLine).codeLines = l.codeLines.insertRun first (span + 1) := by
  simp [closeFunction, h, hclaim, functions]

/-- Closing moves functions from one stack to the other. -/
theorem Settles.length_functions_add_depth (h : Settles reach n l m) :
    m.functions.length + m.depth = l.functions.length + l.depth := by
  induction h with
  | refl => rfl
  | record count _ ih => rw [recordDecisions_functions, recordDecisions_depth, ih]
  | @close _ l m endLine _ _ ih =>
    cases hm : m.frames with
    | nil => rw [closeFunction_of_frames_eq_nil hm, ih]
    | cons f fs =>
      obtain ⟨g, hfunctions, _⟩ := closeFunction_of_frames_eq_cons hm endLine
      rw [← ih, hfunctions, closeFunction_depth, depth, hm, List.length_append]
      simp
      omega

/-! ## The row of a reading -/

/-- What a reading that opens no function does to the row. `claims` tells whether a function that closes
would claim the announced token, which begins on the line `first` and touches `span` lines more;
`closing` holds the functions that close, innermost first, with the lines on which they end. -/
structure PassesRow (reach claims : Bool) (first : Int) (span : Nat) (l m : Ledger)
    (closing : List (Frame × Int)) : Prop where
  functions_eq : m.functions = l.functions ++ closing.map fun c => c.1.measure c.2
  reaches : ∀ c ∈ closing, decide (l.line ≤ c.2) = reach
  pending_eq : m.pending = if claims && !closing.isEmpty then .settled else l.pending
  row_eq : closing.map (·.1.undecided) ++ m.frames.map (·.undecided) =
    if claims && !closing.isEmpty then (l.frames.map (·.undecided)).modify 0 (·.credit first span)
    else l.frames.map (·.undecided)
  codeLines_eq : m.codeLines =
    if claims && !closing.isEmpty then l.codeLines.insertRun first (span + 1) else l.codeLines

/-- Only the first function that closes can claim the announced token. -/
theorem PassesRow.claimedBy {closing : List (Frame × Int)}
    (h : PassesRow reach claims first span l m closing) {last : Int}
    (hclaims : l.pending.claimedBy last = if claims then some (first, span) else none) :
    m.pending.claimedBy last =
      if claims && closing.isEmpty then some (first, span) else none := by
  rw [h.pending_eq]
  cases claims with
  | false => simpa using hclaims
  | true =>
    cases closing with
    | nil => simpa using hclaims
    | cons c cs => rfl

/-- One more function closes. -/
theorem PassesRow.close {closing : List (Frame × Int)}
    (h : PassesRow reach claims first span l m closing) {f : Frame} {fs : List Frame}
    (hm : m.frames = f :: fs) {endLine : Option Int}
    (hreach : decide (l.line ≤ max (endLine.getD m.line) f.startLine) = reach)
    (hclaims : l.pending.claimedBy (max (endLine.getD m.line) f.startLine) =
      if claims then some (first, span) else none) :
    ∃ closing', PassesRow reach claims first span l (m.closeFunction endLine) closing' := by
  have hclaimed := h.claimedBy hclaims
  have hrow := h.row_eq
  have hpending := h.pending_eq
  have hlines := h.codeLines_eq
  have hreaches (g : Frame) : ∀ c ∈ closing ++ [(g, max (endLine.getD m.line) f.startLine)],
      decide (l.line ≤ c.2) = reach := by
    intro c hc
    rcases List.mem_append.1 hc with hc | hc
    · exact h.reaches c hc
    · rw [List.mem_singleton.1 hc]
      exact hreach
  rw [hm] at hrow
  cases hfirst : claims && closing.isEmpty with
  | false =>
    rw [hfirst] at hclaimed
    obtain ⟨hfunctions, hpending', hlines'⟩ := closeFunction_of_not_claimed hm hclaimed
    -- the token is nobody's among those that close, or the first of them has it already
    have hsame : (claims && !(closing ++ [(f, max (endLine.getD m.line) f.startLine)]).isEmpty) =
        (claims && !closing.isEmpty) := by
      cases claims <;> cases closing <;> simp_all
    refine ⟨closing ++ [(f, max (endLine.getD m.line) f.startLine)], ?_, hreaches f, ?_, ?_, ?_⟩
    · rw [hfunctions, h.functions_eq, List.map_append, List.append_assoc]
      rfl
    · rw [hpending', hsame, hpending]
    · rw [closeFunction_frames, hm, hsame, ← hrow]
      simp
    · rw [hlines', hsame, hlines]
  | true =>
    rw [hfirst, if_pos rfl] at hclaimed
    obtain ⟨rfl, hnil⟩ := Bool.and_eq_true_iff.1 hfirst
    obtain rfl := List.isEmpty_iff.1 hnil
    obtain ⟨hfunctions, hpending', hlines'⟩ := closeFunction_of_claimed hm hclaimed
    simp only [List.isEmpty_nil, Bool.not_true, Bool.and_false, Bool.false_eq_true, if_false,
      List.map_nil, List.nil_append] at hrow hlines
    have hfunctions' := h.functions_eq
    rw [List.map_nil, List.append_nil] at hfunctions'
    refine ⟨[(f.credit first span, max (endLine.getD m.line) f.startLine)], ?_, hreaches _, ?_, ?_, ?_⟩
    · rw [hfunctions, hfunctions']
      rfl
    · simpa using hpending'
    · rw [closeFunction_frames, hm, ← hrow]
      simp
    · simpa [hlines] using hlines'

/-- A reading that opens no function takes functions off the front of the row. -/
theorem Settles.row (h : Settles reach n l m)
    (hclaims : ∀ last, decide (l.line ≤ last) = reach →
      l.pending.claimedBy last = if claims then some (first, span) else none) :
    ∃ closing, PassesRow reach claims first span l m closing := by
  -- the reading grows at its end: the functions that have closed so far are the first of the row
  induction h with
  | refl =>
    exact ⟨[], by simp, by simp, by simp, by simp, by simp⟩
  | record count _ ih =>
    obtain ⟨closing, hrow⟩ := ih hclaims
    refine ⟨closing, ?_, hrow.reaches, ?_, ?_, ?_⟩
    · rw [recordDecisions_functions, hrow.functions_eq]
    · rw [recordDecisions_pending, hrow.pending_eq]
    · rw [map_undecided_recordDecisions, hrow.row_eq]
    · rw [recordDecisions_codeLines, hrow.codeLines_eq]
  | @close _ l m endLine h hreach ih =>
    obtain ⟨closing, hrow⟩ := ih hclaims
    cases hm : m.frames with
    | nil =>
      rw [closeFunction_of_frames_eq_nil hm]
      exact ⟨closing, hrow⟩
    | cons f fs =>
      have hf := hreach f (by rw [hm]; rfl)
      rw [h.line_eq] at hf
      refine hrow.close hm ?_ ?_
      · rw [h.line_eq]
        exact hf
      · rw [h.line_eq]
        exact hclaims _ hf

end Ledger

end Cyclomatic
