import Mathlib
import Cyclomatic.Ledger
import Cyclomatic.Token

/-!
# What a reading does to a ledger

Between the announcement of a token and its credit a recognizer does three things to a ledger: it
counts decisions, opens a function and closes functions. `Ledger.Settles` is a reading that opens no
function, and `Ledger.Reads` one that opens at most one, before it closes any. Both carry the number
of decisions that were counted.

The facts about readings in general are that the line stays where it is, that the books balance (what
the closed functions, the open functions and nobody hold together grows by the decisions that were
counted, `Reads.bookedDecisions_eq`), that no count becomes negative (`Reads.tallied`), and that
functions that have closed stay as they are (`Reads.functions_isPrefix`).
-/

namespace Cyclomatic

namespace Ledger

/-! ## The books of a ledger -/

/-- The decisions of the functions that have closed. -/
def closedDecisions (l : Ledger) : Int :=
  (l.functions.map fun f => f.ccn - 1).sum

/-- The decisions of the functions that are open. -/
def openDecisions (l : Ledger) : Int :=
  (l.frames.map (·.decisionCount)).sum

/-- All decisions that were ever counted: those of closed functions, of open functions and of no
function. -/
def bookedDecisions (l : Ledger) : Int :=
  l.closedDecisions + l.openDecisions + l.strayDecisions

/-! ## Moving to a line -/

/-- The line is looked at before it is changed. -/
theorem run_setLine (l : Ledger) (target : Int) : (setLine target).run l =
    if target < l.line then .error (.lineMovedBack l.line target) l
    else .ok () { l with line := target } := by
  by_cases hback : target < l.line
  · simp [setLine, hback]
  · simp [setLine, hback]

/-- A ledger can always move to the next line. -/
theorem moveTo_next (l : Ledger) : l.moveTo (l.line + 1) = .ok l.nextLine := by
  rw [moveTo, enter, perform, run_setLine, if_neg (by omega)]
  rfl

/-! ## Counting decisions -/

@[simp] theorem recordDecisions_line (l : Ledger) (count : Int) :
    (l.recordDecisions count).line = l.line := by
  unfold recordDecisions
  split <;> rfl

@[simp] theorem recordDecisions_closed (l : Ledger) (count : Int) :
    (l.recordDecisions count).closed = l.closed := by
  unfold recordDecisions
  split <;> rfl

@[simp] theorem recordDecisions_pending (l : Ledger) (count : Int) :
    (l.recordDecisions count).pending = l.pending := by
  unfold recordDecisions
  split <;> rfl

@[simp] theorem recordDecisions_functions (l : Ledger) (count : Int) :
    (l.recordDecisions count).functions = l.functions := by
  rw [functions, recordDecisions_closed, functions]

/-- Counting decisions changes nothing in the open functions but the decisions of the innermost. -/
theorem map_frames_recordDecisions {α : Type} (l : Ledger) (count : Int) (view : Frame → α)
    (hview : ∀ (f : Frame) (n : Int), view { f with decisionCount := n } = view f) :
    (l.recordDecisions count).frames.map view = l.frames.map view := by
  unfold recordDecisions
  cases hl : l.frames with
  | nil => simp
  | cons f fs => simp [hview]

@[simp] theorem recordDecisions_depth (l : Ledger) (count : Int) :
    (l.recordDecisions count).depth = l.depth := by
  unfold recordDecisions depth
  cases hl : l.frames with
  | nil => simp
  | cons f fs => simp

/-- Counting nothing changes nothing. -/
@[simp] theorem recordDecisions_zero (l : Ledger) : l.recordDecisions 0 = l := by
  obtain ⟨line, frames, closed, codeLines, pending, stray⟩ := l
  cases frames <;> simp [recordDecisions]

/-- The decisions of a line are counted alike on the next one. -/
theorem nextLine_recordDecisions (l : Ledger) (count : Int) :
    (l.recordDecisions count).nextLine = l.nextLine.recordDecisions count := by
  unfold Ledger.recordDecisions Ledger.nextLine
  cases l.frames <;> rfl

/-- Decisions may be counted at once or one after the other. -/
theorem recordDecisions_add (l : Ledger) (a b : Int) :
    (l.recordDecisions a).recordDecisions b = l.recordDecisions (a + b) := by
  obtain ⟨line, frames, closed, codeLines, pending, stray⟩ := l
  cases frames <;> simp [recordDecisions, add_assoc]

/-- The books grow by the decisions that are counted. -/
theorem bookedDecisions_recordDecisions (l : Ledger) (count : Int) :
    (l.recordDecisions count).bookedDecisions = l.bookedDecisions + count := by
  unfold bookedDecisions closedDecisions openDecisions
  rw [recordDecisions_functions]
  unfold recordDecisions
  cases hl : l.frames with
  | nil => simp; omega
  | cons f fs => simp; omega

/-! ## Opening and closing a function -/

@[simp] theorem openFunction_line (l : Ledger) (name : String) (params : Int)
    (start : Option Int) : (l.openFunction name params start).line = l.line := rfl

@[simp] theorem openFunction_functions (l : Ledger) (name : String) (params : Int)
    (start : Option Int) : (l.openFunction name params start).functions = l.functions := rfl

@[simp] theorem openFunction_pending (l : Ledger) (name : String) (params : Int)
    (start : Option Int) : (l.openFunction name params start).pending = l.pending := rfl

@[simp] theorem openFunction_depth (l : Ledger) (name : String) (params : Int)
    (start : Option Int) : (l.openFunction name params start).depth = l.depth + 1 := rfl

/-- A function that opens has no decisions yet. -/
@[simp] theorem bookedDecisions_openFunction (l : Ledger) (name : String) (params : Int)
    (start : Option Int) :
    (l.openFunction name params start).bookedDecisions = l.bookedDecisions := by
  simp [bookedDecisions, closedDecisions, openDecisions, openFunction, functions]

@[simp] theorem closeFunction_line (l : Ledger) (endLine : Option Int) :
    (l.closeFunction endLine).line = l.line := by
  unfold closeFunction
  split
  · rfl
  · dsimp only
    split <;> rfl

@[simp] theorem closeFunction_strayDecisions (l : Ledger) (endLine : Option Int) :
    (l.closeFunction endLine).strayDecisions = l.strayDecisions := by
  unfold closeFunction
  split
  · rfl
  · dsimp only
    split <;> rfl

@[simp] theorem closeFunction_frames (l : Ledger) (endLine : Option Int) :
    (l.closeFunction endLine).frames = l.frames.tail := by
  unfold closeFunction
  split
  · rename_i h
    rw [h]
    rfl
  · rename_i h
    rw [h]
    dsimp only
    split <;> rfl

@[simp] theorem closeFunction_depth (l : Ledger) (endLine : Option Int) :
    (l.closeFunction endLine).depth = l.depth - 1 := by
  rw [depth, closeFunction_frames, List.length_tail, depth]

/-- A ledger without open functions has nothing to close. -/
theorem closeFunction_of_frames_eq_nil {l : Ledger} (h : l.frames = []) (endLine : Option Int) :
    l.closeFunction endLine = l := by
  simp [closeFunction, h]

/-- The innermost function closes after those that have closed, with its decisions and its tokens. The
announced token is one of them if the function reaches its line, and then it is settled. -/
theorem closeFunction_of_frames_eq_cons {l : Ledger} {f : Frame} {fs : List Frame}
    (h : l.frames = f :: fs) (endLine : Option Int) :
    ∃ g : FunctionMeasure, (l.closeFunction endLine).functions = l.functions ++ [g] ∧
      g.name = f.name ∧ g.startLine = f.startLine ∧
      g.endLine = max (endLine.getD l.line) f.startLine ∧ g.ccn = 1 + f.decisionCount ∧
      g.tokenCount = f.tokenCount + (l.pending.claimedBy g.endLine).isSome.toNat ∧
      (l.closeFunction endLine).pending =
        if (l.pending.claimedBy g.endLine).isSome then .settled else l.pending := by
  unfold closeFunction
  rw [h]
  dsimp only
  cases hclaim : l.pending.claimedBy (max (endLine.getD l.line) f.startLine) with
  | none =>
    refine ⟨f.measure (max (endLine.getD l.line) f.startLine), by simp [functions], rfl, rfl, rfl, rfl,
      ?_, ?_⟩
    · simp [Frame.measure, hclaim]
    · simp [Frame.measure, hclaim]
  | some lines =>
    obtain ⟨first, span⟩ := lines
    refine ⟨(f.credit first span).measure (max (endLine.getD l.line) f.startLine),
      by simp [functions], rfl, rfl, rfl, rfl, ?_, ?_⟩
    · simp [Frame.measure, Frame.credit, hclaim]
    · simp [Frame.measure, hclaim]

/-- A ledger without open functions stays as it is when all functions close. -/
theorem closeAll_of_frames_eq_nil {l : Ledger} (h : l.frames = []) : l.closeAll = l := by
  simp [closeAll, h]

/-- A function takes its decisions with it when it closes. -/
@[simp] theorem bookedDecisions_closeFunction (l : Ledger) (endLine : Option Int) :
    (l.closeFunction endLine).bookedDecisions = l.bookedDecisions := by
  cases hl : l.frames with
  | nil => rw [closeFunction_of_frames_eq_nil hl]
  | cons f fs =>
    obtain ⟨g, hfunctions, _, _, _, hccn, _⟩ := closeFunction_of_frames_eq_cons hl endLine
    unfold bookedDecisions closedDecisions openDecisions
    rw [closeFunction_frames, closeFunction_strayDecisions, hfunctions, hl]
    simp [hccn]
    omega

/-! ## Announcing and crediting a token -/

/-- A token touches as many lines after its first as it has line breaks. -/
theorem extraLines_lineSpan (t : Token) : extraLines t.lineSpan = lineBreaks t.text := by
  simp [extraLines, Token.lineSpan]

@[simp] theorem announce_line (l : Ledger) (lineSpan : Int) : (l.announce lineSpan).line = l.line :=
  rfl

@[simp] theorem credit_line (l : Ledger) (lineSpan : Int) : (l.credit lineSpan).line = l.line := by
  unfold credit
  dsimp only
  split <;> rfl

@[simp] theorem credit_functions (l : Ledger) (lineSpan : Int) :
    (l.credit lineSpan).functions = l.functions := by
  unfold credit
  dsimp only
  split <;> rfl

@[simp] theorem credit_strayDecisions (l : Ledger) (lineSpan : Int) :
    (l.credit lineSpan).strayDecisions = l.strayDecisions := by
  unfold credit
  dsimp only
  split <;> rfl

/-- A credit changes nothing in the open functions but tokens and lines of the innermost. -/
theorem map_frames_credit {α : Type} (l : Ledger) (lineSpan : Int) (view : Frame → α)
    (hview : ∀ (f : Frame) (first : Int) (span : Nat), view (f.credit first span) = view f) :
    (l.credit lineSpan).frames.map view = l.frames.map view := by
  have hinnermost (m : Ledger) (first : Int) (span : Nat) :
      (m.creditInnermost first span).frames.map view = m.frames.map view := by
    unfold creditInnermost
    cases hm : m.frames with
    | nil => simp
    | cons f fs => simp [hview]
  unfold credit
  dsimp only
  split
  · exact hinnermost _ _ _
  · exact hinnermost _ _ _
  · rfl

@[simp] theorem credit_depth (l : Ledger) (lineSpan : Int) :
    (l.credit lineSpan).depth = l.depth := by
  have hmap := congrArg List.length (map_frames_credit l lineSpan (fun _ => ()) fun _ _ _ => rfl)
  simpa [depth] using hmap

/-- A credit is no decision. -/
@[simp] theorem bookedDecisions_credit (l : Ledger) (lineSpan : Int) :
    (l.credit lineSpan).bookedDecisions = l.bookedDecisions := by
  unfold bookedDecisions closedDecisions openDecisions
  rw [credit_functions, credit_strayDecisions, map_frames_credit l lineSpan _ fun _ _ _ => rfl]

/-! ## Readings -/

/-- `Settles reach n l m`: from `l` to `m` decisions are counted, `n` in all, and functions close, but
none opens. A function that closes ends before the current line if `reach` is false, and not before it
if `reach` is true. -/
inductive Settles (reach : Bool) : Nat → Ledger → Ledger → Prop
  | refl (l : Ledger) : Settles reach 0 l l
  | record {n : Nat} {l m : Ledger} (count : Nat) (h : Settles reach n l m) :
      Settles reach (n + count) l (m.recordDecisions count)
  | close {n : Nat} {l m : Ledger} (endLine : Option Int) (h : Settles reach n l m)
      (hreach : ∀ f ∈ m.frames.head?,
        decide (m.line ≤ max (endLine.getD m.line) f.startLine) = reach) :
      Settles reach n l (m.closeFunction endLine)

/-- `Reads reach n l m`: from `l` to `m` a token is read, which counts `n` decisions in all. If it opens
a function, it does so before it closes any, and then what it closes does not end before the current
line. -/
inductive Reads : Bool → Nat → Ledger → Ledger → Prop
  | settles {reach : Bool} {n : Nat} {l m : Ledger} (h : Settles reach n l m) : Reads reach n l m
  | opens {before after : Nat} {l m : Ledger} (name : String) (params : Int) (start : Option Int)
      (h : Settles true after ((l.recordDecisions before).openFunction name params start) m) :
      Reads true (before + after) l m

variable {reach : Bool} {n k : Nat} {l m p : Ledger}

/-- Counting decisions is a reading. -/
theorem settles_recordDecisions (reach : Bool) (l : Ledger) (count : Nat) :
    Settles reach count l (l.recordDecisions count) := by
  simpa using (@Settles.refl reach l).record count

/-- Readings without a new function follow each other. -/
theorem Settles.trans (h : Settles reach n l m) (h' : Settles reach k m p) :
    Settles reach (n + k) l p := by
  induction h' with
  | refl => exact h
  | record count _ ih => rw [← Nat.add_assoc]; exact (ih h).record count
  | close endLine _ hreach ih => exact (ih h).close endLine hreach

/-- A reading may be followed by one without a new function. -/
theorem Reads.trans_settles (h : Reads reach n l m) (h' : Settles reach k m p) :
    Reads reach (n + k) l p := by
  cases h with
  | settles h => exact .settles (h.trans h')
  | opens name params start h =>
    rw [Nat.add_assoc]
    exact .opens name params start (h.trans h')

/-- The line does not move while functions close. -/
theorem Settles.line_eq (h : Settles reach n l m) : m.line = l.line := by
  induction h with
  | refl => rfl
  | record count _ ih => rw [recordDecisions_line, ih]
  | close endLine _ _ ih => rw [closeFunction_line, ih]

/-- The line does not move while a token is read. -/
theorem Reads.line_eq (h : Reads reach n l m) : m.line = l.line := by
  cases h with
  | settles h => exact h.line_eq
  | opens name params start h => rw [h.line_eq, openFunction_line, recordDecisions_line]

/-- What holds of a view of all open functions holds wherever the view is the same. -/
theorem forall_frames_of_map_eq {α : Type} {view : Frame → α} {P : α → Prop}
    (hmap : m.frames.map view = l.frames.map view) (h : ∀ f ∈ l.frames, P (view f)) :
    ∀ f ∈ m.frames, P (view f) := by
  intro f hf
  have hmem : view f ∈ l.frames.map view := by
    rw [← hmap]
    exact List.mem_map_of_mem hf
  obtain ⟨g, hg, hview⟩ := List.mem_map.1 hmem
  rw [← hview]
  exact h g hg

/-- Every open function began on the current line or before it. -/
def Started (l : Ledger) : Prop :=
  ∀ f ∈ l.frames, f.startLine ≤ l.line

/-- Counting decisions does not move the first line of a function. -/
theorem startLine_le_recordDecisions {bound : Int} (h : ∀ f ∈ l.frames, f.startLine ≤ bound)
    (count : Int) : ∀ f ∈ (l.recordDecisions count).frames, f.startLine ≤ bound :=
  forall_frames_of_map_eq (P := fun first => first ≤ bound)
    (map_frames_recordDecisions l count _ fun _ _ => rfl) h

theorem Started.recordDecisions (h : l.Started) (count : Int) :
    (l.recordDecisions count).Started := by
  rw [Started, recordDecisions_line]
  exact startLine_le_recordDecisions h count

theorem Started.openFunction (h : l.Started) (name : String) (params : Int)
    (start : Option Int) : (l.openFunction name params start).Started := by
  intro f hf
  rcases List.mem_cons.1 hf with rfl | hf
  · exact min_le_right _ _
  · exact h f hf

/-- Functions that have begun remain so while no function opens. -/
theorem Settles.started (h : Settles reach n l m) (hl : l.Started) : m.Started := by
  induction h with
  | refl => exact hl
  | record count _ ih => exact (ih hl).recordDecisions count
  | close endLine _ _ ih =>
    -- the functions that are left were open before
    intro f hf
    rw [closeFunction_frames] at hf
    rw [closeFunction_line]
    exact ih hl f (List.mem_of_mem_tail hf)

/-- No reading opens a function that begins later. -/
theorem Reads.started (h : Reads reach n l m) (hl : l.Started) : m.Started := by
  cases h with
  | settles h => exact h.started hl
  | opens name params start h =>
    exact h.started ((hl.recordDecisions _).openFunction name params start)

/-- The books balance while functions close. -/
theorem Settles.bookedDecisions_eq (h : Settles reach n l m) :
    m.bookedDecisions = l.bookedDecisions + n := by
  induction h with
  | refl => simp
  | record count _ ih =>
    rw [bookedDecisions_recordDecisions, ih]
    push_cast
    ring
  | close endLine _ _ ih => rw [bookedDecisions_closeFunction, ih]

/-- The books balance over a reading. -/
theorem Reads.bookedDecisions_eq (h : Reads reach n l m) :
    m.bookedDecisions = l.bookedDecisions + n := by
  cases h with
  | settles h => exact h.bookedDecisions_eq
  | opens name params start h =>
    rw [h.bookedDecisions_eq, bookedDecisions_openFunction, bookedDecisions_recordDecisions]
    push_cast
    ring

/-- No count of decisions is negative. -/
structure Tallied (l : Ledger) : Prop where
  frames : ∀ f ∈ l.frames, 0 ≤ f.decisionCount
  functions : ∀ f ∈ l.functions, 1 ≤ f.ccn
  stray : 0 ≤ l.strayDecisions

theorem Tallied.recordDecisions (h : l.Tallied) (count : Nat) : (l.recordDecisions count).Tallied := by
  obtain ⟨line, frames, closed, codeLines, pending, stray⟩ := l
  cases frames with
  | nil => exact ⟨h.frames, h.functions, add_nonneg h.stray (Int.natCast_nonneg count)⟩
  | cons f fs =>
    refine ⟨?_, h.functions, h.stray⟩
    intro g hg
    rcases List.mem_cons.1 hg with rfl | hg
    · exact add_nonneg (h.frames f List.mem_cons_self) (Int.natCast_nonneg count)
    · exact h.frames g (List.mem_cons_of_mem f hg)

theorem Tallied.openFunction (h : l.Tallied) (name : String) (params : Int) (start : Option Int) :
    (l.openFunction name params start).Tallied := by
  refine ⟨?_, h.functions, h.stray⟩
  intro f hf
  rcases List.mem_cons.1 hf with rfl | hf
  · exact le_rfl
  · exact h.frames f hf

/-- A credit changes no count of decisions. -/
theorem Tallied.credit (h : l.Tallied) (lineSpan : Int) : (l.credit lineSpan).Tallied := by
  have hmap : (l.credit lineSpan).frames.map (·.decisionCount) = l.frames.map (·.decisionCount) :=
    map_frames_credit l lineSpan _ fun _ _ _ => rfl
  refine ⟨forall_frames_of_map_eq (P := fun count => 0 ≤ count) hmap h.frames, ?_, ?_⟩
  · rw [credit_functions]
    exact h.functions
  · rw [credit_strayDecisions]
    exact h.stray

/-- A function that closes reports the decisions it has. -/
theorem Tallied.closeFunction (h : l.Tallied) (endLine : Option Int) :
    (l.closeFunction endLine).Tallied := by
  cases hl : l.frames with
  | nil =>
    rw [closeFunction_of_frames_eq_nil hl]
    exact h
  | cons f fs =>
    obtain ⟨g, hfunctions, _, _, _, hccn, _⟩ := closeFunction_of_frames_eq_cons hl endLine
    have hf : 0 ≤ f.decisionCount := h.frames f (by rw [hl]; exact List.mem_cons_self)
    refine ⟨?_, ?_, by rw [closeFunction_strayDecisions]; exact h.stray⟩
    · rw [closeFunction_frames]
      exact fun g hg => h.frames g (List.mem_of_mem_tail hg)
    · rw [hfunctions]
      intro k hk
      rw [List.mem_append, List.mem_singleton] at hk
      rcases hk with hk | rfl
      · exact h.functions k hk
      · omega

/-- No count becomes negative while no function opens. -/
theorem Settles.tallied (h : Settles reach n l m) (hl : l.Tallied) : m.Tallied := by
  induction h with
  | refl => exact hl
  | record count _ ih => exact (ih hl).recordDecisions count
  | close endLine _ _ ih => exact (ih hl).closeFunction endLine

/-- No reading takes a decision back. -/
theorem Reads.tallied (h : Reads reach n l m) (hl : l.Tallied) : m.Tallied := by
  cases h with
  | settles h => exact h.tallied hl
  | opens name params start h =>
    exact h.tallied ((hl.recordDecisions _).openFunction name params start)

/-! ## Closed functions stay -/

theorem functions_isPrefix_closeFunction (l : Ledger) (endLine : Option Int) :
    l.functions <+: (l.closeFunction endLine).functions := by
  cases hl : l.frames with
  | nil => rw [closeFunction_of_frames_eq_nil hl]
  | cons f fs =>
    obtain ⟨g, hfunctions, _⟩ := closeFunction_of_frames_eq_cons hl endLine
    rw [hfunctions]
    exact List.prefix_append _ _

/-- Functions that have closed stay as they are while no function opens. -/
theorem Settles.functions_isPrefix (h : Settles reach n l m) : l.functions <+: m.functions := by
  induction h with
  | refl => exact List.prefix_rfl
  | record count _ ih =>
    rw [recordDecisions_functions]
    exact ih
  | close endLine _ _ ih => exact ih.trans (functions_isPrefix_closeFunction _ endLine)

/-- A reading changes no function that has closed. -/
theorem Reads.functions_isPrefix (h : Reads reach n l m) : l.functions <+: m.functions := by
  cases h with
  | settles h => exact h.functions_isPrefix
  | opens name params start h => simpa using h.functions_isPrefix

end Ledger

end Cyclomatic
