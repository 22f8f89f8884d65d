import Mathlib
import Cyclomatic.Proofs.Ledger.Moved

/-!
# Ledgers and an inserted line

If a line is put into a text after the line `last`, the lines after it move down by one (`lowered`). The
ledgers of the two texts then differ in their lines only (`lowering`). What a function that has closed says
of its place is left out (`FunctionMeasure.placeless`): a function that a line break closes ends on the
line where it is closed.
-/

namespace Cyclomatic

/-! ## Lines -/

/-- Where a line comes to lie when a line is put in after `last`. -/
def lowered (last line : Int) : Int :=
  if line ≤ last then line else line + 1

variable {last : Int}

/-- The lines up to `last` stay. -/
theorem lowered_of_le {line : Int} (h : line ≤ last) : lowered last line = line :=
  if_pos h

/-- The lines after `last` move down by one. -/
theorem lowered_of_lt {line : Int} (h : last < line) : lowered last line = line + 1 :=
  if_neg (by omega)

/-- Lines keep their order. -/
theorem lowered_le_lowered {a b : Int} : lowered last a ≤ lowered last b ↔ a ≤ b := by
  unfold lowered
  split <;> split <;> omega

/-! ## Functions -/

/-- The measures of a function without its place. -/
def FunctionMeasure.placeless (f : FunctionMeasure) : FunctionMeasure :=
  { f with startLine := 0, endLine := 0 }

/-- A function closes with the same measures, wherever it ends. -/
theorem Frame.measure_moved (move : Int ↪o Int) (f : Frame) (endLine endLine' : Int) :
    ((f.moved move).measure endLine').placeless = (f.measure endLine).placeless := by
  simp [Frame.measure, Frame.moved, FunctionMeasure.placeless, Frame.nloc]

/-! ## The inserted line -/

/-- A line more after `last`. -/
def lowering (last : Int) : Relocation where
  move :=
    { toFun := lowered last
      inj' := fun _ _ h => le_antisymm (lowered_le_lowered.1 h.le) (lowered_le_lowered.1 h.ge)
      map_rel_iff' := lowered_le_lowered }
  past_lt m hm := absurd hm (LineSet.not_mem_empty m)
  begins_next _ _ := trivial
  reports fs fs' := fs'.map (·.placeless) = fs.map (·.placeless)
  reports_concat fs fs' h f endLine := by
    simp only [List.map_append, List.map_singleton]
    rw [h, Frame.measure_moved]

instance (last : Int) : (lowering last).Unrestricted where
  begins _ := trivial

/-- Lines on one side of the inserted one move together. -/
theorem together_lowering {first : Int} {span : Nat} (h : last < first ∨ first + span ≤ last) :
    Together (lowering last).move first span := by
  intro i hi
  show lowered last (first + i) = lowered last first + i
  unfold lowered
  split <;> split <;> omega

namespace Ledger

variable {l l' : Ledger}

/-- Before any token there is nothing to lower. -/
theorem lowered_start {line : Int} (h : line ≤ last) : Moved (lowering last) { line } { line } :=
  ⟨(lowered_of_le h).symm, trivial, rfl, rfl, rfl, rfl, fun _ _ h => by cases h⟩

/-- There are as many code lines as before. -/
theorem Moved.size_codeLines (h : Moved (lowering last) l l') :
    l'.codeLines.size = l.codeLines.size := by
  rw [h.codeLines_eq, Relocation.codeLines, show (lowering last).past = .empty from rfl,
    LineSet.empty_after, LineSet.size_moved]

/-! ## One line more

Right after `last` the two ledgers are one ledger on two lines. -/

/-- Behind the line `last` one more line break is the inserted one. -/
theorem Moved.nextLine_nextLine (h : Moved (lowering last) l l) (hline : l.line = last) :
    Moved (lowering last) l.nextLine l.nextLine.nextLine := by
  refine ⟨?_, trivial, h.frames_eq, h.functions, h.codeLines_eq, h.pending_eq, h.together⟩
  exact (lowered_of_lt (by rw [← hline]; exact Int.lt_succ l.line)).symm

/-- Decisions do not see whether the inserted line has come. -/
theorem Moved.nextLine_recordDecisions (h : Moved (lowering last) l l.nextLine) (count : Int) :
    Moved (lowering last) (l.recordDecisions count) (l.recordDecisions count).nextLine := by
  rw [l.nextLine_recordDecisions]
  exact h.recordDecisions count

/-- A function that closes before the inserted line differs from one that closes behind it in its place only.
-/
theorem Moved.nextLine_closeFunction (h : Moved (lowering last) l l.nextLine) :
    Moved (lowering last) l.closeFunction l.closeFunction.nextLine := by
  cases hl : l.frames with
  | nil =>
    rw [closeFunction_of_frames_eq_nil hl]
    exact h
  | cons f fs =>
    have hframes : l.frames = l.frames.map (·.moved (lowering last).move) := h.frames_eq
    rw [hl, List.map_cons] at hframes
    have hrest := (List.cons.inj hframes).2
    unfold Ledger.closeFunction
    rw [hl]
    dsimp only
    cases hclaim : l.pending.claimedBy (max ((none : Option Int).getD l.line) f.startLine) with
    | none => exact ⟨h.line_eq, trivial, hrest, rfl, h.codeLines_eq, h.pending_eq, h.together⟩
    | some c =>
      obtain ⟨first, span⟩ := c
      have hpending := PendingToken.eq_announced_of_claimedBy hclaim
      -- the announced token lies before the new line
      have hfirst : l.pending = l.pending.moved (lowering last).move := h.pending_eq
      rw [hpending, PendingToken.moved] at hfirst
      have hlines := (lowering last).codeLines_insertRun (h.together first span hpending) l.codeLines
      rw [← h.codeLines_eq, ← (PendingToken.announced.inj hfirst).1] at hlines
      exact ⟨h.line_eq, trivial, hrest, rfl, hlines.symm, rfl, fun _ _ h => by cases h⟩

end Ledger

end Cyclomatic
