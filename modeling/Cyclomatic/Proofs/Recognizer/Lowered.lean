import Mathlib
import Cyclomatic.Proofs.Braces
import Cyclomatic.Proofs.Ledger.Lowered
import Cyclomatic.Proofs.Recognizer.ScriptMoved

/-!
# A second line break

Between an arrow and its body a line break means nothing, and elsewhere a second one ends nothing that the
first has not ended (`Go.readNewline_readNewline`, `Script.readNewline_readNewline`,
`Indent.readNewline_readNewline`). So where a text has a blank line more, the states of the two passes
differ in the inserted line only.
-/

namespace Cyclomatic

variable {last : Int}

/-! ## Braces -/

namespace Braces

variable {b : Braces}

/-- The braces on the next line. -/
def nextLine (b : Braces) : Braces :=
  { b with ledger := b.ledger.nextLine }

/-- Expressions close alike a line further down. -/
theorem Moved.nextLine_closeExpressions (h : Moved (lowering last) b b.nextLine) (brackets : Nat) :
    Moved (lowering last) (b.closeExpressions brackets) (b.closeExpressions brackets).nextLine := by
  have hfold (bodies : List Body) {b : Braces} (h : Moved (lowering last) b b.nextLine) :
      Moved (lowering last) (bodies.foldl (fun b _ => b.closeBody) b)
        (bodies.foldl (fun b _ => b.closeBody) b).nextLine := by
    induction bodies generalizing b with
    | nil => exact h
    | cons body bodies ih => exact ih ⟨rfl, rfl, h.ledger.nextLine_closeFunction⟩
  exact hfold _ h

/-- Closing expressions leaves none to close. -/
theorem closeExpressions_closeExpressions (b : Braces) (brackets : Nat) (f : Ledger → Ledger) :
    ({ b.closeExpressions brackets with ledger := f (b.closeExpressions brackets).ledger } :
        Braces).closeExpressions brackets =
      { b.closeExpressions brackets with ledger := f (b.closeExpressions brackets).ledger } := by
  have hdepth : (b.closeExpressions brackets).depth = b.depth := closeWhile_depth b _
  have hbodies : (b.closeExpressions brackets).bodies = b.bodies.dropWhile _ := closeWhile_bodies b _
  conv_lhs => rw [closeExpressions, closeWhile]
  dsimp only
  rw [hdepth, hbodies, List.takeWhile_eq_nil_iff.2]
  · rfl
  · intro hpos
    exact List.dropWhile_get_zero_not _ _ hpos

end Braces

namespace Recognizer

/-! ## Go -/

namespace Go

variable {s : Go}

/-- A second line break finds no signature to end. -/
theorem readNewline_readNewline (s : Go) (f : Ledger → Ledger) :
    ((s.readNewline false).mapLedger f).readNewline false = (s.readNewline false).mapLedger f := by
  have hends : (s.readNewline false).endsAtNewline = false := by
    unfold Go.readNewline
    split
    · rfl
    · rename_i hnot
      simpa using hnot
  have hmap : ((s.readNewline false).mapLedger f).endsAtNewline = false := hends
  rw [Go.readNewline, hmap]
  rfl

/-- A line break is read alike a line further down. -/
theorem Moved.nextLine_readNewline (h : Moved (lowering last) s (s.mapLedger Ledger.nextLine)) :
    Moved (lowering last) (s.readNewline false) ((s.readNewline false).mapLedger Ledger.nextLine) := by
  unfold Go.readNewline
  split
  · exact ⟨rfl, fun h => absurd rfl h, h.braces⟩
  · exact h

end Go

/-! ## TypeScript and JavaScript -/

namespace Script

variable {s : Script}

/-- The end of a line finds nothing to end a second time. -/
theorem endLine_endLine (s : Script) (f : Ledger → Ledger) :
    (s.endLine.mapLedger f).endLine = s.endLine.mapLedger f := by
  by_cases hgroups : s.groups.isEmpty
  · have hline : s.endLine = { s with nameLocked := false }.closeExpressions 0 := if_pos hgroups
    rw [hline]
    refine (if_pos hgroups).trans ?_
    exact congrArg (fun braces => { s with nameLocked := false, braces })
      (s.braces.closeExpressions_closeExpressions 0 f)
  · have hline : s.endLine = s := if_neg hgroups
    rw [hline]
    exact if_neg hgroups

/-- The end of a line leaves the phase alone. -/
theorem endLine_phase (s : Script) : s.endLine.phase = s.phase := by
  unfold endLine
  split <;> rfl

/-- Decisions leave the phase alone. -/
theorem record_phase (s : Script) (count : Nat) : (s.record count).phase = s.phase := by
  unfold record
  split
  · split <;> rfl
  · rfl

/-- Whether a line break in this phase is nothing but the end of a line. -/
def EndsLineOnly (phase : ScriptPhase) : Prop :=
  (∀ f, phase ≠ .arrowBody f) ∧ ∀ g n, phase ≠ .returnType g 0 (n + 1)

theorem endsLineOnly_statement : EndsLineOnly .statement := by
  constructor
  · intro f h
    cases h
  · intro g n h
    cases h

/-- In such a phase a line break is the end of a line. -/
theorem readNewline_of_endsLineOnly (hs : EndsLineOnly s.phase) : s.readNewline false = s.endLine := by
  unfold readNewline
  rw [if_neg Bool.false_ne_true]
  split
  · exact absurd ‹_› (hs.1 _)
  · exact absurd ‹_› (hs.2 _ _)
  · rfl

/-- A line break means nothing after an arrow and is the end of a line elsewhere. -/
theorem readNewline_cases (s : Script) :
    (s.readNewline false = s ∧ ∃ f, s.phase = .arrowBody f) ∨
      ∃ x : Script, EndsLineOnly x.phase ∧ s.readNewline false = x.endLine := by
  unfold readNewline
  rw [if_neg Bool.false_ne_true]
  split
  · exact .inl ⟨rfl, _, ‹_›⟩
  · rename_i g tokens _
    refine .inr ⟨{ s with phase := .statement }.release g, ?_, rfl⟩
    rw [release, record_phase]
    exact endsLineOnly_statement
  · rename_i harrow htype
    exact .inr ⟨s, ⟨harrow, htype⟩, rfl⟩

/-- A second line break ends nothing. -/
theorem readNewline_readNewline (s : Script) (f : Ledger → Ledger) :
    ((s.readNewline false).mapLedger f).readNewline false = (s.readNewline false).mapLedger f := by
  obtain ⟨hsame, signature, hphase⟩ | ⟨x, hx, hline⟩ := s.readNewline_cases
  · have hmapped : (s.mapLedger f).phase = .arrowBody signature := hphase
    rw [hsame, readNewline, hmapped]
    rfl
  · have hphase : EndsLineOnly (x.endLine.mapLedger f).phase := x.endLine_phase.symm ▸ hx
    rw [hline, readNewline_of_endsLineOnly hphase, endLine_endLine]

/-- The decisions of a line are counted alike on the next one. -/
theorem record_nextLine (s : Script) (count : Nat) :
    (s.record count).mapLedger Ledger.nextLine = (s.mapLedger Ledger.nextLine).record count := by
  have hledger : (s.mapLedger (·.recordDecisions count)).mapLedger Ledger.nextLine =
      (s.mapLedger Ledger.nextLine).mapLedger (·.recordDecisions count) :=
    congrArg (fun l => s.mapLedger fun _ => l) (s.braces.ledger.nextLine_recordDecisions count)
  unfold record
  rw [show (s.mapLedger Ledger.nextLine).groups = s.groups from rfl]
  cases s.groups with
  | nil => exact hledger
  | cons g gs =>
    dsimp only
    rw [show (s.mapLedger Ledger.nextLine).inExpression = s.inExpression from rfl,
      show (s.mapLedger Ledger.nextLine).braces.depth = s.braces.depth from rfl]
    split
    · rfl
    · exact hledger

/-- Decisions are released alike a line further down. -/
theorem Moved.nextLine_release (h : Moved (lowering last) s (s.mapLedger Ledger.nextLine)) (g : Group) :
    Moved (lowering last) (s.release g) ((s.release g).mapLedger Ledger.nextLine) := by
  rw [Script.release, record_nextLine]
  exact h.record g.decisions

/-- A line ends alike a line further down. -/
theorem Moved.nextLine_endLine (h : Moved (lowering last) s (s.mapLedger Ledger.nextLine)) :
    Moved (lowering last) s.endLine (s.endLine.mapLedger Ledger.nextLine) := by
  unfold Script.endLine
  split
  · have hbraces : Braces.Moved (lowering last) s.braces s.braces.nextLine := h.braces
    obtain ⟨b, hb, heq⟩ := h
    exact ⟨_, hbraces.nextLine_closeExpressions 0, congrArg (fun x : Script =>
      { x with nameLocked := false, braces := (s.braces.closeExpressions 0).nextLine }) heq⟩
  · exact h

/-- A line break is read alike a line further down. -/
theorem Moved.nextLine_readNewline (h : Moved (lowering last) s (s.mapLedger Ledger.nextLine)) :
    Moved (lowering last) (s.readNewline false) ((s.readNewline false).mapLedger Ledger.nextLine) := by
  have hended : Moved (lowering last) { s with phase := .statement }
      ({ s with phase := .statement }.mapLedger Ledger.nextLine) := h.withPhase .statement
  unfold Script.readNewline
  rw [if_neg Bool.false_ne_true]
  split
  · exact h
  · exact (hended.nextLine_release _).nextLine_endLine
  · exact h.nextLine_endLine

end Script

/-! ## Python -/

namespace Indent

variable {s : Indent}

/-- A second line break finds no header to end. -/
theorem readNewline_readNewline (s : Indent) (f : Ledger → Ledger) :
    ((s.readNewline false).mapLedger f).readNewline false = (s.readNewline false).mapLedger f := by
  unfold readNewline
  by_cases hbrackets : 0 < s.bracketDepth
  · simp [hbrackets, mapLedger]
  · by_cases hphase : s.phase = .outside
    · simp [hbrackets, hphase, mapLedger]
    · simp [hbrackets, hphase, mapLedger, releaseHeader]

/-- The decisions of a header are released alike a line further down. -/
theorem Moved.nextLine_releaseHeader (h : Moved (lowering last) s (s.mapLedger Ledger.nextLine)) :
    Moved (lowering last) s.releaseHeader (s.releaseHeader.mapLedger Ledger.nextLine) :=
  { h with
    headerDecisions_eq := rfl
    ledger := h.ledger.nextLine_recordDecisions s.headerDecisions }

/-- A line break is read alike a line further down. -/
theorem Moved.nextLine_readNewline (h : Moved (lowering last) s (s.mapLedger Ledger.nextLine)) :
    Moved (lowering last) (s.readNewline false) ((s.readNewline false).mapLedger Ledger.nextLine) := by
  unfold Indent.readNewline
  split
  · exact h
  · split
    · exact { h with atLineStart_eq := rfl }
    · apply Moved.nextLine_releaseHeader
      exact { h.leave with atLineStart_eq := rfl }

end Indent

end Recognizer

end Cyclomatic
