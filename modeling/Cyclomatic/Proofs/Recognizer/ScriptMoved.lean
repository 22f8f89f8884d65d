import Mathlib
import Cyclomatic.Proofs.Recognizer.Moved
import Cyclomatic.Proofs.Recognizer.ScriptCorrespondence

/-!
# TypeScript and JavaScript on other lines

The states of two passes over the same tokens on different lines differ in their lines only (`Script.Moved`).
That is the correspondence of passes (`Script.Corresponds`) for a relocation, which must let functions begin
on any line.
-/

namespace Cyclomatic.Recognizer

variable {C : Relocation}

/-! ## States -/

/-- The group with its line where it comes to lie. -/
def Group.moved (move : Int ↪o Int) (g : Group) : Group :=
  { g with startLine := move g.startLine }

/-- The phase with its lines where they come to lie. -/
def ScriptPhase.moved (move : Int ↪o Int) : ScriptPhase → ScriptPhase
  | statement => statement
  | functionHead name line => functionHead name (move line)
  | typeParameters name line depth => typeParameters name (move line) depth
  | returnType g depth tokens => returnType (g.moved move) depth tokens
  | arrowBody f => arrowBody (f.moved move)

namespace Script

/-- The state with its lines where they come to lie, and with other braces. -/
def moved (move : Int ↪o Int) (s : Script) (braces : Braces) : Script :=
  { s with
    phase := s.phase.moved move
    groups := s.groups.map (·.moved move)
    closedGroup := s.closedGroup.map (·.moved move)
    braces }

/-- The state `s'` is that of the other pass. -/
def Moved (C : Relocation) (s s' : Script) : Prop :=
  ∃ b, Braces.Moved C s.braces b ∧ s' = s.moved C.move b

variable {s s' : Script}

/-- States differ in their lines only when they correspond by the relocation. -/
theorem moved_iff_corresponds : Moved C s s' ↔ Corresponds C.correspondence s s' := by
  have hphase : s.phase.moved C.move = s.phase.onLine C.move := by
    cases s.phase <;> rfl
  have hstate (b : Braces) : s.moved C.move b = s.onLines C.move b := by
    rw [moved, hphase]
    rfl
  constructor
  · rintro ⟨b, hb, rfl⟩
    exact ⟨b, Braces.moved_iff_corresponds.1 hb, hstate b⟩
  · rintro ⟨b, hb, rfl⟩
    exact ⟨b, Braces.moved_iff_corresponds.2 hb, (hstate b).symm⟩

/-- Such states have braces that differ in their lines only. -/
theorem Moved.braces (h : Moved C s s') : Braces.Moved C s.braces s'.braces := by
  obtain ⟨b, hb, rfl⟩ := h
  exact hb

/-- States still differ in their lines only when both enter the same phase. -/
theorem Moved.withPhase (h : Moved C s s') (phase : ScriptPhase) :
    Moved C { s with phase } { s' with phase := phase.moved C.move } := by
  obtain ⟨b, hb, rfl⟩ := h
  exact ⟨b, hb, rfl⟩

/-- A change of the ledgers that keeps them so keeps the states so. -/
theorem Moved.mapLedger (h : Moved C s s') (f f' : Ledger → Ledger)
    (hf : Ledger.Moved C (f s.braces.ledger) (f' s'.braces.ledger)) :
    Moved C (s.mapLedger f) (s'.mapLedger f') :=
  moved_iff_corresponds.2 ((moved_iff_corresponds.1 h).mapLedger f f' hf)

/-- Decisions are recorded alike on other lines. -/
theorem Moved.record (h : Moved C s s') (count : Nat) :
    Moved C (s.record count) (s'.record count) :=
  moved_iff_corresponds.2 ((moved_iff_corresponds.1 h).record count)

/-- Any token is read alike on other lines. -/
theorem Moved.read [C.Unrestricted] (h : Moved C s s') (table : DecisionTable) (t : Token) :
    Moved C (s.read table t) (s'.read table t) :=
  moved_iff_corresponds.2 ((moved_iff_corresponds.1 h).read table t)

/-- On other lines the pass ends with the same refusal or none. -/
theorem Moved.finish (h : Moved C s s') :
    s'.finish.2 = s.finish.2 ∧ Moved C s.finish.1 s'.finish.1 :=
  (moved_iff_corresponds.1 h).finish.imp_right moved_iff_corresponds.2

end Script

end Cyclomatic.Recognizer
