import Mathlib
import Cyclomatic.Proofs.Braces

/-!
# Outlines

An outline is what is left of a function when lines and tokens are of no interest: its name, its
complexity and the number of its parameters. The outlines of a ledger are those of its closed functions,
in closing order, followed by those of its open functions, innermost first (`Ledger.outlines`). Closing
functions, moving on and crediting tokens keep this row, so it can be read off before the functions close.
-/

namespace Cyclomatic

/-- A function without its lines and tokens. -/
structure FunctionOutline where
  name : String
  ccn : Int
  parameterCount : Int
deriving DecidableEq, Repr

namespace FunctionOutline

/-- The outline with more decisions. -/
def raise (n : Nat) (o : FunctionOutline) : FunctionOutline :=
  { o with ccn := o.ccn + n }

@[simp] theorem raise_zero (o : FunctionOutline) : o.raise 0 = o := by
  simp [raise]

/-- The row with more decisions in its first function, if there is one. -/
def raiseFirst (n : Nat) (os : List FunctionOutline) : List FunctionOutline :=
  os.modify 0 (raise n)

@[simp] theorem raiseFirst_zero (os : List FunctionOutline) : raiseFirst 0 os = os := by
  cases os <;> simp [raiseFirst]

end FunctionOutline

open FunctionOutline

def FunctionMeasure.outline (f : FunctionMeasure) : FunctionOutline :=
  ⟨f.name, f.ccn, f.parameterCount⟩

def Frame.outline (f : Frame) : FunctionOutline :=
  ⟨f.name, 1 + f.decisionCount, f.parameterCount⟩

/-- The outline of the function that opens with a signature. -/
def Signature.outline (f : Signature) : FunctionOutline :=
  ⟨if f.name.isEmpty then Ledger.anonymous else f.name, 1 + f.decisionCount, f.parameterCount⟩

@[simp] theorem Frame.outline_credit (f : Frame) (first : Int) (span : Nat) :
    (f.credit first span).outline = f.outline := rfl

@[simp] theorem Frame.outline_measure (f : Frame) (endLine : Int) :
    (f.measure endLine).outline = f.outline := rfl

namespace Ledger

/-- The outlines of the functions that have closed. -/
def closedOutlines (l : Ledger) : List FunctionOutline :=
  l.functions.map (·.outline)

/-- The outlines of the functions that are open, innermost first. -/
def openOutlines (l : Ledger) : List FunctionOutline :=
  l.frames.map (·.outline)

/-- The outlines of all functions, in the order in which they close if no other opens. -/
def outlines (l : Ledger) : List FunctionOutline :=
  l.closedOutlines ++ l.openOutlines

/-- A function that closes keeps its place in the row. -/
@[simp] theorem outlines_closeFunction (l : Ledger) (endLine : Option Int) :
    (l.closeFunction endLine).outlines = l.outlines := by
  unfold closeFunction
  cases hl : l.frames with
  | nil => rfl
  | cons f fs =>
    dsimp only
    split <;> simp [outlines, closedOutlines, openOutlines, functions, hl]

@[simp] theorem outlines_credit (l : Ledger) (lineSpan : Int) :
    (l.credit lineSpan).outlines = l.outlines := by
  rw [outlines, closedOutlines, openOutlines, credit_functions,
    map_frames_credit l lineSpan _ fun _ _ _ => rfl]
  rfl

@[simp] theorem closedOutlines_recordDecisions (l : Ledger) (count : Int) :
    (l.recordDecisions count).closedOutlines = l.closedOutlines := by
  rw [closedOutlines, recordDecisions_functions]
  rfl

/-- The decisions that are counted go to the first of the open functions. -/
theorem openOutlines_recordDecisions (l : Ledger) (count : Nat) :
    (l.recordDecisions count).openOutlines = raiseFirst count l.openOutlines := by
  unfold recordDecisions openOutlines
  cases hl : l.frames with
  | nil => rfl
  | cons f fs => simp [raiseFirst, raise, Frame.outline, add_assoc]

@[simp] theorem closedOutlines_credit (l : Ledger) (lineSpan : Int) :
    (l.credit lineSpan).closedOutlines = l.closedOutlines := by
  rw [closedOutlines, credit_functions, closedOutlines]

@[simp] theorem openOutlines_credit (l : Ledger) (lineSpan : Int) :
    (l.credit lineSpan).openOutlines = l.openOutlines :=
  map_frames_credit l lineSpan _ fun _ _ _ => rfl

/-- A function that closes was the first of those that are open. -/
theorem openOutlines_closeFunction (l : Ledger) (endLine : Option Int) :
    (l.closeFunction endLine).openOutlines = l.openOutlines.tail := by
  rw [openOutlines, closeFunction_frames, List.map_tail, openOutlines]

/-- The innermost of the open functions becomes the last of the closed ones. -/
theorem closedOutlines_closeFunction (l : Ledger) (endLine : Option Int) :
    (l.closeFunction endLine).closedOutlines = l.closedOutlines ++ l.openOutlines.head?.toList := by
  unfold closeFunction openOutlines
  cases hl : l.frames with
  | nil => simp
  | cons f fs =>
    dsimp only
    split <;> simp [closedOutlines, functions]

/-- Where no function is open, the row has the closed functions only. -/
theorem outlines_of_frames_eq_nil {l : Ledger} (h : l.frames = []) :
    l.outlines = l.closedOutlines := by
  simp [outlines, openOutlines, h]

end Ledger

namespace Braces

@[simp] theorem outlines_closeBody (b : Braces) :
    b.closeBody.ledger.outlines = b.ledger.outlines :=
  Ledger.outlines_closeFunction _ _

/-- Bodies that close keep the row. -/
@[simp] theorem outlines_closeWhile (b : Braces) (p : Body → Bool) :
    (b.closeWhile p).ledger.outlines = b.ledger.outlines := by
  unfold closeWhile
  generalize b.bodies.takeWhile p = closing
  induction closing generalizing b with
  | nil => rfl
  | cons body closing ih => rw [List.foldl_cons, ih, outlines_closeBody]

@[simp] theorem outlines_closeExpressions (b : Braces) (brackets : Nat) :
    (b.closeExpressions brackets).ledger.outlines = b.ledger.outlines :=
  outlines_closeWhile b _

/-- The function that opens comes first among those that are open. -/
theorem outlines_enterFunction (b : Braces) (f : Signature) :
    (b.enterFunction f).ledger.outlines =
      b.ledger.closedOutlines ++ f.outline :: b.ledger.openOutlines := by
  show ((b.ledger.openFunction f.name f.parameterCount (some f.startLine)).recordDecisions
    f.decisionCount).outlines = _
  rw [Ledger.outlines, Ledger.closedOutlines_recordDecisions, Ledger.openOutlines_recordDecisions]
  simp [Ledger.closedOutlines, Ledger.openOutlines, Ledger.openFunction, Ledger.functions, raiseFirst,
    raise, Frame.outline, Signature.outline]

end Braces

/-! ## Names and numbers of parameters -/

/-- The outline without its complexity. -/
def FunctionOutline.signature (o : FunctionOutline) : String × Int :=
  (o.name, o.parameterCount)

@[simp] theorem FunctionOutline.map_signature_raiseFirst (n : Nat) (os : List FunctionOutline) :
    (raiseFirst n os).map (·.signature) = os.map (·.signature) := by
  cases os <;> rfl

namespace Ledger

/-- The names and numbers of parameters of all functions. -/
def signatures (l : Ledger) : List (String × Int) :=
  l.outlines.map (·.signature)

@[simp] theorem signatures_recordDecisions (l : Ledger) (count : Nat) :
    (l.recordDecisions count).signatures = l.signatures := by
  simp [signatures, outlines, openOutlines_recordDecisions]

@[simp] theorem signatures_credit (l : Ledger) (lineSpan : Int) :
    (l.credit lineSpan).signatures = l.signatures := by
  rw [signatures, outlines_credit, signatures]

/-- Decisions and the ends of functions are nothing to the signatures. -/
theorem Settles.signatures_eq {reach : Bool} {n : Nat} {l m : Ledger} (h : Settles reach n l m) :
    m.signatures = l.signatures := by
  induction h with
  | refl => rfl
  | record count _ ih => rw [signatures_recordDecisions, ih]
  | close endLine _ _ ih => rw [signatures, outlines_closeFunction, ← signatures, ih]

/-- No signature is lost when a function opens. -/
theorem signatures_subset_openFunction (l : Ledger) (name : String) (params : Int) (start : Option Int) :
    l.signatures ⊆ (l.openFunction name params start).signatures := by
  intro x hx
  simp only [signatures, outlines, List.map_append, List.mem_append] at hx ⊢
  exact hx.imp_right (List.mem_cons_of_mem _)

/-- No signature is lost while a token is read. -/
theorem Reads.signatures_subset {reach : Bool} {n : Nat} {l m : Ledger} (h : Reads reach n l m) :
    l.signatures ⊆ m.signatures := by
  cases h with
  | settles h => rw [h.signatures_eq]; exact List.Subset.refl _
  | @opens before _ _ _ name params start h =>
    rw [h.signatures_eq, ← signatures_recordDecisions l before]
    exact signatures_subset_openFunction _ name params start

/-- The signature of the first function of all. -/
theorem signatures_enterFunction {b : Braces} (h : b.ledger.signatures = []) (f : Signature) :
    (b.enterFunction f).ledger.signatures = [f.outline.signature] := by
  have houtlines : b.ledger.outlines = [] := List.map_eq_nil_iff.1 h
  obtain ⟨hclosed, hopen⟩ := List.append_eq_nil_iff.1 houtlines
  rw [signatures, Braces.outlines_enterFunction, hclosed, hopen]
  rfl

end Ledger

end Cyclomatic
