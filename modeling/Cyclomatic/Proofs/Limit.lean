import Mathlib
import Cyclomatic.Report

/-!
# Limits

An integer can be compared with a limit that is a number, and with no other (`Value.exceeds_int`). So what
a report says about a limit is what its analyses say one by one, in any order (`Report.exceeds_eq_true_iff`,
`Report.exceeds_eq_false_iff`).
-/

namespace Cyclomatic

/-- An integer is above a limit if it is above the number that the limit stands for. A limit that stands for
none cannot be compared. -/
theorem Value.exceeds_int (n : Int) (limit : Value) : (Value.int n).exceeds limit =
    match limit.number? with
    | some y => .ok (y.lt (.int n))
    | none => .error (.kind (.unordered ">" (.int n) limit)) := by
  have hnumber : (Value.int n).number? = some (.int n) := rfl
  have hitems : (Value.int n).listItems? = none := rfl
  rw [exceeds, inOrder.eq_def]
  dsimp only
  rw [hnumber, hitems]
  cases hlimit : limit.number? with
  | some y => rfl
  | none => rfl

namespace Report

/-- Whether one of some analyses is above a limit: none can be compared with a limit that is no number. -/
theorem anyExceeds_eq (limit : Value) (as : List Analysis) : anyExceeds limit as =
    match limit.number?, as with
    | some y, as => .ok (as.any fun a => y.lt (.int (worstCcn a)))
    | none, [] => .ok false
    | none, a :: _ => .error (.kind (.unordered ">" (.int (worstCcn a)) limit)) := by
  induction as with
  | nil =>
    rw [anyExceeds]
    cases limit.number? <;> rfl
  | cons a as ih =>
    rw [anyExceeds, Value.exceeds_int, ih]
    cases limit.number? with
    | none => rfl
    | some y =>
      change (if y.lt (.int (worstCcn a)) = true then _ else _) =
        Except.ok (y.lt (.int (worstCcn a)) || as.any fun a => y.lt (.int (worstCcn a)))
      cases y.lt (.int (worstCcn a)) <;> rfl

/-- Some analysis is found to be above the limit exactly if one of them is. -/
theorem anyExceeds_eq_true_iff {limit : Value} {as : List Analysis} :
    anyExceeds limit as = .ok true ↔
      ∃ a ∈ as, (Value.int (worstCcn a)).exceeds limit = .ok true := by
  simp only [anyExceeds_eq, Value.exceeds_int]
  cases limit.number? with
  | some y => simp
  | none => cases as <;> simp

/-- All analyses are found to be within the limit exactly if each of them is. -/
theorem anyExceeds_eq_false_iff {limit : Value} {as : List Analysis} :
    anyExceeds limit as = .ok false ↔
      ∀ a ∈ as, (Value.int (worstCcn a)).exceeds limit = .ok false := by
  simp only [anyExceeds_eq, Value.exceeds_int]
  cases limit.number? with
  | some y => simp
  | none =>
    cases as with
    | nil => simp
    | cons a as => exact iff_of_false (by simp) fun h => by simpa using h a List.mem_cons_self

/-- A report is above a limit exactly if one of its analyses is, in whatever order they come. -/
theorem exceeds_eq_true_iff {r : Report} {limit : Value} :
    r.exceeds limit = .ok true ↔
      ∃ a ∈ r.analyses, (Value.int (worstCcn a)).exceeds limit = .ok true := by
  unfold exceeds
  split
  · simp [Value.exceeds_int, Value.number?, Scalar.number?]
  · exact anyExceeds_eq_true_iff

/-- A report is within a limit exactly if there is no limit or each of its analyses is within it. -/
theorem exceeds_eq_false_iff {r : Report} {limit : Value} :
    r.exceeds limit = .ok false ↔
      limit = .null ∨ ∀ a ∈ r.analyses, (Value.int (worstCcn a)).exceeds limit = .ok false := by
  unfold exceeds
  split
  · simp
  · rename_i hlimit
    rw [anyExceeds_eq_false_iff, or_iff_right hlimit]

end Report

end Cyclomatic
