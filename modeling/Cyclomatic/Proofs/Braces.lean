import Mathlib
import Cyclomatic.Proofs.Ledger.Reading
import Cyclomatic.Recognizer.Braces

/-!
# Braces and the bodies among them

A recognizer with braces works on braces and ledger together. `Braces.Settles` and `Braces.Reads` say
what one reading can do to them: count decisions, read braces, open one function and close bodies.
Their effect on the ledger is a reading of the ledger (`Braces.Reads.ledger`).

The bodies are well nested (`Braces.WellNested`): there is one for each open function, no body lies
deeper than the bodies above it or the open braces, and a block body lies strictly below both. Every
reading keeps this (`Braces.WellNested.reads`).
-/

namespace Cyclomatic

/-- What is left when as many entries are dropped as pass a test at the front. -/
theorem drop_length_takeWhile {α : Type} (p : α → Bool) (xs : List α) :
    xs.drop (xs.takeWhile p).length = xs.dropWhile p := by
  calc xs.drop (xs.takeWhile p).length
      = (xs.takeWhile p ++ xs.dropWhile p).drop (xs.takeWhile p).length := by
        rw [List.takeWhile_append_dropWhile]
    _ = xs.dropWhile p := List.drop_left

/-! ## Nesting -/

/-- Whether a body lies below `depth` open braces. The brace of a block body is one of them. -/
def Body.LiesBelow (body : Body) (depth : Nat) : Prop :=
  body.braceDepth ≤ depth ∧ (body.isExpression = false → body.braceDepth < depth)

/-- What lies below some braces lies below more of them. -/
theorem Body.LiesBelow.mono {body : Body} {d e : Nat} (h : body.LiesBelow d) (hde : d ≤ e) :
    body.LiesBelow e :=
  ⟨h.1.trans hde, fun hb => lt_of_lt_of_le (h.2 hb) hde⟩

namespace Braces

/-- The bodies are in step with the open functions, and each lies below those above it and below the
open braces. Bodies are listed innermost first. -/
structure WellNested (b : Braces) : Prop where
  length_bodies : b.bodies.length = b.ledger.depth
  below_upper : b.bodies.Pairwise fun upper lower => lower.LiesBelow upper.braceDepth
  below_depth : ∀ body ∈ b.bodies, body.LiesBelow b.depth

/-! ## Closing bodies -/

@[simp] theorem closeBody_depth (b : Braces) : b.closeBody.depth = b.depth := rfl

@[simp] theorem closeBody_bodies (b : Braces) : b.closeBody.bodies = b.bodies.tail := rfl

/-- Closing as many bodies as a list is long leaves the others. -/
theorem foldl_closeBody_bodies (xs : List Body) (b : Braces) :
    (xs.foldl (fun b _ => b.closeBody) b).bodies = b.bodies.drop xs.length := by
  induction xs generalizing b with
  | nil => rfl
  | cons x xs ih =>
    rw [List.foldl_cons, ih, closeBody_bodies, List.length_cons, List.drop_tail]

/-- Closing bodies leaves the braces as they are. -/
theorem foldl_closeBody_depth (xs : List Body) (b : Braces) :
    (xs.foldl (fun b _ => b.closeBody) b).depth = b.depth := by
  induction xs generalizing b with
  | nil => rfl
  | cons x xs ih => rw [List.foldl_cons, ih, closeBody_depth]

@[simp] theorem closeWhile_bodies (b : Braces) (p : Body → Bool) :
    (b.closeWhile p).bodies = b.bodies.dropWhile p := by
  rw [closeWhile, foldl_closeBody_bodies, drop_length_takeWhile]

@[simp] theorem closeWhile_depth (b : Braces) (p : Body → Bool) :
    (b.closeWhile p).depth = b.depth :=
  foldl_closeBody_depth _ b

/-- A closing brace opens no body. -/
theorem closeBrace_bodies_suffix (b : Braces) : b.closeBrace.bodies <:+ b.bodies := by
  unfold closeBrace
  split
  · exact List.suffix_refl _
  · rename_i depth _
    have hwhile : ({ b with depth }.closeWhile fun body =>
        body.isExpression && decide (depth < body.braceDepth)).bodies <:+ b.bodies := by
      rw [closeWhile_bodies]
      exact List.dropWhile_suffix _
    unfold closeBlock
    split
    · split
      · exact (List.tail_suffix _).trans hwhile
      · exact hwhile
    · exact hwhile

/-! ## Readings of braces -/

/-- Counts decisions. -/
def record (b : Braces) (count : Nat) : Braces :=
  { b with ledger := b.ledger.recordDecisions count }

/-- `Settles n b c`: from `b` to `c` decisions are counted, `n` in all, braces are read and bodies
close, but no function opens. -/
inductive Settles : Nat → Braces → Braces → Prop
  | refl (b : Braces) : Settles 0 b b
  | record {n : Nat} {b c : Braces} (count : Nat) (h : Settles n b c) :
      Settles (n + count) b (c.record count)
  | openBlock {n : Nat} {b c : Braces} (h : Settles n b c) : Settles n b c.openBlock
  | closeBody {n : Nat} {b c : Braces} (h : Settles n b c) : Settles n b c.closeBody
  | closeBrace {n : Nat} {b c : Braces} (h : Settles n b c) : Settles n b c.closeBrace

/-- `Reads n b c`: from `b` to `c` a token is read, which counts `n` decisions in all, those of a
signature whose body it opens included. -/
inductive Reads : Nat → Braces → Braces → Prop
  | settles {n : Nat} {b c : Braces} (h : Settles n b c) : Reads n b c
  | body {before after : Nat} {b c : Braces} (f : Signature)
      (h : Settles after ((b.record before).openBody f) c) :
      Reads (before + f.decisionCount + after) b c
  | expression {before after : Nat} {b c : Braces} (f : Signature) (bracketDepth : Nat)
      (h : Settles after ((b.record before).openExpression f bracketDepth) c) :
      Reads (before + f.decisionCount + after) b c

variable {n k : Nat} {b c d : Braces}

/-- Readings without a new function follow each other. -/
theorem Settles.trans (h : Settles n b c) (h' : Settles k c d) : Settles (n + k) b d := by
  induction h' with
  | refl => exact h
  | record count _ ih => rw [← Nat.add_assoc]; exact (ih h).record count
  | openBlock _ ih => exact (ih h).openBlock
  | closeBody _ ih => exact (ih h).closeBody
  | closeBrace _ ih => exact (ih h).closeBrace

/-- Counting nothing changes nothing. -/
theorem record_zero (b : Braces) : b.record 0 = b := by
  simp [record]

/-- Decisions may be counted at once or one after the other. -/
theorem record_record (b : Braces) (m n : Nat) : (b.record m).record n = b.record (m + n) := by
  simp only [record, Ledger.recordDecisions_add]
  push_cast
  rfl

/-- Counting decisions is a reading. -/
theorem settles_record (b : Braces) (count : Nat) : Settles count b (b.record count) := by
  simpa using (Settles.refl b).record count

/-- The opening brace of a body is a reading that counts the decisions of its signature. -/
theorem reads_openBody (b : Braces) (f : Signature) : Reads f.decisionCount b (b.openBody f) := by
  have hopen : Settles 0 ((b.record 0).openBody f) (b.openBody f) := by
    rw [record_zero]
    exact .refl _
  simpa using Reads.body f hopen

/-- So is the beginning of an expression body. -/
theorem reads_openExpression (b : Braces) (f : Signature) (bracketDepth : Nat) :
    Reads f.decisionCount b (b.openExpression f bracketDepth) := by
  have hopen : Settles 0 ((b.record 0).openExpression f bracketDepth)
      (b.openExpression f bracketDepth) := by
    rw [record_zero]
    exact .refl _
  simpa using Reads.expression f bracketDepth hopen

/-- A reading may be followed by one without a new function. -/
theorem Reads.trans_settles (h : Reads n b c) (h' : Settles k c d) : Reads (n + k) b d := by
  cases h with
  | settles h => exact .settles (h.trans h')
  | body f h =>
    rw [Nat.add_assoc]
    exact .body f (h.trans h')
  | expression f bracketDepth h =>
    rw [Nat.add_assoc]
    exact .expression f bracketDepth (h.trans h')

/-- Decisions may be counted before a reading. -/
theorem Reads.record_before (k : Nat) (h : Reads n (b.record k) c) : Reads (k + n) b c := by
  cases h with
  | settles h =>
    exact .settles ((settles_record b k).trans h)
  | body f h =>
    rw [record_record] at h
    rw [← Nat.add_assoc, ← Nat.add_assoc]
    exact .body f h
  | expression f bracketDepth h =>
    rw [record_record] at h
    rw [← Nat.add_assoc, ← Nat.add_assoc]
    exact .expression f bracketDepth h

/-- Closing bodies one after the other is a reading. -/
theorem Settles.foldl_closeBody (xs : List Body) (h : Settles n b c) :
    Settles n b (xs.foldl (fun b _ => b.closeBody) c) := by
  induction xs generalizing c with
  | nil => exact h
  | cons x xs ih => exact ih h.closeBody

/-- Closing bodies as long as they satisfy a condition is a reading. -/
theorem Settles.closeWhile (p : Body → Bool) (h : Settles n b c) :
    Settles n b (c.closeWhile p) :=
  h.foldl_closeBody _

/-! ## The ledger of a reading -/

/-- A body that closes by itself ends on the current line. -/
theorem closesHere (l : Ledger) :
    ∀ f ∈ l.frames.head?, decide (l.line ≤ max ((none : Option Int).getD l.line) f.startLine) = true := by
  intro f _
  exact decide_eq_true (le_max_left _ _)

/-- Closing bodies closes their functions in the ledger. -/
theorem ledger_foldl_closeBody (xs : List Body) (b : Braces) :
    Ledger.Settles true 0 b.ledger (xs.foldl (fun b _ => b.closeBody) b).ledger := by
  induction xs generalizing b with
  | nil => exact .refl _
  | cons x xs ih =>
    have hx : Ledger.Settles true 0 b.ledger b.closeBody.ledger :=
      (Ledger.Settles.refl b.ledger).close none (closesHere _)
    simpa using hx.trans (ih b.closeBody)

/-- A closing brace closes functions in the ledger. -/
theorem ledger_closeBrace (b : Braces) :
    Ledger.Settles true 0 b.ledger b.closeBrace.ledger := by
  unfold closeBrace
  split
  · exact .refl _
  · rename_i depth hdepth
    -- the braces are one less, but the ledger is still that of `b`
    have hwhile := ledger_foldl_closeBody
      (b.bodies.takeWhile fun body => body.isExpression && decide (depth < body.braceDepth))
      { b with depth }
    unfold closeBlock
    split
    · split
      · exact hwhile.close none (closesHere _)
      · exact hwhile
    · exact hwhile

/-- A reading of braces without a new function is one of their ledger. -/
theorem Settles.ledger (h : Settles n b c) : Ledger.Settles true n b.ledger c.ledger := by
  induction h with
  | refl => exact .refl _
  | record count _ ih => exact ih.record count
  | openBlock _ ih => exact ih
  | closeBody _ ih => exact ih.close none (closesHere _)
  | closeBrace _ ih => simpa using ih.trans (ledger_closeBrace _)

/-- A reading of braces is a reading of their ledger. -/
theorem Reads.ledger (h : Reads n b c) : Ledger.Reads true n b.ledger c.ledger := by
  -- the decisions of the signature are the first that the new function counts
  have signature (l : Ledger) (f : Signature) : Ledger.Settles true f.decisionCount
      (l.openFunction f.name f.parameterCount (some f.startLine))
      ((l.openFunction f.name f.parameterCount (some f.startLine)).recordDecisions
        f.decisionCount) :=
    Ledger.settles_recordDecisions true _ f.decisionCount
  cases h with
  | settles h => exact .settles h.ledger
  | body f h =>
    rw [Nat.add_assoc]
    exact .opens f.name f.parameterCount (some f.startLine) ((signature _ f).trans h.ledger)
  | expression f bracketDepth h =>
    rw [Nat.add_assoc]
    exact .opens f.name f.parameterCount (some f.startLine) ((signature _ f).trans h.ledger)

/-! ## Readings keep the nesting -/

/-- Without bodies and open functions all is well nested. -/
theorem wellNested_of_nil {b : Braces} (hb : b.bodies = []) (hf : b.ledger.frames = []) :
    b.WellNested where
  length_bodies := by rw [hb, Ledger.depth, hf]; rfl
  below_upper := by rw [hb]; exact .nil
  below_depth := by rw [hb]; simp

/-- Bodies and braces alone, and the number of open functions, decide about the nesting. -/
theorem WellNested.congr {b c : Braces} (h : b.WellNested) (hbodies : c.bodies = b.bodies)
    (hdepth : b.depth ≤ c.depth) (hledger : c.ledger.depth = b.ledger.depth) : c.WellNested where
  length_bodies := by rw [hbodies, hledger]; exact h.length_bodies
  below_upper := by rw [hbodies]; exact h.below_upper
  below_depth := by
    intro body hbody
    rw [hbodies] at hbody
    exact (h.below_depth body hbody).mono hdepth

theorem WellNested.record (h : b.WellNested) (count : Nat) : (b.record count).WellNested :=
  h.congr rfl le_rfl (Ledger.recordDecisions_depth _ _)

theorem WellNested.openBlock (h : b.WellNested) : b.openBlock.WellNested :=
  h.congr rfl (Nat.le_succ _) rfl

@[simp] theorem enterFunction_ledger_depth (b : Braces) (f : Signature) :
    (b.enterFunction f).ledger.depth = b.ledger.depth + 1 := by
  simp [enterFunction]

/-- A block body begins at the open braces, below its own brace. -/
theorem WellNested.openBody (h : b.WellNested) (f : Signature) : (b.openBody f).WellNested where
  length_bodies := by
    show b.bodies.length + 1 = (b.enterFunction f).ledger.depth
    rw [enterFunction_ledger_depth, h.length_bodies]
  below_upper := List.pairwise_cons.2 ⟨h.below_depth, h.below_upper⟩
  below_depth := by
    intro body hbody
    rcases List.mem_cons.1 hbody with rfl | hbody
    · exact ⟨Nat.le_succ _, fun _ => Nat.lt_succ_self _⟩
    · exact (h.below_depth body hbody).mono (Nat.le_succ _)

/-- An expression body begins at the open braces. -/
theorem WellNested.openExpression (h : b.WellNested) (f : Signature) (bracketDepth : Nat) :
    (b.openExpression f bracketDepth).WellNested where
  length_bodies := by
    show b.bodies.length + 1 = (b.enterFunction f).ledger.depth
    rw [enterFunction_ledger_depth, h.length_bodies]
  below_upper := List.pairwise_cons.2 ⟨h.below_depth, h.below_upper⟩
  below_depth := by
    intro body hbody
    rcases List.mem_cons.1 hbody with rfl | hbody
    · exact ⟨le_rfl, fun hb => absurd hb (by simp)⟩
    · exact h.below_depth body hbody

/-- Closing a body takes one entry off both stacks. -/
theorem length_closeBody (h : b.bodies.length = b.ledger.depth) :
    b.closeBody.bodies.length = b.closeBody.ledger.depth := by
  show b.bodies.tail.length = (b.ledger.closeFunction).depth
  rw [List.length_tail, Ledger.closeFunction_depth, h]

theorem WellNested.closeBody (h : b.WellNested) : b.closeBody.WellNested where
  length_bodies := length_closeBody h.length_bodies
  below_upper := h.below_upper.tail
  below_depth := fun body hbody => h.below_depth body (List.mem_of_mem_tail hbody)

/-- Closing bodies keeps the two stacks in step. -/
theorem length_foldl_closeBody (xs : List Body) (h : b.bodies.length = b.ledger.depth) :
    (xs.foldl (fun b _ => b.closeBody) b).bodies.length =
      (xs.foldl (fun b _ => b.closeBody) b).ledger.depth := by
  induction xs generalizing b with
  | nil => exact h
  | cons x xs ih => exact ih (length_closeBody h)

/-- The bodies that remain when a brace has closed and the expressions inside it are gone: only the
innermost can be the block that ends here. -/
theorem WellNested.closeBlock (depth : Nat) (hlen : b.bodies.length = b.ledger.depth)
    (hupper : b.bodies.Pairwise fun upper lower => lower.LiesBelow upper.braceDepth)
    (hdepth : ∀ body ∈ b.bodies, body.LiesBelow (depth + 1))
    (hhead : ∀ body ∈ b.bodies.head?,
      (body.isExpression && decide (depth < body.braceDepth)) = false)
    (hb : b.depth = depth) : b.closeBlock.WellNested := by
  unfold Braces.closeBlock
  cases hbodies : b.bodies with
  | nil =>
    refine ⟨hlen, hupper, ?_⟩
    rw [hbodies]
    simp
  | cons body rest =>
    rw [hbodies] at hupper
    obtain ⟨hrest, hupper'⟩ := List.pairwise_cons.1 hupper
    have hhead : (body.isExpression && decide (depth < body.braceDepth)) = false :=
      hhead body (by rw [hbodies]; rfl)
    have hbody : body.LiesBelow (depth + 1) := hdepth body (by rw [hbodies]; simp)
    dsimp only
    split
    · -- the block ends here, and what is left lies below it
      rename_i hends
      simp only [Bool.and_eq_true, Bool.not_eq_true', beq_iff_eq, hb] at hends
      refine ⟨length_closeBody hlen, ?_, ?_⟩
      · rw [closeBody_bodies, hbodies]
        exact hupper'
      · intro x hx
        rw [closeBody_bodies, hbodies] at hx
        have hx : x.LiesBelow body.braceDepth := hrest x hx
        rw [hends.2] at hx
        rw [closeBody_depth, hb]
        exact hx
    · -- the innermost body stays, and so it lies below the braces that are left
      rename_i hends
      have hbelow : body.LiesBelow depth := by
        cases hexp : body.isExpression with
        | true =>
          rw [hexp, Bool.true_and, decide_eq_false_iff_not] at hhead
          exact ⟨by omega, fun h => absurd h (by simp [hexp])⟩
        | false =>
          have hlt := hbody.2 hexp
          have hne : body.braceDepth ≠ depth := by
            intro he
            exact hends (by simp [hexp, he, hb])
          exact ⟨by omega, fun _ => by omega⟩
      refine ⟨hlen, by rw [hbodies]; exact hupper, ?_⟩
      intro x hx
      rw [hbodies] at hx
      rw [hb]
      rcases List.mem_cons.1 hx with rfl | hx
      · exact hbelow
      · exact (hrest x hx).mono hbelow.1

/-- A closing brace closes the bodies that no longer lie below the open braces. -/
theorem WellNested.closeBrace (h : b.WellNested) : b.closeBrace.WellNested := by
  unfold Braces.closeBrace
  split
  · exact h
  · rename_i depth hdepth
    have hsub : ∀ {x}, x ∈ (b.bodies.dropWhile fun body =>
        body.isExpression && decide (depth < body.braceDepth)) → x ∈ b.bodies :=
      fun hx => (List.dropWhile_suffix _).subset hx
    -- with one brace less the expressions above it no longer lie below the braces, and they go first
    apply WellNested.closeBlock depth
    · exact length_foldl_closeBody _ h.length_bodies
    · rw [closeWhile_bodies]
      exact h.below_upper.sublist (List.dropWhile_suffix _).sublist
    · intro body hbody
      rw [closeWhile_bodies] at hbody
      exact (h.below_depth body (hsub hbody)).mono hdepth.le
    · intro body hbody
      rw [closeWhile_bodies] at hbody
      have hnot := List.head?_dropWhile_not
        (fun body : Body => body.isExpression && decide (depth < body.braceDepth)) b.bodies
      rw [Option.mem_def.1 hbody] at hnot
      exact hnot
    · rw [closeWhile_depth]

/-- Readings without a new function keep the nesting. -/
theorem WellNested.settles (hb : b.WellNested) (h : Settles n b c) : c.WellNested := by
  induction h with
  | refl => exact hb
  | record count _ ih => exact (ih hb).record count
  | openBlock _ ih => exact (ih hb).openBlock
  | closeBody _ ih => exact (ih hb).closeBody
  | closeBrace _ ih => exact (ih hb).closeBrace

/-- Readings keep the nesting. -/
theorem WellNested.reads (hb : b.WellNested) (h : Reads n b c) : c.WellNested := by
  cases h with
  | settles h => exact hb.settles h
  | body f h => exact ((hb.record _).openBody f).settles h
  | expression f bracketDepth h => exact ((hb.record _).openExpression f bracketDepth).settles h

/-- Outside all braces only expressions can be open, and those can all be closed. -/
theorem WellNested.closeExpressions_bodies (h : b.WellNested) (hdepth : b.depth = 0) :
    (b.closeExpressions 0).bodies = [] := by
  unfold closeExpressions
  rw [closeWhile_bodies, List.dropWhile_eq_nil_iff]
  intro body hbody
  obtain ⟨hle, hlt⟩ := h.below_depth body hbody
  rw [hdepth] at hle hlt
  have hexpression : body.isExpression = true := by
    rw [← Bool.not_eq_false]
    intro hblock
    exact absurd (hlt hblock) (Nat.not_lt_zero _)
  have hzero : body.braceDepth = b.depth := by omega
  simp [hexpression, hzero]

/-- Outside all braces no block can be open. -/
theorem WellNested.bodies_eq_nil (h : b.WellNested) (hdepth : b.depth = 0)
    (hblocks : ∀ body ∈ b.bodies, body.isExpression = false) : b.bodies = [] := by
  rw [List.eq_nil_iff_forall_not_mem]
  intro body hbody
  have hlt := (h.below_depth body hbody).2 (hblocks body hbody)
  rw [hdepth] at hlt
  exact Nat.not_lt_zero _ hlt

/-- No function is open where no body is. -/
theorem WellNested.frames_eq_nil (h : b.WellNested) (hbodies : b.bodies = []) :
    b.ledger.frames = [] := by
  have hlen := h.length_bodies
  rw [hbodies] at hlen
  exact List.eq_nil_of_length_eq_zero hlen.symm

end Braces

end Cyclomatic
