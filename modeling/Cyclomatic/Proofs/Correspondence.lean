import Mathlib
import Cyclomatic.Recognizer.Braces

/-!
# Passes that correspond

Two passes read the same tokens, but not on the same lines, or one of them forgets something. A
`Correspondence` says where the lines of the first come to lie in the second and which of their ledgers go
together; that counting decisions and opening and closing functions keep ledgers together is part of it. What
is read of braces depends on nothing else, so the braces of the two passes agree but for their ledgers
(`Braces.Corresponds`).
-/

namespace Cyclomatic

/-- How the ledgers of two passes go together. -/
structure Correspondence where
  /-- Where a line comes to lie. -/
  line : Int → Int
  /-- Where functions may begin. -/
  begins : Int → Prop := fun _ => True
  /-- The ledgers that go together. -/
  ledgers : Ledger → Ledger → Prop
  line_eq : ∀ {l l'}, ledgers l l' → l'.line = line l.line
  openFunction : ∀ {l l'}, ledgers l l' → ∀ {start}, begins start → ∀ name params,
    ledgers (l.openFunction name params (some start)) (l'.openFunction name params (some (line start)))
  recordDecisions : ∀ {l l'}, ledgers l l' → ∀ count : Nat,
    ledgers (l.recordDecisions count) (l'.recordDecisions count)
  closeFunction : ∀ {l l'}, ledgers l l' → ledgers l.closeFunction l'.closeFunction

/-- Functions may begin on any line. -/
class Correspondence.Unrestricted (K : Correspondence) : Prop where
  begins : ∀ line, K.begins line

/-- Two branchings on one condition are related if their branches are. -/
theorem rel_ite {α : Type} {R : α → α → Prop} {c : Prop} [Decidable c] {a a' b b' : α} (h : R a a')
    (h' : R b b') : R (if c then a else b) (if c then a' else b') := by
  split
  · exact h
  · exact h'

/-- The signature with its line where it comes to lie. -/
def Signature.onLine (line : Int → Int) (f : Signature) : Signature :=
  { f with startLine := line f.startLine }

namespace Braces

variable {K : Correspondence} {b b' : Braces}

/-- The braces `b'` are those of the second pass. -/
structure Corresponds (K : Correspondence) (b b' : Braces) : Prop where
  depth_eq : b'.depth = b.depth
  bodies_eq : b'.bodies = b.bodies
  ledger : K.ledgers b.ledger b'.ledger

/-- A function is entered alike, with the decisions of its signature. -/
theorem Corresponds.enterFunction (h : Corresponds K b b') {f : Signature} (hf : K.begins f.startLine) :
    Corresponds K (b.enterFunction f) (b'.enterFunction (f.onLine K.line)) :=
  ⟨h.depth_eq, h.bodies_eq,
    K.recordDecisions (K.openFunction h.ledger hf f.name f.parameterCount) f.decisionCount⟩

/-- A block opens alike: it leaves the ledger as it is. -/
theorem Corresponds.openBlock (h : Corresponds K b b') : Corresponds K b.openBlock b'.openBlock :=
  ⟨congrArg (· + 1) h.depth_eq, h.bodies_eq, h.ledger⟩

/-- A body in braces opens alike. -/
theorem Corresponds.openBody (h : Corresponds K b b') {f : Signature} (hf : K.begins f.startLine) :
    Corresponds K (b.openBody f) (b'.openBody (f.onLine K.line)) := by
  refine ⟨congrArg (· + 1) h.depth_eq, ?_, (h.enterFunction hf).ledger⟩
  show ({ braceDepth := b'.depth } : Body) :: b'.bodies = { braceDepth := b.depth } :: b.bodies
  rw [h.depth_eq, h.bodies_eq]

/-- The expression of an arrow opens alike, at the same depth of brackets. -/
theorem Corresponds.openExpression (h : Corresponds K b b') {f : Signature} (hf : K.begins f.startLine)
    (bracketDepth : Nat) :
    Corresponds K (b.openExpression f bracketDepth) (b'.openExpression (f.onLine K.line) bracketDepth) := by
  refine ⟨h.depth_eq, ?_, (h.enterFunction hf).ledger⟩
  show ({ braceDepth := b'.depth, bracketDepth, isExpression := true } : Body) :: b'.bodies =
    { braceDepth := b.depth, bracketDepth, isExpression := true } :: b.bodies
  rw [h.depth_eq, h.bodies_eq]

/-- The innermost body closes alike. -/
theorem Corresponds.closeBody (h : Corresponds K b b') : Corresponds K b.closeBody b'.closeBody :=
  ⟨h.depth_eq, congrArg List.tail h.bodies_eq, K.closeFunction h.ledger⟩

/-- Bodies that are closed in a row close alike: the two passes have the same bodies, so as many close. -/
theorem Corresponds.closeWhile (h : Corresponds K b b') (p : Body → Bool) :
    Corresponds K (b.closeWhile p) (b'.closeWhile p) := by
  have hfold (bodies : List Body) {b b' : Braces} (h : Corresponds K b b') :
      Corresponds K (bodies.foldl (fun b _ => b.closeBody) b) (bodies.foldl (fun b _ => b.closeBody) b') := by
    induction bodies generalizing b b' with
    | nil => exact h
    | cons body bodies ih => exact ih h.closeBody
  rw [Braces.closeWhile, Braces.closeWhile, h.bodies_eq]
  exact hfold _ h

/-- Arrows whose expressions have ended close alike. -/
theorem Corresponds.closeExpressions (h : Corresponds K b b') (brackets : Nat) :
    Corresponds K (b.closeExpressions brackets) (b'.closeExpressions brackets) := by
  rw [Braces.closeExpressions, Braces.closeExpressions, h.depth_eq]
  exact h.closeWhile _

/-- A block closes alike, and with it a body that began at its depth. -/
theorem Corresponds.closeBlock (h : Corresponds K b b') : Corresponds K b.closeBlock b'.closeBlock := by
  unfold Braces.closeBlock
  rw [h.bodies_eq, h.depth_eq]
  split
  · split
    · exact h.closeBody
    · exact h
  · exact h

/-- A closing brace is read alike; one that closes nothing is ignored in both passes. -/
theorem Corresponds.closeBrace (h : Corresponds K b b') : Corresponds K b.closeBrace b'.closeBrace := by
  unfold Braces.closeBrace
  rw [h.depth_eq]
  split
  · exact h
  · rename_i depth _
    have hdepth : Corresponds K { b with depth } { b' with depth } := ⟨rfl, h.bodies_eq, h.ledger⟩
    exact (hdepth.closeWhile _).closeBlock

end Braces

end Cyclomatic
