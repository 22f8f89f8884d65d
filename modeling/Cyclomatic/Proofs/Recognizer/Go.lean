import Mathlib
import Cyclomatic.Proofs.Braces
import Cyclomatic.Proofs.Token
import Cyclomatic.Recognizer.Go

/-!
# Readings of Go tokens

Whatever the phase, a Go token does one of four things to the braces: nothing, an opening brace of no
function, the opening brace of a body, or a closing brace (`Go.Move`). A decision token is then counted
at once. So every token is a reading of the braces, and all bodies are blocks.
-/

namespace Cyclomatic.Recognizer.Go

/-- What a code token can do to the braces, where `first` and `next` are the lines on which the signature
begins before and after it: that line stays, or becomes the present one. A body that opens belongs to the
signature that has been read. -/
inductive Move (first : Int) (b : Braces) : Int → Braces → Prop
  | stay {next : Int} (h : next = first ∨ next = b.ledger.line) : Move first b next b
  | openBlock {next : Int} (h : next = first ∨ next = b.ledger.line) : Move first b next b.openBlock
  | closeBrace {next : Int} (h : next = first ∨ next = b.ledger.line) : Move first b next b.closeBrace
  | openBody (name : String) (parameterCount : Int) :
      Move first b b.ledger.line (b.openBody ⟨name, parameterCount, first, 0⟩)

/-- A step from one state to another that does one of the four things to the braces. -/
def Moves (s s' : Go) : Prop :=
  Move s.signature.startLine s.braces s'.signature.startLine s'.braces

/-- A step inside a signature. -/
theorem Moves.stay {s s' : Go} (hbraces : s'.braces = s.braces)
    (hfirst : s'.signature.startLine = s.signature.startLine) : Moves s s' := by
  rw [Moves, hbraces]
  exact .stay (.inl hfirst)

theorem openBody_moves (s : Go) : Moves s s.openBody :=
  .openBody _ _

/-- A token outside signatures, in a state that may be fresh. -/
theorem outside_moves {s r : Go} (hbraces : s.braces = r.braces)
    (hfirst : s.signature.startLine = r.signature.startLine ∨
      s.signature.startLine = r.braces.ledger.line) (text : String) :
    Moves r (s.outside text) := by
  unfold Moves outside
  rw [← hbraces] at hfirst ⊢
  split
  · exact .stay (.inr rfl)
  · split
    · exact .openBlock hfirst
    · split
      · exact .closeBrace hfirst
      · exact .stay hfirst

theorem abandon_moves (s : Go) (text : String) : Moves s (s.abandon text) :=
  outside_moves (s := s.reset) (r := s) rfl (.inr rfl) text

theorem feedParameters_moves (s : Go) (text : String) (next : GoPhase) :
    Moves s (s.feedParameters text next) := by
  unfold feedParameters
  dsimp only
  split <;> exact .stay rfl rfl

theorem afterFunc_moves (s : Go) (text : String) : Moves s (s.afterFunc text) := by
  unfold afterFunc
  split
  · exact .stay rfl rfl
  · split
    · exact .stay rfl rfl
    · split
      · exact openBody_moves s
      · exact abandon_moves s text

theorem afterName_moves (s : Go) (text : String) : Moves s (s.afterName text) := by
  unfold afterName
  split
  · exact .stay rfl rfl
  · split
    · exact .stay rfl rfl
    · exact abandon_moves s text

theorem typeParameters_moves (s : Go) (text : String) : Moves s (s.typeParameters text) := by
  unfold typeParameters
  split
  · exact .stay rfl rfl
  · split <;> exact .stay rfl rfl

/-- The results end with a body, or without one at a token that is read outside. -/
theorem results_moves (s : Go) (text : String) : Moves s (s.results text) := by
  unfold results
  dsimp only
  split
  · -- inside a type with braces
    split
    · exact .stay rfl rfl
    · split <;> exact .stay rfl rfl
  · split
    · exact .stay rfl rfl
    · split
      · split
        · exact .stay rfl rfl
        · split
          · exact openBody_moves s
          · exact .stay rfl rfl
      · split
        · exact .stay rfl rfl
        · split
          · exact .stay rfl rfl
          · split
            · exact abandon_moves s text
            · exact .stay rfl rfl

theorem afterFirstGroup_moves (s : Go) (text : String) : Moves s (s.afterFirstGroup text) := by
  unfold afterFirstGroup
  split
  · exact openBody_moves s
  · split
    · exact .stay rfl rfl
    · exact results_moves { s with phase := .results } text

theorem afterCandidate_moves (s : Go) (text : String) : Moves s (s.afterCandidate text) := by
  unfold afterCandidate
  split
  · exact .stay rfl rfl
  · split
    · exact openBody_moves s
    · exact results_moves { s with phase := .results } text

/-- In every phase a code token makes one of the four moves. -/
theorem readCode_moves (s : Go) (text : String) : Moves s (s.readCode text) := by
  unfold readCode
  cases s.phase with
  | outside => exact outside_moves rfl (.inl rfl) text
  | afterFunc => exact afterFunc_moves s text
  | afterName => exact afterName_moves s text
  | typeParameters => exact typeParameters_moves s text
  | firstGroup => exact feedParameters_moves s text .afterFirstGroup
  | afterFirstGroup => exact afterFirstGroup_moves s text
  | afterCandidate => exact afterCandidate_moves s text
  | parameters => exact feedParameters_moves s text .results
  | results => exact results_moves s text

/-! ## Readings -/

/-- A move counts no decision. -/
theorem Move.reads {first next : Int} {b c : Braces} (h : Move first b next c) :
    Braces.Reads 0 b c := by
  cases h with
  | stay => exact .settles (.refl b)
  | openBlock => exact .settles (Braces.Settles.refl b).openBlock
  | closeBrace => exact .settles (Braces.Settles.refl b).closeBrace
  | openBody name parameterCount =>
    exact Braces.reads_openBody b ⟨name, parameterCount, first, 0⟩

/-- A line break leaves the braces as they are. -/
theorem readNewline_braces (s : Go) (implicit : Bool) :
    (s.readNewline implicit).braces = s.braces := by
  unfold readNewline
  split <;> rfl

/-- A token is a reading that counts the token itself if it is a decision. -/
theorem read_reads (table : DecisionTable) (s : Go) (t : Token) :
    Braces.Reads (if t.isCode && table.decides t.text then 1 else 0) s.braces
      (s.read table t).braces := by
  unfold read
  by_cases hn : t.isNewline = true
  · rw [if_pos hn, Token.isCode_of_isNewline hn, readNewline_braces]
    exact .settles (.refl _)
  · rw [if_neg hn]
    cases hcode : t.isCode with
    | false => exact .settles (.refl _)
    | true =>
      have hread := Move.reads (readCode_moves s t.text)
      cases hdec : table.decides t.text with
      | false => simpa [hdec] using hread
      | true =>
        simpa [hdec, mapLedger, Braces.record] using
          hread.trans_settles (Braces.settles_record _ 1)

/-! ## Blocks only -/

/-- A move opens no expression body. -/
theorem Move.blocks {first next : Int} {b c : Braces} (h : Move first b next c)
    (hb : ∀ body ∈ b.bodies, body.isExpression = false) :
    ∀ body ∈ c.bodies, body.isExpression = false := by
  cases h with
  | stay => exact hb
  | openBlock => exact hb
  | closeBrace =>
    intro body hbody
    exact hb body (Braces.closeBrace_bodies_suffix b |>.subset hbody)
  | openBody name parameterCount =>
    intro body hbody
    rcases List.mem_cons.1 hbody with rfl | hbody
    · rfl
    · exact hb body hbody

/-- Go has no expression bodies. -/
theorem read_blocks (table : DecisionTable) (s : Go) (t : Token)
    (hs : ∀ body ∈ s.braces.bodies, body.isExpression = false) :
    ∀ body ∈ (s.read table t).braces.bodies, body.isExpression = false := by
  unfold read
  split
  · rw [readNewline_braces]
    exact hs
  · split
    · have hread := Move.blocks (readCode_moves s t.text) hs
      dsimp only
      split
      · exact hread
      · exact hread
    · exact hs

end Cyclomatic.Recognizer.Go
