import Mathlib
import Cyclomatic.Proofs.Recognizer.Pass

/-!
# Scope stacks

A recognizer keeps a stack of its own beside the open functions of the ledger: the bodies among its
braces, or the indentations of its functions. The two are always in step (`Recognizer.ScopesAgree`), for
whatever tokens it takes in, and bodies among braces are well nested.

That is why nothing is left open when a pass ends well. Outside all braces a block would have to lie
below no brace at all, so only expressions can be open, and the end of the input closes them.
-/

namespace Cyclomatic.Recognizer

/-! ## Stacks in step -/

/-- The stack of a recognizer is in step with the open functions. Among braces it is well nested, and Go
has no expression bodies in it. -/
def ScopesAgree : Recognizer → Prop
  | go s => s.braces.WellNested ∧ ∀ body ∈ s.braces.bodies, body.isExpression = false
  | script s => s.braces.WellNested
  | indent s => s.InStep

/-- A fresh recognizer has nothing on its stack. -/
theorem scopesAgree_start (language : Language) (line : Int) : (start language line).ScopesAgree := by
  cases language with
  | go => exact ⟨Braces.wellNested_of_nil rfl rfl, by simp [Go.start]⟩
  | typescript => exact Braces.wellNested_of_nil rfl rfl
  | javascript => exact Braces.wellNested_of_nil rfl rfl
  | python => rfl

/-- A change of the ledger that opens and closes nothing keeps the stacks in step. -/
theorem ScopesAgree.mapLedger {r : Recognizer} (h : r.ScopesAgree) {f : Ledger → Ledger}
    (hf : ∀ l : Ledger, (f l).depth = l.depth) : (r.mapLedger f).ScopesAgree := by
  cases r with
  | go s => exact ⟨h.1.congr rfl le_rfl (hf _), h.2⟩
  | script s => exact Braces.WellNested.congr h rfl le_rfl (hf _)
  | indent s => exact Eq.trans h (hf _).symm

/-- Reading a token keeps the stacks in step. -/
theorem ScopesAgree.read (table : DecisionTable) {r : Recognizer} (h : r.ScopesAgree) (hr : r.Sound)
    (t : Token) : (r.read table t).ScopesAgree := by
  cases r with
  | go s => exact ⟨h.1.reads (Go.read_reads table s t), Go.read_blocks table s t h.2⟩
  | script s =>
    show (s.read table t).braces.WellNested
    cases ht : t.isNewline with
    | true =>
      obtain ⟨k, hk, _⟩ := Script.readNewline_hands s t.implicit
      rw [Script.read, if_pos ht]
      exact Braces.WellNested.settles h hk
    | false =>
      obtain ⟨k, hk, _⟩ := Script.read_hands table s t hr ht
      exact Braces.WellNested.reads h hk
  | indent s =>
    show (s.read table t).InStep
    cases ht : t.isNewline with
    | true =>
      obtain ⟨_, _, _, hstep⟩ := Indent.readNewline_frame s t.implicit
      rw [Indent.read, if_pos ht]
      exact hstep h
    | false =>
      obtain ⟨_, _, _, _, hstep⟩ := Indent.read_frame table s t hr ht
      exact hstep h

theorem ScopesAgree.absorb (table : DecisionTable) {r : Recognizer} (h : r.ScopesAgree) (hr : r.Sound)
    (t : Token) : (r.absorb table t).ScopesAgree := by
  have hannounced : (r.mapLedger (·.announce t.lineSpan)).ScopesAgree := h.mapLedger fun _ => rfl
  exact (hannounced.read table (hr.announce _) t).mapLedger fun l => Ledger.credit_depth l _

theorem ScopesAgree.feed (table : DecisionTable) {r : Recognizer} (h : r.ScopesAgree) (hr : r.Sound)
    (t : Token) : (r.feed table t).ScopesAgree := by
  cases ht : t.isNewline with
  | true =>
    have hnext : (r.mapLedger Ledger.nextLine).ScopesAgree := h.mapLedger fun _ => rfl
    rw [feed_of_isNewline table r ht]
    exact hnext.read table hr.nextLine t
  | false =>
    rw [feed_of_not_isNewline table r ht]
    exact h.absorb table hr t

/-- The stacks are in step throughout a pass. -/
theorem scopesAgree_run (table : DecisionTable) {r : Recognizer} (h : r.ScopesAgree) (hr : r.Sound)
    (ts : List Token) : (r.run table ts).ScopesAgree := by
  induction ts generalizing r with
  | nil => exact h
  | cons t ts ih => exact ih (h.feed table hr t) (hr.feed table t)

/-! ## Tokens from anywhere -/

/-- Takes in a token that need not come from a text. A token that is refused still counts as taken in up
to the point where it is refused. -/
def takeIn (table : DecisionTable) (r : Recognizer) (t : Token) : Recognizer :=
  if t.isNewline then r.feed table t else (r.offer table t).1

/-- Takes in a list of tokens that need not come from a text. -/
def takeAll (table : DecisionTable) (r : Recognizer) (tokens : List Token) : Recognizer :=
  tokens.foldl (takeIn table) r

/-- A token is taken in like one from a text, unless it is refused. -/
theorem takeIn_cases (table : DecisionTable) (r : Recognizer) (t : Token) :
    r.takeIn table t = r.feed table t ∨
      ∃ s : Indent, r = indent s ∧
        r.takeIn table t = indent ((s.mapLedger (·.announce t.lineSpan)).advance t) := by
  unfold takeIn
  cases ht : t.isNewline with
  | true => exact .inl rfl
  | false =>
    rw [feed_of_not_isNewline table r ht]
    cases r with
    | go s => exact .inl rfl
    | script s => exact .inl rfl
    | indent s =>
      simp only [Bool.false_eq_true, if_false, offer]
      split
      · exact .inr ⟨s, rfl, rfl⟩
      · exact .inl rfl

/-- Taking in a token keeps states sound and the stacks in step. -/
theorem takeIn_agrees (table : DecisionTable) {r : Recognizer} (hr : r.Sound) (h : r.ScopesAgree)
    (t : Token) : (r.takeIn table t).Sound ∧ (r.takeIn table t).ScopesAgree := by
  rcases takeIn_cases table r t with htake | ⟨s, rfl, htake⟩
  · rw [htake]
    exact ⟨hr.feed table t, h.feed table hr t⟩
  · -- a refused token has been announced, and has closed the functions that its line ends
    have hs : (s.mapLedger (·.announce t.lineSpan)).Sound := Sound.announce (r := indent s) hr _
    rw [htake]
    exact ⟨Indent.advance_sound _ t hs, (Indent.advance_advances _ t hs).inStep h⟩

/-- However many tokens are taken in, states stay sound and the stacks in step. -/
theorem takeAll_agrees (table : DecisionTable) {r : Recognizer} (hr : r.Sound) (h : r.ScopesAgree)
    (ts : List Token) : (r.takeAll table ts).Sound ∧ (r.takeAll table ts).ScopesAgree := by
  induction ts generalizing r with
  | nil => exact ⟨hr, h⟩
  | cons t ts ih =>
    obtain ⟨hr', h'⟩ := takeIn_agrees table hr h t
    exact ih hr' h'

/-! ## The end -/

/-- Where stacks are in step, a pass that ends well leaves no function open. -/
theorem finish_frames_eq_nil {r : Recognizer} (hr : r.Sound) (h : r.ScopesAgree)
    (hsucc : r.finish.2 = none) : r.finish.1.ledger.frames = [] := by
  cases r with
  | go s =>
    -- the end of the input closes nothing here: there was nothing left to close
    obtain ⟨hnested, hblocks⟩ := h
    have hdepth : s.braces.depth = 0 := by
      simpa [finish, Go.finish, Braces.openAtEnd?] using hsucc
    exact hnested.frames_eq_nil (hnested.bodies_eq_nil hdepth hblocks)
  | script s =>
    obtain ⟨k, hk, _, hbodies⟩ := Script.finish_settles s hsucc
    exact (Braces.WellNested.settles h hk).frames_eq_nil (hbodies h)
  | indent s =>
    obtain ⟨reach, _, hframes⟩ := Indent.finish_settles s hr hsucc
    exact hframes h

/-- Whatever tokens a recognizer takes in, its stack is in step with the open functions, and if the pass
then ends well no function is open and none is left to close. -/
theorem scopes_agree_and_drain (language : Language) (table : DecisionTable) (line : Int)
    (tokens : List Token) :
    ((start language line).takeAll table tokens).ScopesAgree ∧
      (((start language line).takeAll table tokens).finish.2 = none →
        ((start language line).takeAll table tokens).finish.1.ledger.depth = 0 ∧
        ((start language line).takeAll table tokens).finish.1.ledger.closeAll =
          ((start language line).takeAll table tokens).finish.1.ledger) := by
  obtain ⟨hsound, hagrees⟩ :=
    takeAll_agrees table (sound_start language line) (scopesAgree_start language line) tokens
  refine ⟨hagrees, fun hsucc => ?_⟩
  have hframes := finish_frames_eq_nil hsound hagrees hsucc
  exact ⟨by rw [Ledger.depth, hframes]; rfl, Ledger.closeAll_of_frames_eq_nil hframes⟩

/-- The tokens of `f = x => g(y => x)`, with an arrow inside the body of another. -/
def nestedArrows : List Token :=
  ["f", "=", "x", "=>", "g", "(", "y", "=>", "x", ")"].map fun text => { kind := .code, text }

theorem nestedArrows_drain :
    (((start .javascript 1).takeAll .script nestedArrows).finish.2 = none ∧
      ((start .javascript 1).takeAll .script nestedArrows).ledger.depth = 1) ∧
    ((start .javascript 1).takeAll .script nestedArrows).finish.1.ledger.depth = 0 := by
  have hopen : ((start .javascript 1).takeAll .script nestedArrows).finish.2 = none ∧
      ((start .javascript 1).takeAll .script nestedArrows).ledger.depth = 1 := by
    decide
  exact ⟨hopen, ((scopes_agree_and_drain .javascript .script 1 nestedArrows).2 hopen.1).1⟩

end Cyclomatic.Recognizer
