import Mathlib
import Cyclomatic.ParameterList
import Cyclomatic.Token

/-!
# Well nested brackets

The code tokens of a text open and close brackets of three kinds. Tokens are well nested if each closing
bracket closes the innermost open one, which is of its kind, and none is left open (`WellNested`). What
happens on top of a stack of open brackets does not depend on what is below (`Brackets.afterAll_append`).
So a bracket that is open at first and closed in the end has well nested tokens between it and the bracket
that closes it (`Brackets.exists_closing`).

A recognizer that skips a part of the text counts some brackets and leaves out the others. If the first
bracket that it skips is counted, the count is 0 exactly when all of them have closed (`Brackets.Region`).
-/

namespace Cyclomatic

namespace Brackets

/-! ## Stacks of open brackets -/

/-- The opening bracket of the kind of a closing one. -/
def partner (text : String) : String :=
  if text = ")" then "(" else if text = "]" then "[" else "\x7b"

/-- The open brackets after a token, innermost first, unless it closes a bracket that is not the innermost
open one. -/
def after (stack : List String) (t : Token) : Option (List String) :=
  if t.isCode then
    if isOpening t.text then some (t.text :: stack)
    else if isClosing t.text then
      match stack with
      | top :: rest => if top = partner t.text then some rest else none
      | [] => none
    else some stack
  else some stack

/-- The open brackets after tokens. -/
def afterAll (stack : List String) (tokens : List Token) : Option (List String) :=
  tokens.foldlM after stack

variable {stack stack' : List String} {t : Token} {ts us : List Token}

@[simp] theorem afterAll_cons (stack : List String) (t : Token) (ts : List Token) :
    afterAll stack (t :: ts) = (after stack t).bind (afterAll · ts) := rfl

/-- The last token comes last. -/
theorem afterAll_concat (stack : List String) (ts : List Token) (t : Token) :
    afterAll stack (ts ++ [t]) = (afterAll stack ts).bind (after · t) := by
  simp [afterAll, List.foldlM_append]

/-- A closing bracket is no opening one. -/
theorem isOpening_of_isClosing {text : String} (h : isClosing text = true) :
    isOpening text = false := by
  simp only [isClosing, Bool.or_eq_true, beq_iff_eq] at h
  rcases h with (rfl | rfl) | rfl <;> decide

/-- What a token does to the open brackets. -/
theorem after_cases (h : after stack t = some stack') :
    (((t.isCode && isOpening t.text) = false ∧ (t.isCode && isClosing t.text) = false) ∧
        stack' = stack) ∨
      (t.isCode = true ∧ isOpening t.text = true ∧ stack' = t.text :: stack) ∨
      (t.isCode = true ∧ isClosing t.text = true ∧ stack = partner t.text :: stack') := by
  unfold after at h
  cases hcode : t.isCode with
  | false =>
    rw [hcode, if_neg (by simp)] at h
    exact .inl ⟨⟨rfl, rfl⟩, (Option.some.inj h).symm⟩
  | true =>
    rw [hcode, if_pos rfl] at h
    split at h
    · exact .inr (.inl ⟨rfl, ‹_›, (Option.some.inj h).symm⟩)
    · rename_i hopening
      split at h
      · rename_i hclosing
        split at h
        · split at h
          · rename_i hpartner
            obtain rfl := Option.some.inj h
            exact .inr (.inr ⟨rfl, hclosing, by rw [hpartner]⟩)
          · cases h
        · cases h
      · rename_i hclosing
        exact .inl ⟨by simp [hopening, hclosing], (Option.some.inj h).symm⟩

/-- A token that is no bracket leaves the stack as it is. -/
theorem after_of_neutral (stack : List String)
    (h : (t.isCode && isOpening t.text) = false ∧ (t.isCode && isClosing t.text) = false) :
    after stack t = some stack := by
  unfold after
  split
  · simp_all
  · rfl

/-- An opening bracket goes on the stack. -/
theorem after_of_isOpening (stack : List String) (hcode : t.isCode = true)
    (h : isOpening t.text = true) : after stack t = some (t.text :: stack) := by
  unfold after
  rw [if_pos hcode, if_pos h]

theorem after_of_isClosing (stack : List String) (hcode : t.isCode = true)
    (h : isClosing t.text = true) : after (partner t.text :: stack) t = some stack := by
  unfold after
  rw [if_pos hcode, if_neg (by simp [isOpening_of_isClosing h]), if_pos h]
  exact if_pos rfl

end Brackets

/-- Tokens are well nested if each closing bracket closes the innermost open one of its kind and none is
left open. -/
def WellNested (tokens : List Token) : Prop :=
  Brackets.afterAll [] tokens = some []

instance (tokens : List Token) : Decidable (WellNested tokens) :=
  inferInstanceAs (Decidable (_ = _))

namespace Brackets

/-- What happens on top of a stack does not depend on what is below. -/
theorem afterAll_append (h : afterAll stack ts = some stack') (below : List String) :
    afterAll (stack ++ below) ts = some (stack' ++ below) := by
  induction ts generalizing stack with
  | nil =>
    obtain rfl := Option.some.inj h
    rfl
  | cons t ts ih =>
    rw [afterAll_cons] at h ⊢
    obtain ⟨next, hnext, hrest⟩ := Option.bind_eq_some_iff.1 h
    suffices hbelow : after (stack ++ below) t = some (next ++ below) by
      rw [hbelow]
      exact ih hrest
    rcases after_cases hnext with ⟨hneutral, rfl⟩ | ⟨hcode, hopening, rfl⟩ | ⟨hcode, hclosing, rfl⟩
    · exact after_of_neutral _ hneutral
    · exact after_of_isOpening _ hcode hopening
    · exact after_of_isClosing _ hcode hclosing

/-- A bracket that is open at first and closed in the end is closed by one of the tokens, and what stands
before that is well nested, but for the brackets that were open above it. -/
theorem exists_closing {b : String} {below below' : List String}
    (h : afterAll (stack ++ b :: below) ts = some below') (hlength : below'.length ≤ below.length) :
    ∃ inner t rest, ts = inner ++ t :: rest ∧ afterAll stack inner = some [] ∧ t.isCode = true ∧
      isClosing t.text = true ∧ b = partner t.text ∧ afterAll below rest = some below' := by
  induction ts generalizing stack with
  | nil =>
    obtain rfl := Option.some.inj h
    simp only [List.length_append, List.length_cons] at hlength
    omega
  | cons t ts ih =>
    rw [afterAll_cons] at h
    obtain ⟨next, hnext, hrest⟩ := Option.bind_eq_some_iff.1 h
    rcases after_cases hnext with ⟨hneutral, rfl⟩ | ⟨hcode, hopening, rfl⟩ | ⟨hcode, hclosing, hpop⟩
    · obtain ⟨inner, c, rest, rfl, hinner, hc⟩ := ih hrest
      refine ⟨t :: inner, c, rest, rfl, ?_, hc⟩
      rw [afterAll_cons, after_of_neutral _ hneutral]
      exact hinner
    · obtain ⟨inner, c, rest, rfl, hinner, hc⟩ := @ih (t.text :: stack) hrest
      refine ⟨t :: inner, c, rest, rfl, ?_, hc⟩
      rw [afterAll_cons, after_of_isOpening _ hcode hopening]
      exact hinner
    · cases stack with
      | nil =>
        obtain ⟨hb, rfl⟩ := List.cons_eq_cons.1 hpop
        exact ⟨[], t, ts, rfl, rfl, hcode, hclosing, hb, hrest⟩
      | cons top stack =>
        obtain ⟨rfl, rfl⟩ := List.cons_eq_cons.1 hpop
        obtain ⟨inner, c, rest, rfl, hinner, hc⟩ := ih hrest
        refine ⟨t :: inner, c, rest, rfl, ?_, hc⟩
        rw [afterAll_cons, after_of_isClosing _ hcode hclosing]
        exact hinner

/-- The opening brace at a place and the closing brace at a later one belong together: the tokens strictly
between them are well nested. -/
structure Matches (tokens : List Token) (opening closing : Nat) : Prop where
  lt : opening < closing
  isOpening : ∃ t, tokens[opening]? = some t ∧ t.isCode = true ∧ t.text = "\x7b"
  isClosing : ∃ t, tokens[closing]? = some t ∧ t.isCode = true ∧ t.text = "\x7d"
  between : WellNested ((tokens.take closing).drop (opening + 1))

/-! ## Skipped regions -/

/-- The brackets of a region that is being skipped, when `counts` says which of them are counted and
`depth` is their number. The outermost is always counted. -/
structure Region (counts : String → Bool) (depth : Nat) (stack : List String) : Prop where
  depth_eq : depth = stack.countP counts
  outermost : ∀ b ∈ stack.getLast?, counts b = true

variable {counts : String → Bool} {depth : Nat} {b : String}

theorem Region.nil (counts : String → Bool) : Region counts 0 [] :=
  ⟨rfl, by simp⟩

/-- A region whose count is 0 has been left. -/
theorem Region.eq_nil (h : Region counts 0 stack) : stack = [] := by
  cases hlast : stack.getLast? with
  | none => exact List.getLast?_eq_none_iff.1 hlast
  | some b =>
    have hzero := List.countP_eq_zero.1 h.depth_eq.symm b (List.mem_of_getLast? hlast)
    exact absurd (h.outermost b hlast) hzero

/-- A counted bracket that opens is counted. -/
theorem Region.push (h : Region counts depth stack) (hb : counts b = true) :
    Region counts (depth + 1) (b :: stack) := by
  refine ⟨by rw [h.depth_eq, List.countP_cons_of_pos hb], ?_⟩
  cases stack with
  | nil =>
    intro c hc
    obtain rfl := Option.some.inj hc
    exact hb
  | cons c stack => simpa using h.outermost

/-- Inside a region other brackets are passed over. -/
theorem Region.push_ignored (h : Region counts depth stack) (hdepth : depth ≠ 0)
    (hb : counts b = false) : Region counts depth (b :: stack) := by
  cases stack with
  | nil => exact absurd h.depth_eq hdepth
  | cons c stack =>
    refine ⟨by rw [List.countP_cons_of_neg (by simp [hb]), h.depth_eq], ?_⟩
    simpa using h.outermost

/-- A counted bracket that closes is counted too. -/
theorem Region.pop (h : Region counts depth (b :: stack)) (hb : counts b = true) :
    Region counts (depth - 1) stack := by
  refine ⟨by rw [h.depth_eq, List.countP_cons_of_pos hb, Nat.add_sub_cancel], ?_⟩
  cases stack with
  | nil => simp
  | cons c stack => simpa using h.outermost

/-- Any other bracket that closes was passed over when it opened. -/
theorem Region.pop_ignored (h : Region counts depth (b :: stack)) (hb : counts b = false) :
    Region counts depth stack := by
  refine ⟨by rw [h.depth_eq, List.countP_cons_of_neg (by simp [hb])], ?_⟩
  cases stack with
  | nil => simp
  | cons c stack => simpa using h.outermost

end Brackets

end Cyclomatic
