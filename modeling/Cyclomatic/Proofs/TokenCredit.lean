import Mathlib
import Cyclomatic.Proofs.Analysis
import Cyclomatic.Proofs.Ledger.Row
import Cyclomatic.Proofs.LineSynchrony
import Cyclomatic.Proofs.Recognizer.Pass

/-!
# The credit of tokens

Each token of a pass is credited once. The functions that it may belong to stand in a row: those that it
closes, innermost first, and then those that are open after it, innermost first. If one that it closes
does not end before the token's line, the token belongs to the first of the row; otherwise it belongs to
the first that stays open, and to none if there is none (`Recognizer.creditedTo`).

That nothing else changes a count is said by `Ledger.Settles.accounts` of the functions that close, by
`Recognizer.feed_row` of a token and by `Recognizer.feed_newline_accounts` of a line break.
-/

namespace Cyclomatic

/-! ## Accounts -/

/-- A function, open or closed, with the number of its tokens. -/
structure Account where
  name : String
  startLine : Int
  tokenCount : Int
deriving DecidableEq, Repr

/-- An account with one token more. -/
def Account.credit (x : Account) : Account :=
  { x with tokenCount := x.tokenCount + 1 }

/-- The account of an open function. -/
def Frame.account (f : Frame) : Account :=
  ⟨f.name, f.startLine, f.tokenCount⟩

/-- The account of a closed function. -/
def FunctionMeasure.account (f : FunctionMeasure) : Account :=
  ⟨f.name, f.startLine, f.tokenCount⟩

/-- A credit in a row of accounts is one token more, if the row is long enough. -/
theorem sum_modify_credit (xs : List Account) (i : Nat) :
    ((xs.modify i Account.credit).map (·.tokenCount)).sum =
      (xs.map (·.tokenCount)).sum + (decide (i < xs.length)).toNat := by
  induction xs generalizing i with
  | nil => simp
  | cons x xs ih =>
    cases i with
    | zero => simp [Account.credit]; omega
    | succ i => simp [ih]; omega

/-- A change at the end of a row is one at the beginning of the next. -/
theorem modify_length_append {α : Type} (f : α → α) (xs ys : List α) :
    (xs ++ ys).modify xs.length f = xs ++ ys.modify 0 f := by
  rw [List.modify_eq_take_drop, List.take_left, List.drop_left, List.modifyHead_eq_modify_zero]

/-- No account of a row has less after a credit. -/
theorem forall_modify_credit {xs : List Account} {bound : Int} (h : ∀ x ∈ xs, bound ≤ x.tokenCount)
    (i : Nat) : ∀ x ∈ xs.modify i Account.credit, bound ≤ x.tokenCount := by
  induction xs generalizing i with
  | nil => simp
  | cons x xs ih =>
    have hx := h x List.mem_cons_self
    have hxs := fun y hy => h y (List.mem_cons_of_mem x hy)
    intro y hy
    cases i with
    | zero =>
      rcases List.mem_cons.1 hy with rfl | hy
      · simp only [Account.credit]
        omega
      · exact hxs y hy
    | succ i =>
      rcases List.mem_cons.1 hy with rfl | hy
      · exact hx
      · exact ih hxs i y hy

namespace Ledger

/-- The accounts of all functions, closed and open. -/
def accounts (l : Ledger) : List Account :=
  l.functions.map (·.account) ++ l.frames.map (·.account)

variable {reach claims : Bool} {n : Nat} {l m : Ledger}

@[simp] theorem map_account_recordDecisions (l : Ledger) (count : Int) :
    (l.recordDecisions count).frames.map (·.account) = l.frames.map (·.account) :=
  map_frames_recordDecisions l count _ fun _ _ => rfl

/-- A function that opens has no tokens yet. -/
theorem map_account_openFunction (l : Ledger) (name : String) (params : Int) (start : Option Int) :
    ∃ name' start', (l.openFunction name params start).frames.map (·.account) =
      ⟨name', start', 0⟩ :: l.frames.map (·.account) :=
  ⟨_, _, rfl⟩

/-- The functions that close keep their accounts, but for the first of them if it claims the announced
token, which it does not share with the others. `claims` tells whether the functions that close claim
it. -/
theorem Settles.accounts (h : Settles reach n l m)
    (hclaims : ∀ last, decide (l.line ≤ last) = reach →
      (l.pending.claimedBy last).isSome = claims) :
    ∃ closing, m.functions = l.functions ++ closing ∧
      (∀ f ∈ closing, decide (l.line ≤ f.endLine) = reach) ∧
      m.pending = (if claims && !closing.isEmpty then .settled else l.pending) ∧
      closing.map (·.account) ++ m.frames.map (·.account) =
        if claims && !closing.isEmpty then (l.frames.map (·.account)).modify 0 Account.credit
        else l.frames.map (·.account) := by
  -- a token that is claimed is always the announced one
  obtain ⟨first, span, hclaims'⟩ : ∃ first span, ∀ last, decide (l.line ≤ last) = reach →
      l.pending.claimedBy last = if claims then some (first, span) else none := by
    cases hpending : l.pending with
    | announced first span =>
      refine ⟨first, span, fun last hlast => ?_⟩
      have hsome := hclaims last hlast
      rw [hpending, PendingToken.claimedBy] at hsome
      rw [PendingToken.claimedBy, ← hsome]
      by_cases hle : first ≤ last <;> simp [hle]
    | idle =>
      refine ⟨0, 0, fun last hlast => ?_⟩
      rw [← hclaims last hlast, hpending]
      rfl
    | settled =>
      refine ⟨0, 0, fun last hlast => ?_⟩
      rw [← hclaims last hlast, hpending]
      rfl
  obtain ⟨closing, hrow⟩ := h.row hclaims'
  have hempty : (closing.map fun c => c.1.measure c.2).isEmpty = closing.isEmpty := by
    cases closing <;> rfl
  refine ⟨closing.map fun c => c.1.measure c.2, hrow.functions_eq, ?_, ?_, ?_⟩
  · intro f hf
    obtain ⟨c, hc, rfl⟩ := List.mem_map.1 hf
    exact hrow.reaches c hc
  · rw [hempty]
    exact hrow.pending_eq
  · -- an account is a view of the frame without its decisions
    have haccounts := congrArg (List.map Frame.account) hrow.row_eq
    rw [apply_ite (List.map Frame.account), List.map_append, List.map_map, List.map_map] at haccounts
    rw [hempty, List.map_map]
    refine haccounts.trans ?_
    congr 1
    · cases l.frames with
      | nil => rfl
      | cons f fs => simp [Frame.account, Frame.undecided, Frame.credit, Account.credit]
    · rw [List.map_map]
      rfl

/-- Where no token is announced, closing functions changes no account. -/
theorem Settles.accounts_eq (h : Settles reach n l m) (hl : l.pending = .idle) :
    m.accounts = l.accounts ∧ m.pending = .idle := by
  have hclaims (last : Int) (_ : decide (l.line ≤ last) = reach) :
      (l.pending.claimedBy last).isSome = false := by
    rw [hl]
    rfl
  obtain ⟨closing, hfunctions, _, hpending, haccounts⟩ := h.accounts hclaims
  simp only [Bool.false_and, Bool.false_eq_true, if_false] at hpending haccounts
  refine ⟨?_, hpending.trans hl⟩
  rw [Ledger.accounts, hfunctions, List.map_append, List.append_assoc, haccounts, Ledger.accounts]

/-! ## The credit of one token -/

/-- The place of the account that a token on `line` is credited to, among those of the functions that it
closes and those that stay open. -/
def creditPlace (line : Int) (closing : List FunctionMeasure) : Nat :=
  if closing.any (fun f => decide (line ≤ f.endLine)) then 0 else closing.length

/-- Functions that reach the line of the token give it to the first. -/
theorem creditPlace_eq_zero {line : Int} {closing : List FunctionMeasure}
    (h : ∀ f ∈ closing, decide (line ≤ f.endLine) = true) : creditPlace line closing = 0 := by
  cases closing with
  | nil => rfl
  | cons f fs => simp [creditPlace, of_decide_eq_true (h f List.mem_cons_self)]

@[simp] theorem credit_pending (l : Ledger) (lineSpan : Int) : (l.credit lineSpan).pending = .idle := by
  unfold credit
  dsimp only
  split <;> rfl

/-- A credit is one token more for the innermost open function, unless the token is settled. -/
theorem map_account_credit (l : Ledger) (lineSpan : Int) :
    (l.credit lineSpan).frames.map (·.account) =
      if l.pending = .settled then l.frames.map (·.account)
      else (l.frames.map (·.account)).modify 0 Account.credit := by
  have hinnermost (m : Ledger) (first : Int) (span : Nat) :
      (m.creditInnermost first span).frames.map (·.account) =
        (m.frames.map (·.account)).modify 0 Account.credit := by
    unfold creditInnermost
    cases hm : m.frames with
    | nil => simp
    | cons f fs => simp [Frame.account, Frame.credit, Account.credit]
  unfold credit
  dsimp only
  cases hl : l.pending with
  | idle => simpa using hinnermost _ _ _
  | announced first span => simpa using hinnermost _ _ _
  | settled => simp

/-- A token that closes functions is credited to the first of them if they reach its line, and otherwise
to the first that stays open. -/
theorem Settles.credit_accounts (h : Settles reach n l m) {span : Nat}
    (hl : l.pending = .announced l.line span) :
    ∃ closing, m.credit.functions = l.functions ++ closing ∧
      (∀ f ∈ closing, decide (l.line ≤ f.endLine) = reach) ∧
      closing.map (·.account) ++ m.credit.frames.map (·.account) =
        (l.frames.map (·.account)).modify (creditPlace l.line closing) Account.credit := by
  have hclaims (last : Int) (hlast : decide (l.line ≤ last) = reach) :
      (l.pending.claimedBy last).isSome = reach := by
    rw [hl, ← hlast, PendingToken.claimedBy]
    by_cases hle : l.line ≤ last <;> simp [hle]
  obtain ⟨closing, hfunctions, hreach, hpending, haccounts⟩ := h.accounts hclaims
  refine ⟨closing, by rw [credit_functions, hfunctions], hreach, ?_⟩
  have hany : closing.any (fun f => decide (l.line ≤ f.endLine)) = (reach && !closing.isEmpty) := by
    cases closing with
    | nil => simp
    | cons f fs =>
      rw [Bool.eq_iff_iff, List.any_eq_true]
      constructor
      · rintro ⟨g, hg, hle⟩
        rw [← hreach g hg, hle]
        rfl
      · intro hr
        exact ⟨f, List.mem_cons_self, by rw [hreach f List.mem_cons_self]; simpa using hr⟩
  rw [map_account_credit, creditPlace, hany, hpending]
  cases hc : reach && !closing.isEmpty with
  | true =>
    rw [hc] at haccounts
    simpa using haccounts
  | false =>
    rw [hc] at haccounts
    simp only [Bool.false_eq_true, if_false] at haccounts ⊢
    have hlength : closing.length = (closing.map (·.account)).length := by rw [List.length_map]
    rw [hl, if_neg (by simp), ← haccounts, hlength, modify_length_append]

/-- A token that is announced, read and credited belongs to one function at most; the row of functions
begins with the one that the token opens, if it opens one. -/
theorem Reads.credit_accounts {lineSpan : Int} (h : Reads reach n (l.announce lineSpan) m) :
    ∃ (closing : List FunctionMeasure) (opened : List Account),
      m.credit.functions = l.functions ++ closing ∧
      (opened = [] ∨ ∃ name start, opened = [⟨name, start, 0⟩] ∧ creditPlace l.line closing = 0) ∧
      closing.map (·.account) ++ m.credit.frames.map (·.account) =
        (opened ++ l.frames.map (·.account)).modify (creditPlace l.line closing) Account.credit := by
  cases h with
  | settles h =>
    obtain ⟨closing, hfunctions, _, haccounts⟩ := h.credit_accounts rfl
    exact ⟨closing, [], hfunctions, .inl rfl, haccounts⟩
  | @opens before _ _ _ name params start h =>
    have hpending : (((l.announce lineSpan).recordDecisions before).openFunction name params
        start).pending = .announced l.line (extraLines lineSpan) := by
      rw [openFunction_pending, recordDecisions_pending]
      rfl
    have hline : (((l.announce lineSpan).recordDecisions before).openFunction name params
        start).line = l.line := by
      rw [openFunction_line, recordDecisions_line, announce_line]
    rw [← hline] at hpending
    obtain ⟨closing, hfunctions, hreach, haccounts⟩ := h.credit_accounts hpending
    rw [openFunction_functions, recordDecisions_functions] at hfunctions
    rw [hline] at hreach haccounts
    obtain ⟨name', start', hopen⟩ :=
      map_account_openFunction ((l.announce lineSpan).recordDecisions before) name params start
    rw [hopen, map_account_recordDecisions] at haccounts
    exact ⟨closing, [⟨name', start', 0⟩], hfunctions,
      .inr ⟨name', start', rfl, creditPlace_eq_zero hreach⟩, haccounts⟩

end Ledger

namespace Recognizer

/-- The functions that a token closes, innermost first. -/
def closedBy (table : DecisionTable) (r : Recognizer) (t : Token) : List FunctionMeasure :=
  (r.feed table t).ledger.functions.drop r.ledger.functions.length

/-- The functions that a token closes, when the functions after it are known. -/
theorem closedBy_eq (table : DecisionTable) {r : Recognizer} {t : Token}
    {closing : List FunctionMeasure}
    (h : (r.feed table t).ledger.functions = r.ledger.functions ++ closing) :
    r.closedBy table t = closing := by
  rw [closedBy, h, List.drop_left]

/-- The place of the function that a token is credited to: the first of those that it closes, if one of
these does not end before the token's line, and otherwise the first of those that are open after it. -/
def creditedTo (table : DecisionTable) (r : Recognizer) (t : Token) : Nat :=
  Ledger.creditPlace t.line (r.closedBy table t)

/-- A token is one token more for the function that it is credited to, and for no other. -/
theorem feed_row (table : DecisionTable) {r : Recognizer} (hr : r.Sound) {t : Token}
    (ht : t.isNewline = false) (hline : r.ledger.line = t.line) :
    (r.feed table t).ledger.functions = r.ledger.functions ++ r.closedBy table t ∧
    ∃ opened : List Account,
      (opened = [] ∨ ∃ name start, opened = [⟨name, start, 0⟩] ∧ r.creditedTo table t = 0) ∧
      (r.closedBy table t).map (·.account) ++ (r.feed table t).ledger.frames.map (·.account) =
        (opened ++ r.ledger.frames.map (·.account)).modify (r.creditedTo table t) Account.credit := by
  obtain ⟨reach, k, m, hreads, hm, _⟩ := absorb_reads table hr ht
  obtain ⟨closing, opened, hfunctions, hopened, haccounts⟩ := hreads.credit_accounts
  have hfeed : (r.feed table t).ledger = m.credit := by rw [feed_of_not_isNewline table r ht, hm]
  have hclosed : r.closedBy table t = closing := by
    rw [closedBy, hfeed, hfunctions, List.drop_left]
  rw [creditedTo, hclosed, hfeed, ← hline]
  exact ⟨hfunctions, opened, hopened, haccounts⟩

/-- The accounts after a token: those of the functions that had closed, and then the row in which the
token is credited. -/
theorem accounts_feed (table : DecisionTable) {r : Recognizer} (hr : r.Sound) {t : Token}
    (ht : t.isNewline = false) (hline : r.ledger.line = t.line) :
    ∃ opened : List Account,
      (opened = [] ∨ ∃ name start, opened = [⟨name, start, 0⟩] ∧ r.creditedTo table t = 0) ∧
      (r.feed table t).ledger.accounts = r.ledger.functions.map (·.account) ++
        (opened ++ r.ledger.frames.map (·.account)).modify (r.creditedTo table t) Account.credit ∧
      (r.closedBy table t).length + (r.feed table t).ledger.depth =
        (opened ++ r.ledger.frames.map (·.account)).length := by
  obtain ⟨hfunctions, opened, hopened, haccounts⟩ := feed_row table hr ht hline
  refine ⟨opened, hopened, ?_, ?_⟩
  · rw [Ledger.accounts, hfunctions, List.map_append, List.append_assoc, haccounts]
  · have hlength := congrArg List.length haccounts
    rw [List.length_append, List.length_map, List.length_map, List.length_modify] at hlength
    exact hlength

/-- A line break is credited to no function. -/
theorem feed_newline_accounts (table : DecisionTable) {r : Recognizer}
    (hidle : r.ledger.pending = .idle) {t : Token} (ht : t.isNewline = true) :
    (r.feed table t).ledger.accounts = r.ledger.accounts ∧
      (r.feed table t).ledger.pending = .idle := by
  obtain ⟨k, hsettles, _⟩ := feed_newline_settles table r ht
  exact hsettles.accounts_eq hidle

/-- What it means that a token is credited once. A line break changes no account. Any other token is one
token more for the function that it is credited to, in the row of those that it closes and those that are
open after it, and changes no other account; a function that it opens begins with no tokens. -/
def CreditsOnce (table : DecisionTable) (r : Recognizer) (t : Token) : Prop :=
  if t.isNewline then (r.feed table t).ledger.accounts = r.ledger.accounts
  else
    (r.feed table t).ledger.functions = r.ledger.functions ++ r.closedBy table t ∧
    ∃ opened : List Account, (opened = [] ∨ ∃ name start, opened = [⟨name, start, 0⟩]) ∧
      (r.closedBy table t).map (·.account) ++ (r.feed table t).ledger.frames.map (·.account) =
        (opened ++ r.ledger.frames.map (·.account)).modify (r.creditedTo table t) Account.credit

theorem creditsOnce (table : DecisionTable) {r : Recognizer} (hr : r.Sound)
    (hidle : r.ledger.pending = .idle) {t : Token}
    (hline : t.isNewline = false → r.ledger.line = t.line) : r.CreditsOnce table t := by
  unfold CreditsOnce
  cases ht : t.isNewline with
  | true => exact (feed_newline_accounts table hidle ht).1
  | false =>
    obtain ⟨hfunctions, opened, hopened, haccounts⟩ := feed_row table hr ht (hline ht)
    refine ⟨hfunctions, opened, ?_, haccounts⟩
    rcases hopened with hnil | ⟨name, start, hopened, _⟩
    · exact .inl hnil
    · exact .inr ⟨name, start, hopened⟩

/-- No token is announced between two tokens. -/
theorem pending_feed (table : DecisionTable) {r : Recognizer} (hr : r.Sound)
    (hidle : r.ledger.pending = .idle) (t : Token) : (r.feed table t).ledger.pending = .idle := by
  cases ht : t.isNewline with
  | true => exact (feed_newline_accounts table hidle ht).2
  | false =>
    obtain ⟨reach, k, m, _, hm, _⟩ := absorb_reads table hr ht
    rw [feed_of_not_isNewline table r ht, hm, Ledger.credit_pending]

theorem pending_run (table : DecisionTable) {r : Recognizer} (hr : r.Sound)
    (hidle : r.ledger.pending = .idle) (ts : List Token) :
    (r.run table ts).ledger.pending = .idle := by
  induction ts generalizing r with
  | nil => exact hidle
  | cons t ts ih => exact ih (hr.feed table t) (pending_feed table hr hidle t)

/-! ## The credits of a pass -/

/-- Whether a token is credited to no function: the place of its function lies beyond all functions that
it closes or that are open after it. -/
def isUncredited (table : DecisionTable) (r : Recognizer) (t : Token) : Bool :=
  !t.isNewline &&
    decide ((r.closedBy table t).length + (r.feed table t).ledger.depth ≤ r.creditedTo table t)

/-- The number of tokens that a pass credits to no function. -/
def uncreditedTokens (table : DecisionTable) : Recognizer → List Token → Nat
  | _, [] => 0
  | r, t :: ts => (r.isUncredited table t).toNat + uncreditedTokens table (r.feed table t) ts

/-- Every function has a token. -/
def EachCredited (l : Ledger) : Prop :=
  ∀ x ∈ l.accounts, 1 ≤ x.tokenCount

/-- A function that opens is credited with the token that opens it. -/
theorem eachCredited_feed (table : DecisionTable) {r : Recognizer} (hr : r.Sound)
    (h : EachCredited r.ledger) {t : Token} (ht : t.isNewline = false)
    (hline : r.ledger.line = t.line) : EachCredited (r.feed table t).ledger := by
  obtain ⟨opened, hopened, haccounts, _⟩ := accounts_feed table hr ht hline
  have hframes : ∀ x ∈ r.ledger.frames.map (·.account), 1 ≤ x.tokenCount :=
    fun x hx => h x (List.mem_append_right _ hx)
  intro x hx
  rw [haccounts, List.mem_append] at hx
  rcases hx with hx | hx
  · exact h x (List.mem_append_left _ hx)
  · rcases hopened with rfl | ⟨name, start, rfl, hplace⟩
    · exact forall_modify_credit hframes _ x hx
    · -- the new function is the first of the row, and the token is its own
      rw [hplace] at hx
      rcases List.mem_cons.1 hx with rfl | hx
      · exact le_rfl
      · exact hframes x hx

/-- A token is one token more in all, unless it is credited to no function. -/
theorem sum_feed (table : DecisionTable) {r : Recognizer} (hr : r.Sound) {t : Token}
    (ht : t.isNewline = false) (hline : r.ledger.line = t.line) :
    ((r.feed table t).ledger.accounts.map (·.tokenCount)).sum + (r.isUncredited table t).toNat =
      (r.ledger.accounts.map (·.tokenCount)).sum + 1 := by
  obtain ⟨opened, hopened, haccounts, hlength⟩ := accounts_feed table hr ht hline
  have hzero : (opened.map (·.tokenCount)).sum = 0 := by
    rcases hopened with rfl | ⟨name, start, rfl, _⟩
    · rfl
    · rfl
  have hone : (decide (r.creditedTo table t < (opened ++ r.ledger.frames.map (·.account)).length)).toNat +
      (r.isUncredited table t).toNat = 1 := by
    rw [isUncredited, ht, hlength]
    generalize (opened ++ r.ledger.frames.map (·.account)).length = row
    by_cases hplace : r.creditedTo table t < row
    · simp [hplace]
    · simp [hplace, Nat.le_of_not_lt hplace]
  rw [haccounts, Ledger.accounts, List.map_append, List.sum_append, sum_modify_credit, List.map_append,
    List.sum_append, List.map_append, List.sum_append, hzero]
  omega

/-- Over a pass on the lines of its tokens every token is credited to one function or to none, and every
function has a token. -/
theorem accounts_run (table : DecisionTable) {r : Recognizer} (hr : r.Sound)
    (hidle : r.ledger.pending = .idle) (h : EachCredited r.ledger) (ts : List Token)
    (hlines : FollowLines r.ledger.line ts) :
    EachCredited (r.run table ts).ledger ∧
      ((r.run table ts).ledger.accounts.map (·.tokenCount)).sum + uncreditedTokens table r ts =
        (r.ledger.accounts.map (·.tokenCount)).sum + (ts.countP (!·.isNewline) : Nat) := by
  induction ts generalizing r with
  | nil => exact ⟨h, by simp [uncreditedTokens]⟩
  | cons t ts ih =>
    have hsound := hr.feed table t
    have hpending := pending_feed table hr hidle t
    have hnext := ledger_feed_line table hr t
    rw [run_cons, uncreditedTokens, List.countP_cons]
    rw [FollowLines] at hlines
    cases ht : t.isNewline with
    | true =>
      -- a line break moves tokens and ledger to the next line alike
      rw [if_pos ht] at hlines
      rw [ht, Bool.toNat_true, Nat.cast_one] at hnext
      rw [← hnext] at hlines
      have haccounts := (feed_newline_accounts table hidle ht).1
      have hcredited : EachCredited (r.feed table t).ledger := by
        rw [EachCredited, haccounts]
        exact h
      obtain ⟨heach, hsum⟩ := ih hsound hpending hcredited hlines
      rw [haccounts] at hsum
      refine ⟨heach, ?_⟩
      simp only [isUncredited, ht, Bool.not_true, Bool.false_and, Bool.toNat_false, Nat.zero_add,
        Bool.false_eq_true, if_false, Nat.add_zero]
      exact hsum
    | false =>
      rw [if_neg (by simp [ht])] at hlines
      rw [ht, Bool.toNat_false, Nat.cast_zero, add_zero] at hnext
      obtain ⟨hline, hlines⟩ := hlines
      rw [← hnext] at hlines
      obtain ⟨heach, hsum⟩ :=
        ih hsound hpending (eachCredited_feed table hr h ht hline.symm) hlines
      have hstep := sum_feed table hr ht hline.symm
      refine ⟨heach, ?_⟩
      simp only [Bool.not_false, if_true]
      push_cast
      omega

end Recognizer

namespace Analysis

open Recognizer

/-- Each token of a text that is measured function by function is credited once, to one function or to
none. So every function has a token, and the tokens of the functions and those of no function are the
tokens of the text. -/
theorem tokens_credited_once {language : Language} {filename source : String} {a : Analysis}
    (h : byFunction language filename source = .ok a) :
    (∀ before t after, sourceTokens language source = before ++ t :: after →
      ((start language).run (.of language) before).CreditsOnce (.of language) t) ∧
    a.functions.map (·.account) =
      ((start language).run (.of language) (sourceTokens language source)).ledger.accounts ∧
    (∀ f ∈ a.functions, 1 ≤ f.tokenCount) ∧
    (a.functions.map (·.tokenCount)).sum +
        uncreditedTokens (.of language) (start language) (sourceTokens language source) =
      a.tokenCount := by
  have hreports := byFunction_reports h
  have hsound := sound_start language 1
  have hidle : (start language).ledger.pending = .idle := by rw [ledger_start]
  have hnone : (start language).ledger.accounts = [] := by
    rw [ledger_start]
    rfl
  have hlines : FollowLines (start language).ledger.line (sourceTokens language source) := by
    rw [ledger_start]
    exact sourceTokens_followLines language source
  obtain ⟨heach, hsum⟩ := accounts_run (.of language) hsound hidle
    (by rw [EachCredited, hnone]; simp) (sourceTokens language source) hlines
  -- the end of the input closes functions, but credits nothing
  have hend : a.functions.map (·.account) =
      ((start language).run (.of language) (sourceTokens language source)).ledger.accounts := by
    obtain ⟨reach, k, hfinish, _⟩ :=
      finish_settles (sound_run (.of language) hsound (sourceTokens language source)) hreports.succeeds
    obtain ⟨haccounts, _⟩ := hfinish.accounts_eq (pending_run (.of language) hsound hidle _)
    have hframes := hreports.frames_eq
    rw [recognize] at hframes
    rw [Ledger.accounts, hframes, List.map_nil, List.append_nil] at haccounts
    rw [hreports.functions_eq]
    exact haccounts
  have hcounts : a.functions.map (·.tokenCount) =
      (a.functions.map (·.account)).map (·.tokenCount) := by
    rw [List.map_map]
    rfl
  refine ⟨?_, hend, ?_, ?_⟩
  · intro before t after hsplit
    exact creditsOnce (.of language) (sound_run _ hsound before) (pending_run _ hsound hidle before)
      (ledger_line_before language hsplit).2
  · intro f hf
    exact heach f.account (by rw [← hend]; exact List.mem_map_of_mem hf)
  · rw [hnone, ← hend, ← hcounts] at hsum
    rw [hreports.tokenCount_eq, hsum]
    simp

/-- The measures of `f=x=>y=>z;g`, where the semicolon closes both arrows. -/
def curriedMeasured : Analysis where
  totalCcn := 2
  nloc := 1
  tokenCount := 9
  decisionPoints := 0
  functions := [⟨"(anonymous)", 1, 1, 1, 1, 1, 2, 1⟩, ⟨"f", 1, 1, 1, 1, 1, 2, 0⟩]
  language := some .javascript
  filename := ""

/-- The semicolon belongs to the inner arrow alone, and five tokens belong to no function. -/
theorem tokens_credited_once_curried :
    byFunction .javascript "" "f=x=>y=>z;g" = .ok curriedMeasured ∧
      (2 + 2 : Int) + 5 = curriedMeasured.tokenCount := by
  have hmeasured : byFunction .javascript "" "f=x=>y=>z;g" = .ok curriedMeasured := by
    decide +kernel
  have huncredited : uncreditedTokens (.of .javascript) (start .javascript)
      (sourceTokens .javascript "f=x=>y=>z;g") = 5 := by
    decide +kernel
  have hsum := (tokens_credited_once hmeasured).2.2.2
  rw [huncredited] at hsum
  exact ⟨hmeasured, hsum⟩

end Analysis

end Cyclomatic
