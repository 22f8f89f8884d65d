import Mathlib
import Cyclomatic.Proofs.Ledger.Row

/-!
# Histories of a ledger

A history makes entries in any order and with any arguments. A refused entry leaves a ledger too
(`Ledger.make`), the same as before (`Ledger.make_of_error`), so every history ends in a ledger. Whatever
the entries are, the ledger stays well kept (`Ledger.WellKept`): functions are as deep as they are nested,
no open function has a line that the file does not have, and no closed function ends before it begins.

Seen from outside, a history is a row of events: functions open and close (`Ledger.happenings`). The events
of every history can be replayed on a stack (`ScopeEvent.replay`), on which only the function that was
opened last can close. What the stack holds in the end are the open functions of the ledger
(`Ledger.replay_happenings`).
-/

namespace Cyclomatic

/-! ## Events -/

/-- What tells a function from others, from its opening on. -/
structure FunctionHead where
  name : String
  startLine : Int
  parameterCount : Int
  nestingDepth : Int
deriving DecidableEq, Repr

def Frame.head (f : Frame) : FunctionHead :=
  ⟨f.name, f.startLine, f.parameterCount, f.nestingDepth⟩

def FunctionMeasure.head (f : FunctionMeasure) : FunctionHead :=
  ⟨f.name, f.startLine, f.parameterCount, f.nestingDepth⟩

@[simp] theorem Frame.head_credit (f : Frame) (first : Int) (span : Nat) :
    (f.credit first span).head = f.head := rfl

@[simp] theorem Frame.head_measure (f : Frame) (endLine : Int) : (f.measure endLine).head = f.head :=
  rfl

/-- A function opens or closes. -/
inductive ScopeEvent where
  | opened (f : FunctionHead)
  | closed (f : FunctionHead)
deriving DecidableEq, Repr

namespace ScopeEvent

/-- The open functions after an event, innermost first, if what closes is the one that was opened last. -/
def apply : List FunctionHead → ScopeEvent → Option (List FunctionHead)
  | stack, opened f => some (f :: stack)
  | top :: stack, closed f => if f = top then some stack else none
  | [], closed _ => none

/-- The open functions after events, if the last that was opened is always the first to close. -/
def replay (stack : List FunctionHead) (events : List ScopeEvent) : Option (List FunctionHead) :=
  events.foldlM apply stack

variable {stack : List FunctionHead}

@[simp] theorem replay_nil : replay stack [] = some stack := rfl

@[simp] theorem replay_cons (e : ScopeEvent) (es : List ScopeEvent) :
    replay stack (e :: es) = (apply stack e).bind (replay · es) := rfl

/-- Events may be replayed piece by piece. -/
theorem replay_append (es fs : List ScopeEvent) :
    replay stack (es ++ fs) = (replay stack es).bind (replay · fs) := by
  simp [replay, List.foldlM_append]

/-- The functions on top of the stack can close one after the other. -/
theorem replay_map_closed (top stack : List FunctionHead) :
    replay (top ++ stack) (top.map closed) = some stack := by
  induction top with
  | nil => rfl
  | cons f top ih => simpa [apply] using ih

end ScopeEvent

namespace Ledger

variable {l m p : Ledger}

/-! ## Making entries -/

/-- The ledger that an entry leaves, whether it is made or refused. -/
def make (l : Ledger) (e : Entry) : Ledger :=
  match (perform e).run l with
  | .ok _ after | .error _ after => after

/-- The ledger at the end of a history. -/
def makeAll (l : Ledger) (es : List Entry) : Ledger :=
  es.foldl make l

@[simp] theorem makeAll_nil (l : Ledger) : l.makeAll [] = l := rfl

@[simp] theorem makeAll_cons (l : Ledger) (e : Entry) (es : List Entry) :
    l.makeAll (e :: es) = (l.make e).makeAll es := rfl

/-- Entries may be made piece by piece. -/
theorem makeAll_append (l : Ledger) (es fs : List Entry) :
    l.makeAll (es ++ fs) = (l.makeAll es).makeAll fs := by
  simp [makeAll]

/-- Only moving to an earlier line is refused, and nothing has been written by then. -/
theorem run_perform_eq_error_iff {e : Entry} {err : ScopeError} :
    (perform e).run l = .error err m ↔
      m = l ∧ ∃ target, target < l.line ∧ e = .moveTo target ∧ err = .lineMovedBack l.line target := by
  constructor
  · intro h
    cases e with
    | moveTo target =>
      rw [perform, run_setLine] at h
      split at h
      · rename_i hback
        obtain ⟨rfl, rfl⟩ := EStateM.Result.error.inj h
        exact ⟨rfl, target, hback, rfl, rfl⟩
      · cases h
    | _ => cases h
  · rintro ⟨rfl, target, hback, rfl, rfl⟩
    rw [perform, run_setLine, if_pos hback]

/-- A refusal leaves a ledger. -/
theorem enter_eq_error {e : Entry} {err : ScopeError} :
    l.enter e = .error err ↔ ∃ m, (perform e).run l = .error err m := by
  rw [enter]
  cases (perform e).run l <;> simp

/-- Only a line before the current one is refused. -/
theorem enter_eq_error_iff (l : Ledger) (e : Entry) (err : ScopeError) :
    l.enter e = .error err ↔
      ∃ target, target < l.line ∧ e = .moveTo target ∧ err = .lineMovedBack l.line target := by
  simp only [enter_eq_error, run_perform_eq_error_iff, exists_eq_left]

/-- An entry that is refused changes nothing. -/
theorem make_of_error {e : Entry} {err : ScopeError} (h : l.enter e = .error err) : l.make e = l := by
  obtain ⟨m, hm⟩ := enter_eq_error.1 h
  rw [make, hm]
  exact (run_perform_eq_error_iff.1 hm).1

/-- Moving to another line changes nothing but the line, and never to an earlier one. -/
theorem make_moveTo (l : Ledger) (target : Int) :
    ∃ line, l.line ≤ line ∧ l.make (.moveTo target) = { l with line } := by
  by_cases hback : target < l.line
  · exact ⟨l.line, le_rfl, make_of_error ((enter_eq_error_iff l _ _).2 ⟨target, hback, rfl, rfl⟩)⟩
  · refine ⟨target, not_lt.1 hback, ?_⟩
    rw [make, perform, run_setLine, if_neg hback]

/-- What closing one function keeps, closing all functions keeps. -/
theorem closeAll_induction {P : Ledger → Prop} (hl : P l)
    (hclose : ∀ m : Ledger, P m → P m.closeFunction) : P l.closeAll := by
  rw [closeAll, List.foldl_const]
  exact Function.Iterate.rec P hl hclose _

/-! ## Opening and closing -/

/-- From one ledger to another, open functions close, innermost first, and nothing else happens to the
functions. -/
def Closes (l m : Ledger) : Prop :=
  ∃ closing, m.functions = l.functions ++ closing ∧
    closing.map (·.head) ++ m.frames.map (·.head) = l.frames.map (·.head)

theorem closes_of_eq (hfunctions : m.functions = l.functions)
    (hframes : m.frames.map (·.head) = l.frames.map (·.head)) : l.Closes m :=
  ⟨[], by rw [hfunctions, List.append_nil], by rw [hframes]; rfl⟩

/-- Functions may close one after the other. -/
theorem Closes.trans (h : l.Closes m) (h' : m.Closes p) : l.Closes p := by
  obtain ⟨closing, hfunctions, hframes⟩ := h
  obtain ⟨closing', hfunctions', hframes'⟩ := h'
  refine ⟨closing ++ closing', by rw [hfunctions', hfunctions, List.append_assoc], ?_⟩
  rw [List.map_append, List.append_assoc, hframes', hframes]

/-- The innermost function closes with the head that it opened with, and does not end before it begins. -/
theorem exists_closeFunction {f : Frame} {fs : List Frame} (h : l.frames = f :: fs)
    (endLine : Option Int) :
    ∃ g, (l.closeFunction endLine).functions = l.functions ++ [g] ∧ g.head = f.head ∧
      g.startLine ≤ g.endLine := by
  cases hclaim : l.pending.claimedBy (max (endLine.getD l.line) f.startLine) with
  | none => exact ⟨_, (closeFunction_of_not_claimed h hclaim).1, rfl, le_max_right _ _⟩
  | some lines => exact ⟨_, (closeFunction_of_claimed h hclaim).1, rfl, le_max_right _ _⟩

/-- The innermost function closes first. -/
theorem closes_closeFunction (l : Ledger) (endLine : Option Int) : l.Closes (l.closeFunction endLine) := by
  cases h : l.frames with
  | nil =>
    rw [closeFunction_of_frames_eq_nil h]
    exact closes_of_eq rfl rfl
  | cons f fs =>
    obtain ⟨g, hfunctions, hhead, _⟩ := exists_closeFunction h endLine
    refine ⟨[g], hfunctions, ?_⟩
    rw [closeFunction_frames, h]
    simp [hhead]

/-- In the end all functions close, from the innermost on. -/
theorem closes_closeAll (l : Ledger) : l.Closes l.closeAll :=
  closeAll_induction (closes_of_eq rfl rfl) fun m h => h.trans (closes_closeFunction m none)

/-- An entry opens one function or closes some. -/
theorem make_opens_or_closes (l : Ledger) (e : Entry) :
    (∃ name params start, e = .openFunction name params start ∧
        l.make e = l.openFunction name params start) ∨
      (∀ name params start, e ≠ .openFunction name params start) ∧ l.Closes (l.make e) := by
  cases e with
  | openFunction name params start => exact .inl ⟨name, params, start, rfl, rfl⟩
  | moveTo target =>
    obtain ⟨line, _, hmake⟩ := l.make_moveTo target
    exact .inr ⟨by simp, by rw [hmake]; exact closes_of_eq rfl rfl⟩
  | recordDecisions count =>
    exact .inr ⟨by simp, closes_of_eq (recordDecisions_functions l count)
      (map_frames_recordDecisions l count _ fun _ _ => rfl)⟩
  | announce lineSpan => exact .inr ⟨by simp, closes_of_eq rfl rfl⟩
  | credit lineSpan =>
    exact .inr ⟨by simp, closes_of_eq (credit_functions l lineSpan)
      (map_frames_credit l lineSpan _ fun _ _ _ => rfl)⟩
  | closeFunction endLine => exact .inr ⟨by simp, closes_closeFunction l endLine⟩
  | closeAll => exact .inr ⟨by simp, closes_closeAll l⟩

/-! ## What happens in a history -/

/-- The events between two ledgers: the functions that one has closed and the other has not, and then
those that are open above its open functions. -/
def events (l m : Ledger) : List ScopeEvent :=
  (m.functions.drop l.functions.length).map (fun f => .closed f.head) ++
    (m.frames.take (m.depth - l.depth)).reverse.map fun f => .opened f.head

/-- The events of a history. -/
def happenings (l : Ledger) : List Entry → List ScopeEvent
  | [] => []
  | e :: es => l.events (l.make e) ++ (l.make e).happenings es

/-- Where functions close, the events are that they close. -/
theorem Closes.replay (h : l.Closes m) :
    ScopeEvent.replay (l.frames.map (·.head)) (l.events m) = some (m.frames.map (·.head)) := by
  obtain ⟨closing, hfunctions, hframes⟩ := h
  have hdepth : m.depth - l.depth = 0 := by
    have := congrArg List.length hframes
    simp only [List.length_append, List.length_map] at this
    simp only [depth]
    omega
  have hevents : l.events m = (closing.map (·.head)).map .closed := by
    simp [events, hfunctions, hdepth]
  rw [hevents, ← hframes, ScopeEvent.replay_map_closed]

/-- What happens at an entry can be replayed on the stack of the open functions. -/
theorem replay_events (l : Ledger) (e : Entry) :
    ScopeEvent.replay (l.frames.map (·.head)) (l.events (l.make e)) =
      some ((l.make e).frames.map (·.head)) := by
  rcases l.make_opens_or_closes e with ⟨name, params, start, _, hmake⟩ | ⟨_, h⟩
  · rw [hmake]
    simp [events, ScopeEvent.apply]
  · exact h.replay

/-- What happens in a history can be replayed on the stack of the open functions. -/
theorem replay_happenings (l : Ledger) (es : List Entry) :
    ScopeEvent.replay (l.frames.map (·.head)) (l.happenings es) =
      some ((l.makeAll es).frames.map (·.head)) := by
  induction es generalizing l with
  | nil => rfl
  | cons e es ih =>
    rw [happenings, ScopeEvent.replay_append, replay_events, Option.bind_some, ih, makeAll_cons]

/-! ## What every history keeps -/

/-- The line never goes back. -/
theorem line_le_make (l : Ledger) (e : Entry) : l.line ≤ (l.make e).line := by
  cases e with
  | moveTo target =>
    obtain ⟨line, hline, hmake⟩ := l.make_moveTo target
    rw [hmake]
    exact hline
  | openFunction name params start => exact le_rfl
  | recordDecisions count => exact (recordDecisions_line l count).ge
  | announce lineSpan => exact le_rfl
  | credit lineSpan => exact (credit_line l lineSpan).ge
  | closeFunction endLine => exact (closeFunction_line l endLine).ge
  | closeAll =>
    refine closeAll_induction (P := fun m => l.line ≤ m.line) le_rfl fun m hm => ?_
    rw [closeFunction_line]
    exact hm

/-- No history moves back. -/
theorem line_le_makeAll (l : Ledger) (es : List Entry) : l.line ≤ (l.makeAll es).line := by
  induction es generalizing l with
  | nil => exact le_rfl
  | cons e es ih => exact (l.line_le_make e).trans (ih _)

/-- Functions that have closed stay as they are. -/
theorem functions_isPrefix_make (l : Ledger) (e : Entry) : l.functions <+: (l.make e).functions := by
  rcases l.make_opens_or_closes e with ⟨name, params, start, _, hmake⟩ | ⟨_, closing, hfunctions, _⟩
  · rw [hmake, openFunction_functions]
  · rw [hfunctions]
    exact List.prefix_append _ _

/-- Functions that have closed stay as they are, whatever is entered. -/
theorem functions_isPrefix_makeAll (l : Ledger) (es : List Entry) :
    l.functions <+: (l.makeAll es).functions := by
  induction es generalizing l with
  | nil => exact List.prefix_rfl
  | cons e es ih => exact (l.functions_isPrefix_make e).trans (ih _)

/-- Whether an entry opens a function. -/
def Entry.opens : Entry → Bool
  | openFunction .. => true
  | _ => false

/-- A function that has opened is open or has closed. -/
theorem depth_add_length_make (l : Ledger) (e : Entry) :
    (l.make e).depth + (l.make e).functions.length = l.depth + l.functions.length + e.opens.toNat := by
  rcases l.make_opens_or_closes e with
    ⟨name, params, start, rfl, hmake⟩ | ⟨hopens, closing, hfunctions, hframes⟩
  · rw [hmake, openFunction_depth, openFunction_functions, Entry.opens, Bool.toNat_true]
    omega
  · have hnone : e.opens = false := by
      cases e with
      | openFunction name params start => exact absurd rfl (hopens name params start)
      | _ => rfl
    have hlength := congrArg List.length hframes
    rw [List.length_append, List.length_map, List.length_map, List.length_map] at hlength
    rw [hnone, hfunctions, List.length_append, depth, depth, ← hlength, Bool.toNat_false]
    omega

/-- Every function that was opened is open or has closed. -/
theorem depth_add_length_makeAll (l : Ledger) (es : List Entry) :
    (l.makeAll es).depth + (l.makeAll es).functions.length =
      l.depth + l.functions.length + es.countP Entry.opens := by
  induction es generalizing l with
  | nil => rfl
  | cons e es ih =>
    rw [makeAll_cons, ih, depth_add_length_make, List.countP_cons]
    cases e.opens with
    | true => simp; omega
    | false => simp

/-! ## Well kept ledgers -/

/-- The lines of an open function are lines of the file. -/
def Covered (l : Ledger) : Prop :=
  ∀ f ∈ l.frames, ∀ n ∈ f.codeLines, n ∈ l.codeLines

theorem Covered.recordDecisions (h : l.Covered) (count : Int) : (l.recordDecisions count).Covered := by
  have hlines : (l.recordDecisions count).frames.map (·.codeLines) = l.frames.map (·.codeLines) :=
    map_frames_recordDecisions l count _ fun _ _ => rfl
  rw [Covered, recordDecisions_codeLines]
  exact forall_frames_of_map_eq (P := fun s => ∀ n ∈ s, n ∈ l.codeLines) hlines h

/-- A function opens with lines that the file already has. -/
theorem Covered.openFunction (h : l.Covered) (name : String) (params : Int) (start : Option Int) :
    (l.openFunction name params start).Covered := by
  intro f hf n hn
  rw [openFunction_frames] at hf
  rcases List.mem_cons.1 hf with rfl | hf
  · exact (LineSet.mem_within.1 hn).1
  · exact h f hf n hn

/-- The lines of a token are credited to the file whenever they are credited to a function. -/
theorem Covered.creditInnermost (h : l.Covered) (first : Int) (span : Nat) :
    (l.creditInnermost first span).Covered := by
  intro f hf n hn
  refine LineSet.mem_insertRun.2 ?_
  rw [Ledger.creditInnermost] at hf
  cases hframes : l.frames with
  | nil =>
    rw [hframes] at hf
    cases hf
  | cons g gs =>
    rw [hframes] at hf
    rcases List.mem_cons.1 hf with rfl | hf
    · rcases LineSet.mem_insertRun.1 hn with hn | hn
      · exact .inl (h g (hframes ▸ List.mem_cons_self) n hn)
      · exact .inr hn
    · exact .inl (h f (hframes ▸ List.mem_cons_of_mem g hf) n hn)

theorem Covered.credit (h : l.Covered) (lineSpan : Int) : (l.credit lineSpan).Covered := by
  have hidle : ({ l with pending := .idle } : Ledger).Covered := h
  unfold Ledger.credit
  dsimp only
  split
  · exact hidle.creditInnermost _ _
  · exact hidle.creditInnermost _ _
  · exact hidle

/-- The functions that are left keep their lines, and so does the file. -/
theorem Covered.closeFunction (h : l.Covered) (endLine : Option Int) :
    (l.closeFunction endLine).Covered := by
  have hlines : ∀ n ∈ l.codeLines, n ∈ (l.closeFunction endLine).codeLines := by
    cases hframes : l.frames with
    | nil =>
      rw [closeFunction_of_frames_eq_nil hframes]
      exact fun n hn => hn
    | cons f fs =>
      cases hclaim : l.pending.claimedBy (max (endLine.getD l.line) f.startLine) with
      | none =>
        rw [(closeFunction_of_not_claimed hframes hclaim).2.2]
        exact fun n hn => hn
      | some lines =>
        rw [(closeFunction_of_claimed hframes hclaim).2.2]
        exact fun n hn => LineSet.mem_insertRun.2 (.inl hn)
  intro f hf n hn
  rw [closeFunction_frames] at hf
  exact hlines n (h f (List.mem_of_mem_tail hf) n hn)

/-- What holds of a ledger at every moment of a history. -/
structure WellKept (l : Ledger) : Prop where
  tallied : l.Tallied
  /-- No function ends before it begins. -/
  extents : ∀ f ∈ l.functions, f.startLine ≤ f.endLine
  /-- From the outermost inwards, open functions are one deeper than the one before. -/
  nested : ∀ (i : Nat) f, (l.frames.map (·.head)).reverse[i]? = some f → f.nestingDepth = i
  covered : l.Covered

/-- Where functions close, those that are left are nested as before. -/
theorem Closes.nested (h : l.Closes m)
    (hl : ∀ (i : Nat) f, (l.frames.map (·.head)).reverse[i]? = some f → f.nestingDepth = i)
    (i : Nat) (f : FunctionHead) (hf : (m.frames.map (·.head)).reverse[i]? = some f) :
    f.nestingDepth = i := by
  obtain ⟨closing, _, hframes⟩ := h
  refine hl i f ?_
  rw [← hframes, List.reverse_append, List.getElem?_append_left (List.getElem?_eq_some_iff.1 hf).1]
  exact hf

/-- A ledger remains well kept when a function opens, wherever it is said to begin. -/
theorem WellKept.openFunction (h : l.WellKept) (name : String) (params : Int) (start : Option Int) :
    (l.openFunction name params start).WellKept := by
  refine ⟨h.tallied.openFunction name params start, h.extents, ?_, h.covered.openFunction _ _ _⟩
  intro i f hf
  rw [openFunction_frames, List.map_cons, List.reverse_cons] at hf
  by_cases hi : i < (l.frames.map (·.head)).reverse.length
  · rw [List.getElem?_append_left hi] at hf
    exact h.nested i f hf
  · rw [List.getElem?_append_right (not_lt.1 hi), List.getElem?_singleton] at hf
    split at hf
    · -- the new function has all others around it
      obtain rfl := Option.some.inj hf
      rw [List.length_reverse, List.length_map] at *
      show ((l.depth : Nat) : Int) = i
      rw [depth]
      omega
    · cases hf

/-- A ledger remains well kept when a function closes, wherever it is said to end. -/
theorem WellKept.closeFunction (h : l.WellKept) (endLine : Option Int) :
    (l.closeFunction endLine).WellKept := by
  refine ⟨h.tallied.closeFunction endLine, ?_, (closes_closeFunction l endLine).nested h.nested,
    h.covered.closeFunction endLine⟩
  cases hframes : l.frames with
  | nil =>
    rw [closeFunction_of_frames_eq_nil hframes]
    exact h.extents
  | cons f fs =>
    obtain ⟨g, hfunctions, _, hextent⟩ := exists_closeFunction hframes endLine
    rw [hfunctions]
    intro k hk
    rcases List.mem_append.1 hk with hk | hk
    · exact h.extents k hk
    · rw [List.mem_singleton.1 hk]
      exact hextent

/-- An entry leaves a ledger well kept, unless it takes decisions back. -/
theorem WellKept.make (h : l.WellKept) {e : Entry}
    (hcount : ∀ count, e = .recordDecisions count → 0 ≤ count) : (l.make e).WellKept := by
  cases e with
  | moveTo target =>
    obtain ⟨line, _, hmake⟩ := l.make_moveTo target
    rw [hmake]
    exact ⟨⟨h.tallied.frames, h.tallied.functions, h.tallied.stray⟩, h.extents, h.nested, h.covered⟩
  | openFunction name params start => exact h.openFunction name params start
  | recordDecisions count =>
    obtain ⟨n, rfl⟩ := Int.eq_ofNat_of_zero_le (hcount count rfl)
    refine ⟨h.tallied.recordDecisions n, ?_, ?_, h.covered.recordDecisions n⟩
    · show ∀ f ∈ (l.recordDecisions n).functions, _
      rw [recordDecisions_functions]
      exact h.extents
    · show ∀ (i : Nat) f, ((l.recordDecisions n).frames.map (·.head)).reverse[i]? = some f → _
      rw [map_frames_recordDecisions l n _ fun _ _ => rfl]
      exact h.nested
  | announce lineSpan =>
    exact ⟨⟨h.tallied.frames, h.tallied.functions, h.tallied.stray⟩, h.extents, h.nested, h.covered⟩
  | credit lineSpan =>
    refine ⟨h.tallied.credit lineSpan, ?_, ?_, h.covered.credit lineSpan⟩
    · show ∀ f ∈ (l.credit lineSpan).functions, _
      rw [credit_functions]
      exact h.extents
    · show ∀ (i : Nat) f, ((l.credit lineSpan).frames.map (·.head)).reverse[i]? = some f → _
      rw [map_frames_credit l lineSpan _ fun _ _ _ => rfl]
      exact h.nested
  | closeFunction endLine => exact h.closeFunction endLine
  | closeAll => exact closeAll_induction h fun m hm => hm.closeFunction none

/-- A ledger remains well kept in every history without negative counts. -/
theorem WellKept.makeAll (h : l.WellKept) {es : List Entry}
    (hcount : ∀ count, .recordDecisions count ∈ es → 0 ≤ count) : (l.makeAll es).WellKept := by
  induction es generalizing l with
  | nil => exact h
  | cons e es ih =>
    refine ih (h.make fun count he => hcount count (he ▸ List.mem_cons_self)) fun count he => ?_
    exact hcount count (List.mem_cons_of_mem e he)

/-- A fresh ledger is well kept. -/
theorem wellKept_fresh (line : Int) : ({ line } : Ledger).WellKept :=
  ⟨⟨by simp, by simp [functions], le_rfl⟩, by simp [functions], by simp, by simp [Covered]⟩

/-- Whatever entries are made in whatever order, the line never goes back, a refused entry changes nothing,
open functions are as deep as they are nested, and a function that has opened is open or has closed. Functions
that have closed stay, in the order in which they closed, and the last that opened was always the first to
close. None of them ends before it begins or has no path, and an open function has no line that the file does
not have. -/
theorem history_keeps_books (line : Int) (before after : List Entry)
    (hcount : ∀ count, .recordDecisions count ∈ before ++ after → 0 ≤ count) :
    let l := ({ line } : Ledger).makeAll before
    let m := l.makeAll after
    l.line ≤ m.line ∧
    (∀ e err, m.enter e = .error err ↔
      ∃ target, target < m.line ∧ e = .moveTo target ∧ err = .lineMovedBack m.line target) ∧
    (∀ e err, m.enter e = .error err → m.make e = m) ∧
    (∀ (i : Nat) f, m.frames.reverse[i]? = some f → f.nestingDepth = i) ∧
    (m.depth : Int) = (before ++ after).countP Entry.opens - m.functions.length ∧
    l.functions <+: m.functions ∧
    ScopeEvent.replay [] (({ line } : Ledger).happenings (before ++ after)) =
      some (m.frames.map (·.head)) ∧
    (∀ f ∈ m.functions, f.startLine ≤ f.endLine ∧ 1 ≤ f.ccn) ∧
    ∀ f ∈ m.frames, ∀ n ∈ f.codeLines, n ∈ m.codeLines := by
  intro l m
  have hm : m = ({ line } : Ledger).makeAll (before ++ after) := (makeAll_append _ _ _).symm
  have hkept : m.WellKept := hm ▸ (wellKept_fresh line).makeAll hcount
  refine ⟨l.line_le_makeAll after, m.enter_eq_error_iff, fun _ _ => make_of_error, ?_, ?_,
    l.functions_isPrefix_makeAll after, ?_, ?_, hkept.covered⟩
  · intro i f hf
    have hhead : (m.frames.map (·.head)).reverse[i]? = some f.head := by
      rw [← List.map_reverse, List.getElem?_map, hf]
      rfl
    exact Int.ofNat.inj (hkept.nested i f.head hhead)
  · have hopened := depth_add_length_makeAll ({ line } : Ledger) (before ++ after)
    rw [← hm] at hopened
    simp only [depth, functions, List.length_nil] at hopened ⊢
    omega
  · rw [hm]
    exact replay_happenings { line } (before ++ after)
  · exact fun f hf => ⟨hkept.extents f hf, hkept.tallied.functions f hf⟩

/-- A function that would begin after its line, one that would end before its first line, and a line that
goes back. -/
def unruly : List Entry :=
  [.openFunction "f" 0 none, .moveTo 3, .announce 2, .openFunction "g" 1 (some 9), .moveTo 2,
    .recordDecisions 4, .closeFunction (some 1), .openFunction "h" 0 (some 2), .credit 1]

/-- The second function closes before the first one and the third. -/
theorem history_keeps_books_unruly :
    (∀ count, .recordDecisions count ∈ unruly ++ [] → 0 ≤ count) ∧
      ScopeEvent.replay [] (({ line := 1 } : Ledger).happenings (unruly ++ [])) =
        some [⟨"h", 2, 0, 1⟩, ⟨"f", 1, 0, 0⟩] := by
  have hcount : ∀ count, .recordDecisions count ∈ unruly ++ [] → 0 ≤ count := by simp [unruly]
  refine ⟨hcount, ?_⟩
  obtain ⟨_, _, _, _, _, _, hreplay, _⟩ := history_keeps_books 1 unruly [] hcount
  rw [hreplay]
  rfl

end Ledger

end Cyclomatic
