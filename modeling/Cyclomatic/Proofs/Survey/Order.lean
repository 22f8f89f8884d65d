import Mathlib
import Cyclomatic.Proofs.Closings
import Cyclomatic.Proofs.Survey

/-!
# The order of extents

Extents are listed as their functions close. Of two of them, the one that comes first closes no later, and
either it lies inside the other or it ends before the other opens (`Extent.Precedes`). So functions close
before those that enclose them, and no two extents cross (`Analysis.extents_precede`).

The place where an extent closes is the place in the pass where its function closes: the functions that
have closed before a place are those whose extents close before it (`Analysis.functions_closed_before`).
-/

namespace Cyclomatic

/-- The order of extents: the first closes no later than the second, and it opens inside the second or
closes before the second opens. -/
def Extent.Precedes (e e' : Extent) : Prop :=
  e.closing ≤ e'.closing ∧ (e'.opening < e.opening ∨ e.closing ≤ e'.opening)

namespace Survey

variable {s : Survey} {table : DecisionTable} {t : Token}

/-- What holds of the places of every survey. -/
structure Ordered (s : Survey) : Prop where
  opened : ∀ c ∈ s.running, c.opening < s.place
  nested : s.running.Pairwise fun inner outer => outer.opening < inner.opening
  closed : ∀ e ∈ s.extents, e.opening ≤ e.closing ∧ e.closing < s.place
  precede : s.extents.Pairwise Extent.Precedes
  apart : ∀ e ∈ s.extents, ∀ c ∈ s.running, c.opening < e.opening ∨ e.closing ≤ c.opening

theorem map_opening_row (s : Survey) (table : DecisionTable) (t : Token) :
    (s.row table t).map (·.opening) =
      if s.pass.opens table t then s.place :: s.running.map (·.opening)
      else s.running.map (·.opening) := by
  have hrow : (if s.pass.opens table t then ⟨s.place, []⟩ :: s.running else s.running).map
      (·.opening) = if s.pass.opens table t then s.place :: s.running.map (·.opening)
        else s.running.map (·.opening) := by
    split <;> rfl
  unfold row
  dsimp only
  split
  · exact hrow
  · -- a credit changes no opening
    rw [map_modify_of_forall (f := fun c : Course => c.credit s.place) fun _ => rfl, hrow]

/-- The courses of a row open no later than now, and the outer ones before the inner ones. -/
theorem Ordered.row (h : s.Ordered) (table : DecisionTable) (t : Token) :
    (∀ c ∈ s.row table t, c.opening ≤ s.place ∧
      ∀ e ∈ s.extents, c.opening < e.opening ∨ e.closing ≤ c.opening) ∧
    (s.row table t).Pairwise fun inner outer => outer.opening < inner.opening := by
  have hopenings := map_opening_row s table t
  constructor
  · intro c hc
    have hmem : c.opening ∈ (s.row table t).map (·.opening) := List.mem_map_of_mem hc
    rw [hopenings] at hmem
    have hrunning (hmem : c.opening ∈ s.running.map (·.opening)) : c.opening ≤ s.place ∧
        ∀ e ∈ s.extents, c.opening < e.opening ∨ e.closing ≤ c.opening := by
      obtain ⟨d, hd, hopening⟩ := List.mem_map.1 hmem
      rw [← hopening]
      exact ⟨(h.opened d hd).le, fun e he => h.apart e he d hd⟩
    split at hmem
    · rcases List.mem_cons.1 hmem with hnew | hmem
      · rw [hnew]
        exact ⟨le_rfl, fun e he => .inr (h.closed e he).2.le⟩
      · exact hrunning hmem
    · exact hrunning hmem
  · have hsorted : ((s.row table t).map (·.opening)).Pairwise fun inner outer => outer < inner := by
      rw [hopenings]
      have hold : (s.running.map (·.opening)).Pairwise fun inner outer => outer < inner :=
        List.pairwise_map.2 h.nested
      split
      · refine List.pairwise_cons.2 ⟨?_, hold⟩
        intro opening hopening
        obtain ⟨d, hd, rfl⟩ := List.mem_map.1 hopening
        exact h.opened d hd
      · exact hold
    exact List.pairwise_map.1 hsorted

/-- A token keeps the order: what it closes lies inside what stays open. -/
theorem Ordered.step (h : s.Ordered) (table : DecisionTable) (t : Token) :
    (s.step table t).Ordered := by
  obtain ⟨hrow, hsorted⟩ := h.row table t
  have hsplit := hsorted
  rw [← List.take_append_drop (s.pass.closedBy table t).length (s.row table t),
    List.pairwise_append] at hsplit
  obtain ⟨htake, hdrop, hcross⟩ := hsplit
  have hnew : ∀ e ∈ ((s.row table t).take (s.pass.closedBy table t).length).map (·.until s.place),
      ∃ c ∈ (s.row table t).take (s.pass.closedBy table t).length, e = c.until s.place := by
    intro e he
    obtain ⟨c, hc, rfl⟩ := List.mem_map.1 he
    exact ⟨c, hc, rfl⟩
  refine ⟨?_, hdrop, ?_, ?_, ?_⟩
  · intro c hc
    exact Nat.lt_succ_of_le (hrow c (List.mem_of_mem_drop hc)).1
  · intro e he
    rcases List.mem_append.1 he with he | he
    · exact ⟨(h.closed e he).1, (h.closed e he).2.trans (Nat.lt_succ_self _)⟩
    · obtain ⟨c, hc, rfl⟩ := hnew e he
      exact ⟨(hrow c (List.mem_of_mem_take hc)).1, Nat.lt_succ_self _⟩
  · refine List.pairwise_append.2 ⟨h.precede, ?_, ?_⟩
    · exact List.pairwise_map.2 (htake.imp fun hlt => ⟨le_rfl, .inl hlt⟩)
    · intro e he e' he'
      obtain ⟨c, hc, rfl⟩ := hnew e' he'
      exact ⟨(h.closed e he).2.le, (hrow c (List.mem_of_mem_take hc)).2 e he⟩
  · intro e he c hc
    rcases List.mem_append.1 he with he | he
    · exact (hrow c (List.mem_of_mem_drop hc)).2 e he
    · obtain ⟨d, hd, rfl⟩ := hnew e he
      exact .inl (hcross d hd c hc)

/-- Every survey is in order. -/
theorem ordered_of (language : Language) (ts : List Token) : (of language ts).Ordered := by
  induction ts using List.reverseRecOn with
  | nil => exact ⟨by simp, by simp, by simp, by simp, by simp⟩
  | append_singleton ts t ih =>
    rw [of_concat]
    exact ih.step _ t

/-- What the end of the input closes comes last. -/
theorem Ordered.allExtents (h : s.Ordered) : s.allExtents.Pairwise Extent.Precedes := by
  refine List.pairwise_append.2 ⟨h.precede, ?_, ?_⟩
  · exact List.pairwise_map.2 (h.nested.imp fun hlt => ⟨le_rfl, .inl hlt⟩)
  · intro e he e' he'
    obtain ⟨c, hc, rfl⟩ := List.mem_map.1 he'
    exact ⟨(h.closed e he).2.le, h.apart e he c hc⟩

end Survey

namespace Analysis

open Recognizer

variable {language : Language} {source : String} {before after : List Token}

/-- The extents of a text are in order. -/
theorem extents_precede (language : Language) (source : String) :
    (extents language source).Pairwise Extent.Precedes :=
  (Survey.ordered_of language _).allExtents

/-! ## The functions that have closed -/

/-- What closes later has a later place. -/
theorem extents_append (language : Language) (before after : List Token) :
    ∃ more, (Survey.of language (before ++ after)).extents =
        (Survey.of language before).extents ++ more ∧ ∀ e ∈ more, before.length ≤ e.closing := by
  induction after using List.reverseRecOn with
  | nil => exact ⟨[], by simp, by simp⟩
  | append_singleton after t ih =>
    obtain ⟨more, hextents, hmore⟩ := ih
    rw [← List.append_assoc, Survey.of_concat]
    refine ⟨more ++ _, by rw [Survey.step, hextents, List.append_assoc], ?_⟩
    intro e he
    rcases List.mem_append.1 he with he | he
    · exact hmore e he
    · obtain ⟨c, _, rfl⟩ := List.mem_map.1 he
      show before.length ≤ (Survey.of language (before ++ after)).place
      rw [Survey.of_place, List.length_append]
      exact Nat.le_add_right _ _

/-- There is an extent for each function that has closed. -/
theorem length_extents (h : sourceTokens language source = before ++ after) :
    (Survey.of language before).running.length = (passBefore language before).ledger.depth ∧
      (Survey.of language before).extents.length =
        (passBefore language before).ledger.functions.length := by
  -- the rows are as long as those of frames and functions, whatever the relation between them
  have hrows : List.Forall₂ (fun _ _ => True)
        ((passBefore language before).ledger.frames.map (·.undecided))
        (Survey.of language before).running ∧
      List.Forall₂ (fun _ _ => True) (passBefore language before).ledger.functions
        (Survey.of language before).extents := by
    refine forall_beginning (P := fun before => List.Forall₂ (fun _ _ => True)
        ((passBefore language before).ledger.frames.map (·.undecided))
        (Survey.of language before).running ∧
      List.Forall₂ (fun _ _ => True) (passBefore language before).ledger.functions
        (Survey.of language before).extents) ?_ ?_ h
    · rw [passBefore, run_nil, ledger_start]
      exact ⟨.nil, .nil⟩
    · rintro before t after hsplit ⟨hframes, hfunctions⟩
      rw [passBefore, ← Survey.of_pass] at hframes hfunctions
      rw [passBefore, ← Survey.of_pass, Survey.of_concat]
      cases ht : t.isNewline with
      | true =>
        exact Survey.step_newline (by rw [Survey.of_pass]; exact passBefore_idle language before) ht
          hframes hfunctions fun _ _ _ _ _ => trivial
      | false =>
        exact Survey.step_token (by rw [Survey.of_pass]; exact passBefore_sound language before) ht
          (by rw [Survey.of_pass]; exact (ledger_line_before language hsplit).2 ht)
          hframes hfunctions (fun _ _ _ _ _ => trivial) (fun _ _ _ => trivial)
          (fun _ _ _ => trivial) fun _ _ _ _ _ => trivial
  refine ⟨?_, hrows.2.length_eq.symm⟩
  rw [← hrows.1.length_eq, List.length_map]
  rfl

/-- The functions that have closed before a place are those whose extents close before it. -/
theorem functions_closed_before (hsucc : (recognize language source).2 = none)
    (h : sourceTokens language source = before ++ after) :
    (passBefore language before).ledger.functions =
      (recognize language source).1.ledger.functions.take
        ((extents language source).countP fun e => decide (e.closing < before.length)) := by
  obtain ⟨more, hextents, hmore⟩ := extents_append language before after
  have hordered := Survey.ordered_of language before
  have hcount : ((extents language source).countP fun e => decide (e.closing < before.length)) =
      (passBefore language before).ledger.functions.length := by
    rw [extents, Survey.allExtents, h, hextents, List.countP_append, List.countP_append,
      ← (length_extents h).2, List.countP_eq_length.2, List.countP_eq_zero.2, List.countP_eq_zero.2]
    · rfl
    · intro e he
      obtain ⟨c, _, rfl⟩ := List.mem_map.1 he
      simp [Course.until]
    · intro e he
      have := hmore e he
      simpa using this
    · intro e he
      have := (hordered.closed e he).2
      simpa using this
  have hprefix : (passBefore language before).ledger.functions <+:
      (recognize language source).1.ledger.functions := by
    obtain ⟨_, _, hsettles, _⟩ := finish_settles
      (passBefore_sound language (sourceTokens language source)) hsucc
    refine List.IsPrefix.trans ?_ hsettles.functions_isPrefix
    rw [h, passBefore, passBefore, run_append]
    exact functions_isPrefix_run _ (passBefore_sound language before) after
  rw [hcount]
  exact List.prefix_iff_eq_take.1 hprefix

end Analysis

end Cyclomatic
