import Mathlib
import Cyclomatic.Proofs.Ledger.Reading
import Cyclomatic.Proofs.Ledger.Row

/-!
# Ledgers on other lines

Two passes that read the same tokens on different lines have ledgers that differ in little more than their
lines. A `Relocation` says where the lines of the first pass come to lie in the second, which code lines
the second has before them, and how the closed functions of the two correspond. Lines keep their order, so
every entry finds the same functions open, and sets of lines keep their size; so each entry keeps the
correspondence (`Ledger.Moved`).
-/

namespace Cyclomatic

/-! ## Sets of lines -/

/-- Whether none of the lines from `first` to `first + span` is separated from the others. -/
def Together (move : Int ↪o Int) (first : Int) (span : Nat) : Prop :=
  ∀ i ≤ span, move (first + (i : Nat)) = move first + (i : Nat)

/-- A single line is not separated from others. -/
theorem together_zero (move : Int ↪o Int) (first : Int) : Together move first 0 := by
  intro i hi
  obtain rfl := Nat.le_zero.1 hi
  simp

namespace LineSet

variable {s past : LineSet}

theorem insert_of_mem {l : Int} (h : l ∈ s) : s.insert l = s :=
  dif_pos h

theorem lines_insert_of_not_mem {l : Int} (h : l ∉ s) : (s.insert l).lines = l :: s.lines := by
  have hlines : l ∉ s.lines := h
  rw [insert, dif_neg hlines]

theorem insertRun_succ (s : LineSet) (first : Int) (n : Nat) :
    s.insertRun first (n + 1) = (s.insertRun first n).insert (first + n) := by
  simp [insertRun, List.range_succ]

/-- The set with its lines where they come to lie. -/
def moved (move : Int ↪o Int) (s : LineSet) : LineSet :=
  ⟨s.lines.map move, s.nodup.map move.injective⟩

@[simp] theorem size_moved (move : Int ↪o Int) (s : LineSet) : (s.moved move).size = s.size := by
  simp [moved, size]

/-- Entering a line and moving the set is moving both. -/
theorem moved_insert (move : Int ↪o Int) (s : LineSet) (l : Int) :
    (s.insert l).moved move = (s.moved move).insert (move l) := by
  have hmem : move l ∈ (s.moved move).lines ↔ l ∈ s.lines := by
    simp [moved]
  unfold insert
  by_cases h : l ∈ s.lines
  · rw [dif_pos h, dif_pos (hmem.2 h)]
  · rw [dif_neg h, dif_neg (mt hmem.1 h)]
    rfl

/-- Lines that lie together are entered together where they come to lie. -/
theorem moved_insertRun {move : Int ↪o Int} {first : Int} {span : Nat}
    (h : Together move first span) (s : LineSet) :
    (s.insertRun first (span + 1)).moved move =
      (s.moved move).insertRun (move first) (span + 1) := by
  have hfold (n : Nat) (hn : n ≤ span + 1) :
      (s.insertRun first n).moved move = (s.moved move).insertRun (move first) n := by
    induction n with
    | zero => rfl
    | succ n ih =>
      rw [insertRun_succ, insertRun_succ, moved_insert, ih (by omega), h n (by omega)]
  exact hfold (span + 1) le_rfl

/-- Since the lines keep their order, those between two lines come to lie between where the two do. -/
theorem moved_within (move : Int ↪o Int) (s : LineSet) (a b : Int) :
    (s.within a b).moved move = (s.moved move).within (move a) (move b) := by
  simp only [moved, within, LineSet.mk.injEq, List.filter_map]
  congr 1
  apply List.filter_congr
  intro l _
  simp

/-- The lines of a set, entered after those of another. -/
def after (past s : LineSet) : LineSet :=
  s.lines.foldr (fun l entered => entered.insert l) past

theorem after_cons (past : LineSet) {l : Int} {lines : List Int} (h : (l :: lines).Nodup) :
    past.after ⟨l :: lines, h⟩ = (past.after ⟨lines, h.of_cons⟩).insert l := rfl

@[simp] theorem empty_after (s : LineSet) : empty.after s = s := by
  obtain ⟨lines, hnodup⟩ := s
  induction lines with
  | nil => rfl
  | cons l lines ih =>
    have hl : l ∉ lines := (List.nodup_cons.1 hnodup).1
    rw [after_cons, ih hnodup.of_cons, insert, dif_neg hl]

/-- What is entered after other lines is in the set with them. -/
theorem mem_after {m : Int} : m ∈ past.after s ↔ m ∈ s ∨ m ∈ past := by
  obtain ⟨lines, hnodup⟩ := s
  induction lines with
  | nil => exact ⟨.inr, fun h => h.elim (fun hm => absurd hm List.not_mem_nil) id⟩
  | cons l lines ih =>
    rw [after_cons, mem_insert, ih hnodup.of_cons, ← or_assoc]
    exact or_congr_left List.mem_cons.symm

/-- A line entered after others may be entered last. -/
theorem after_insert (past s : LineSet) (l : Int) :
    past.after (s.insert l) = (past.after s).insert l := by
  by_cases h : l ∈ s
  · rw [insert_of_mem h, insert_of_mem (mem_after.2 (.inl h))]
  · rw [after, lines_insert_of_not_mem h]
    rfl

/-- A run of lines entered after others may be entered last. -/
theorem after_insertRun (past s : LineSet) (first : Int) (n : Nat) :
    past.after (s.insertRun first n) = (past.after s).insertRun first n := by
  induction n with
  | zero => rfl
  | succ n ih => rw [insertRun_succ, insertRun_succ, after_insert, ih]

/-- Of sets entered one after the other, what lies beyond the first is what the second has there. -/
theorem within_after {a : Int} (h : ∀ m ∈ past, m < a) (s : LineSet) (b : Int) :
    (past.after s).within a b = s.within a b := by
  have hlines : (past.after s).lines.filter (fun l => decide (a ≤ l) && decide (l ≤ b)) =
      s.lines.filter (fun l => decide (a ≤ l) && decide (l ≤ b)) := by
    obtain ⟨lines, hnodup⟩ := s
    induction lines with
    | nil =>
      refine List.filter_eq_nil_iff.2 fun m hm => ?_
      simp [h m hm]
    | cons l lines ih =>
      have hrest := ih hnodup.of_cons
      rw [after_cons]
      by_cases hmem : l ∈ past.after ⟨lines, hnodup.of_cons⟩
      · -- a line that was there before the first set lies before `a`
        have hpast : l < a := by
          refine h l ((mem_after.1 hmem).resolve_left ?_)
          exact (List.nodup_cons.1 hnodup).1
        rw [insert_of_mem hmem, hrest]
        exact (List.filter_cons_of_neg (by simp [hpast])).symm
      · rw [lines_insert_of_not_mem hmem, List.filter_cons, List.filter_cons, hrest]
  simp only [within, hlines]

end LineSet

/-! ## Frames and functions -/

/-- The frame with its lines where they come to lie. -/
def Frame.moved (move : Int ↪o Int) (f : Frame) : Frame :=
  { f with startLine := move f.startLine, codeLines := f.codeLines.moved move }

/-- The announced token with its lines where they come to lie. -/
def PendingToken.moved (move : Int ↪o Int) : PendingToken → PendingToken
  | announced first span => announced (move first) span
  | p => p

/-- A frame is credited with a token alike when the lines of the token lie together. -/
theorem Frame.credit_moved (f : Frame) {move : Int ↪o Int} {first : Int} {span : Nat}
    (h : Together move first span) :
    (f.moved move).credit (move first) span = (f.credit first span).moved move := by
  rw [Frame.credit, Frame.credit, Frame.moved, Frame.moved, LineSet.moved_insertRun h]

/-- A function claims the announced token in both passes or in neither. -/
theorem PendingToken.claimedBy_moved (move : Int ↪o Int) (p : PendingToken) (endLine : Int) :
    (p.moved move).claimedBy (move endLine) =
      (p.claimedBy endLine).map fun c => (move c.1, c.2) := by
  cases p with
  | idle => rfl
  | settled => rfl
  | announced first span =>
    simp only [moved, claimedBy, move.le_iff_le]
    split <;> rfl

/-- A token that is claimed is announced. -/
theorem PendingToken.eq_announced_of_claimedBy {p : PendingToken} {endLine first : Int} {span : Nat}
    (h : p.claimedBy endLine = some (first, span)) : p = .announced first span := by
  cases p with
  | idle => cases h
  | settled => cases h
  | announced first' span' =>
    rw [claimedBy] at h
    split at h
    · obtain ⟨rfl, rfl⟩ := Prod.mk.inj (Option.some.inj h)
      rfl
    · cases h

/-! ## Relocations -/

/-- How the lines of a pass lie in another one. -/
structure Relocation where
  /-- Where a line comes to lie. -/
  move : Int ↪o Int
  /-- The code lines that the other pass has before. -/
  past : LineSet := .empty
  /-- Where functions may begin. -/
  begins : Int → Prop := fun _ => True
  past_lt : ∀ m ∈ past, ∀ first, begins first → m < move first
  begins_next : ∀ line, begins line → begins (line + 1)
  /-- How the functions that have closed correspond. -/
  reports : List FunctionMeasure → List FunctionMeasure → Prop
  reports_concat : ∀ fs fs', reports fs fs' → ∀ (f : Frame) (endLine : Int),
    reports (fs ++ [f.measure endLine]) (fs' ++ [(f.moved move).measure (move endLine)])

namespace Relocation

variable (C : Relocation)

/-- Functions may begin on any line. -/
class Unrestricted : Prop where
  begins : ∀ line, C.begins line

/-- Of two lines where functions may begin, they may begin on the first. -/
theorem begins_min {a b : Int} (ha : C.begins a) (hb : C.begins b) : C.begins (min a b) := by
  obtain h | h := min_choice a b
  · rwa [h]
  · rwa [h]

theorem move_min (a b : Int) : C.move (min a b) = min (C.move a) (C.move b) :=
  C.move.monotone.map_min

theorem move_max (a b : Int) : C.move (max a b) = max (C.move a) (C.move b) :=
  C.move.monotone.map_max

/-- The code lines of the other pass. -/
def codeLines (s : LineSet) : LineSet :=
  C.past.after (s.moved C.move)

variable {C}

/-- A run of code lines enters the code lines of the other pass where it comes to lie. -/
theorem codeLines_insertRun {first : Int} {span : Nat} (h : Together C.move first span)
    (s : LineSet) :
    C.codeLines (s.insertRun first (span + 1)) =
      (C.codeLines s).insertRun (C.move first) (span + 1) := by
  rw [codeLines, LineSet.moved_insertRun h, LineSet.after_insertRun, codeLines]

/-- From a line where a function may begin, the code lines of the other pass are those of the first where they
come to lie: what it had before lies further up. -/
theorem within_codeLines {first : Int} (h : C.begins first) (s : LineSet) (b : Int) :
    (C.codeLines s).within (C.move first) (C.move b) = (s.within first b).moved C.move := by
  rw [codeLines, LineSet.within_after fun m hm => C.past_lt m hm first h, LineSet.moved_within]

end Relocation

namespace Ledger

/-! ## Two ledgers -/

/-- The ledger `l'` is that of the other pass when `l` is that of the first. -/
structure Moved (C : Relocation) (l l' : Ledger) : Prop where
  line_eq : l'.line = C.move l.line
  begins : C.begins l.line
  frames_eq : l'.frames = l.frames.map (·.moved C.move)
  functions : C.reports l.functions l'.functions
  codeLines_eq : l'.codeLines = C.codeLines l.codeLines
  pending_eq : l'.pending = l.pending.moved C.move
  together : ∀ first span, l.pending = .announced first span → Together C.move first span

variable {C : Relocation} {l l' : Ledger}

/-- As many functions are open in both passes. -/
theorem Moved.depth_eq (h : Moved C l l') : l'.depth = l.depth := by
  rw [depth, h.frames_eq, List.length_map, depth]

/-- The line advances alike where two lines stay together. -/
theorem Moved.nextLine (h : Moved C l l') (hline : Together C.move l.line 1) :
    Moved C l.nextLine l'.nextLine := by
  refine ⟨?_, C.begins_next _ h.begins, h.frames_eq, h.functions, h.codeLines_eq, h.pending_eq,
    h.together⟩
  show l'.line + 1 = C.move (l.line + 1)
  rw [h.line_eq]
  exact (hline 1 le_rfl).symm

/-- A function opens alike. Its frame takes over the code lines from its first line on, and these are the same
in both passes. -/
theorem Moved.openFunction (h : Moved C l l') {start : Int} (hstart : C.begins start)
    (name : String) (params : Int) :
    Moved C (l.openFunction name params (some start))
      (l'.openFunction name params (some (C.move start))) := by
  refine ⟨h.line_eq, h.begins, ?_, h.functions, h.codeLines_eq, h.pending_eq, h.together⟩
  rw [openFunction_frames, openFunction_frames, List.map_cons, h.frames_eq]
  congr 1
  simp only [newFrame, Frame.moved, Option.getD_some, h.line_eq, h.depth_eq, h.codeLines_eq,
    ← C.move_min, C.within_codeLines (C.begins_min hstart h.begins)]

/-- Decisions are recorded alike, in the innermost function or nowhere. -/
theorem Moved.recordDecisions (h : Moved C l l') (count : Int) :
    Moved C (l.recordDecisions count) (l'.recordDecisions count) := by
  have hframes : (l'.recordDecisions count).frames =
      (l.recordDecisions count).frames.map (·.moved C.move) := by
    have hframes := h.frames_eq
    unfold Ledger.recordDecisions
    cases hl : l.frames with
    | nil =>
      rw [hl, List.map_nil] at hframes
      simp [hframes]
    | cons f fs =>
      rw [hl, List.map_cons] at hframes
      simp [hframes, Frame.moved]
  constructor
  case frames_eq => exact hframes
  all_goals simp only [recordDecisions_line, recordDecisions_functions, recordDecisions_codeLines,
    recordDecisions_pending]
  case line_eq => exact h.line_eq
  case begins => exact h.begins
  case functions => exact h.functions
  case codeLines_eq => exact h.codeLines_eq
  case pending_eq => exact h.pending_eq
  case together => exact h.together

/-- A token is announced alike if its lines lie together. -/
theorem Moved.announce (h : Moved C l l') {lineSpan : Int}
    (hlines : Together C.move l.line (extraLines lineSpan)) :
    Moved C (l.announce lineSpan) (l'.announce lineSpan) := by
  refine ⟨h.line_eq, h.begins, h.frames_eq, h.functions, h.codeLines_eq, ?_, ?_⟩
  · show PendingToken.announced l'.line _ = PendingToken.announced (C.move l.line) _
    rw [h.line_eq]
  · intro first span hpending
    obtain ⟨rfl, rfl⟩ := PendingToken.announced.inj hpending
    exact hlines

/-- A token that has been credited is no longer announced. -/
theorem Moved.idle (h : Moved C l l') :
    Moved C { l with pending := .idle } { l' with pending := .idle } :=
  ⟨h.line_eq, h.begins, h.frames_eq, h.functions, h.codeLines_eq, rfl, fun _ _ h => by cases h⟩

/-- The innermost function is credited alike. -/
theorem Moved.creditInnermost (h : Moved C l l') {first : Int} {span : Nat}
    (hlines : Together C.move first span) :
    Moved C (l.creditInnermost first span) (l'.creditInnermost (C.move first) span) := by
  refine ⟨h.line_eq, h.begins, ?_, h.functions, ?_, h.pending_eq, h.together⟩
  · have hframes := h.frames_eq
    unfold Ledger.creditInnermost
    dsimp only
    rw [hframes]
    cases l.frames with
    | nil => rfl
    | cons f fs => exact congrArg (· :: _) (f.credit_moved hlines)
  · show l'.codeLines.insertRun _ _ = C.codeLines (l.codeLines.insertRun _ _)
    rw [h.codeLines_eq, C.codeLines_insertRun hlines]

/-- An announced token is credited alike; without one the current line is. -/
theorem Moved.credit (h : Moved C l l') : Moved C l.credit l'.credit := by
  have hpending := h.pending_eq
  unfold Ledger.credit
  dsimp only
  rw [hpending]
  cases hl : l.pending with
  | idle =>
    have hcredit := h.idle.creditInnermost (together_zero C.move l.line)
    rw [← h.line_eq] at hcredit
    exact hcredit
  | announced first span => exact h.idle.creditInnermost (h.together first span hl)
  | settled => exact h.idle

/-- The innermost function closes alike. It ends where its last line comes to lie, and it claims the announced
token in both passes or in neither. -/
theorem Moved.closeFunction (h : Moved C l l') (endLine : Option Int) :
    Moved C (l.closeFunction endLine) (l'.closeFunction (endLine.map C.move)) := by
  cases hl : l.frames with
  | nil =>
    have hl' : l'.frames = [] := by rw [h.frames_eq, hl]; rfl
    rw [closeFunction_of_frames_eq_nil hl, closeFunction_of_frames_eq_nil hl']
    exact h
  | cons f fs =>
    have hl' : l'.frames = f.moved C.move :: fs.map (·.moved C.move) := by
      rw [h.frames_eq, hl]
      rfl
    have hlast : max ((endLine.map C.move).getD l'.line) (f.moved C.move).startLine =
        C.move (max (endLine.getD l.line) f.startLine) := by
      rw [C.move_max, h.line_eq]
      cases endLine <;> rfl
    generalize hend : max (endLine.getD l.line) f.startLine = endLine' at hlast
    have hclaims := l.pending.claimedBy_moved C.move endLine'
    unfold Ledger.closeFunction
    rw [hl, hl']
    dsimp only
    rw [hlast, hend, h.pending_eq, hclaims]
    cases hclaim : l.pending.claimedBy endLine' with
    | none =>
      simp only [Option.map_none]
      refine ⟨h.line_eq, h.begins, rfl, ?_, h.codeLines_eq, rfl, h.together⟩
      simp only [Ledger.functions, Array.toList_push]
      exact C.reports_concat _ _ h.functions f endLine'
    | some c =>
      obtain ⟨first, span⟩ := c
      -- the announced token is credited to the function before it closes
      have hlines := h.together first span (PendingToken.eq_announced_of_claimedBy hclaim)
      simp only [Option.map_some]
      refine ⟨h.line_eq, h.begins, rfl, ?_, ?_, rfl, fun _ _ h => by cases h⟩
      · simp only [Ledger.functions, Array.toList_push]
        rw [f.credit_moved hlines]
        exact C.reports_concat _ _ h.functions (f.credit first span) endLine'
      · show l'.codeLines.insertRun _ _ = C.codeLines (l.codeLines.insertRun _ _)
        rw [h.codeLines_eq, C.codeLines_insertRun hlines]

/-- Since as many functions are open in both passes, they all close alike. -/
theorem Moved.closeAll (h : Moved C l l') : Moved C l.closeAll l'.closeAll := by
  have hfold (frames frames' : List Frame) (hlength : frames'.length = frames.length)
      {l l' : Ledger} (h : Moved C l l') :
      Moved C (frames.foldl (fun l _ => l.closeFunction) l)
        (frames'.foldl (fun l _ => l.closeFunction) l') := by
    induction frames generalizing frames' l l' with
    | nil =>
      rw [List.length_eq_zero_iff.1 hlength]
      exact h
    | cons f fs ih =>
      cases frames' with
      | nil => cases hlength
      | cons f' fs' => exact ih fs' (Nat.succ.inj hlength) (h.closeFunction none)
  exact hfold _ _ h.depth_eq h

end Ledger

end Cyclomatic
