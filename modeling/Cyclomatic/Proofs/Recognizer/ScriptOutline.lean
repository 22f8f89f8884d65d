import Mathlib
import Cyclomatic.Proofs.Ledger.Outline
import Cyclomatic.Proofs.Recognizer.ScriptCorrespondence
import Cyclomatic.Proofs.Recognizer.ScriptPass

/-!
# Outlines do not depend on lines

A pass over TypeScript or JavaScript can be followed without its lines and the tokens of its functions: there
is a correspondence with states that lie on one line and know the outlines of the functions only
(`Correspondence.outline`). It needs no line break and no credit, so the passes over the same tokens at any
places correspond to the same state if they do at first (`Recognizer.SameOutline.run`). At the end they have
the same functions, up to their lines and tokens.
-/

namespace Cyclomatic

open FunctionOutline

/-! ## Ledgers -/

/-- The ledger `l'` lies on line 0 and has the functions of `l`, up to lines and tokens. -/
structure Ledger.Outlined (l l' : Ledger) : Prop where
  line_eq : l'.line = 0
  closed_eq : l'.closedOutlines = l.closedOutlines
  open_eq : l'.openOutlines = l.openOutlines

namespace Ledger.Outlined

variable {l l' m : Ledger}

/-- The row of outlines is the same. -/
theorem outlines_eq (h : Outlined l l') : l'.outlines = l.outlines := by
  rw [outlines, h.closed_eq, h.open_eq, outlines]

/-- Only the outlines matter. -/
theorem congr (h : Outlined l l') (hclosed : m.closedOutlines = l.closedOutlines)
    (hopen : m.openOutlines = l.openOutlines) : Outlined m l' :=
  ⟨h.line_eq, h.closed_eq.trans hclosed.symm, h.open_eq.trans hopen.symm⟩

/-- A function opens with the same outline on any line. -/
theorem openFunction (h : Outlined l l') (name : String) (params start start' : Int) :
    Outlined (l.openFunction name params (some start)) (l'.openFunction name params (some start')) :=
  ⟨h.line_eq, h.closed_eq, congrArg (_ :: ·) h.open_eq⟩

/-- Decisions go to the same outline. -/
theorem recordDecisions (h : Outlined l l') (count : Nat) :
    Outlined (l.recordDecisions count) (l'.recordDecisions count) where
  line_eq := (recordDecisions_line l' count).trans h.line_eq
  closed_eq := by rw [closedOutlines_recordDecisions, closedOutlines_recordDecisions, h.closed_eq]
  open_eq := by rw [openOutlines_recordDecisions, openOutlines_recordDecisions, h.open_eq]

/-- A function closes with the same outline. -/
theorem closeFunction (h : Outlined l l') : Outlined l.closeFunction l'.closeFunction where
  line_eq := (closeFunction_line l' none).trans h.line_eq
  closed_eq := by rw [closedOutlines_closeFunction, closedOutlines_closeFunction, h.closed_eq, h.open_eq]
  open_eq := by rw [openOutlines_closeFunction, openOutlines_closeFunction, h.open_eq]

end Ledger.Outlined

/-- A pass is followed without its lines. -/
def Correspondence.outline : Correspondence where
  line _ := 0
  ledgers := Ledger.Outlined
  line_eq h := h.line_eq
  openFunction h _ _ name params := h.openFunction name params _ _
  recordDecisions h count := h.recordDecisions count
  closeFunction h := h.closeFunction

instance : Correspondence.outline.Unrestricted :=
  ⟨fun _ => trivial⟩

/-! ## Passes -/

/-- The token without its place. -/
def Token.unplaced (t : Token) : Token :=
  { t with line := 1, column := 0 }

namespace Recognizer

open Script

variable {table : DecisionTable} {s s' x : Script}

/-- Nothing about the place of a token is read. -/
theorem Script.read_unplaced (table : DecisionTable) (s : Script) (t : Token) :
    s.read table t.unplaced = s.read table t := rfl

/-- Reads tokens without announcing and crediting them. -/
def Script.readAll (table : DecisionTable) (s : Script) (ts : List Token) : Script :=
  ts.foldl (·.read table ·) s

/-- Nothing about the places of tokens is read. -/
theorem Script.readAll_unplaced (table : DecisionTable) (s : Script) (ts : List Token) :
    s.readAll table (ts.map Token.unplaced) = s.readAll table ts := by
  induction ts generalizing s with
  | nil => rfl
  | cons t ts ih =>
    rw [List.map_cons, readAll, List.foldl_cons, read_unplaced]
    exact ih _

/-- What keeps the outlines goes unnoticed. -/
theorem Script.Corresponds.outline_mapLedger (h : Corresponds .outline s x) {f : Ledger → Ledger}
    (hclosed : ∀ l, (f l).closedOutlines = l.closedOutlines)
    (hopen : ∀ l, (f l).openOutlines = l.openOutlines) : Corresponds .outline (s.mapLedger f) x :=
  h.mapLedger f id (h.braces.ledger.congr (hclosed _) (hopen _))

/-- The credit of a token goes unnoticed. -/
theorem Script.Corresponds.outline_credit (h : Corresponds .outline s x) :
    Corresponds .outline (s.mapLedger (·.credit)) x :=
  h.outline_mapLedger (Ledger.closedOutlines_credit · 1) (Ledger.openOutlines_credit · 1)

/-- Line breaks and credits go unnoticed. -/
theorem feed_outline (h : Corresponds .outline s x) (table : DecisionTable) (t : Token) :
    ∃ s', (script s).feed table t = script s' ∧ Corresponds .outline s' (x.read table t) := by
  cases ht : t.isNewline with
  | true =>
    have hline := h.outline_mapLedger (f := Ledger.nextLine) (fun _ => rfl) fun _ => rfl
    refine ⟨_, feed_script_newline ht, ?_⟩
    rw [Script.read, if_pos ht]
    exact hline.readNewline t.implicit
  | false =>
    have hannounced := h.outline_mapLedger (f := (·.announce t.lineSpan)) (fun _ => rfl) fun _ => rfl
    exact ⟨_, feed_script_token ht, (hannounced.read table t).outline_credit⟩

/-- A pass can be followed on its outlines, without line breaks and credits. -/
theorem run_outline (h : Corresponds .outline s x) (table : DecisionTable) (ts : List Token) :
    ∃ s', (script s).run table ts = script s' ∧ Corresponds .outline s' (x.readAll table ts) := by
  induction ts generalizing s x with
  | nil => exact ⟨s, rfl, h⟩
  | cons t ts ih =>
    obtain ⟨y, hy, hread⟩ := feed_outline h table t
    obtain ⟨s', hs', hrun⟩ := ih hread
    exact ⟨s', by rw [run_cons, hy, hs'], hrun⟩

/-- Two passes that are the same up to lines and tokens. -/
def SameOutline (s s' : Script) : Prop :=
  ∃ x, Corresponds .outline s x ∧ Corresponds .outline s' x

/-- Passes that are the same up to lines and tokens remain so over the same tokens, wherever these stand. -/
theorem SameOutline.run (h : SameOutline s s') (table : DecisionTable) {ts us : List Token}
    (hts : us.map Token.unplaced = ts.map Token.unplaced) :
    ∃ y y', (script s).run table ts = script y ∧ (script s').run table us = script y' ∧ SameOutline y y' := by
  obtain ⟨x, hx, hx'⟩ := h
  obtain ⟨y, hy, hrun⟩ := run_outline hx table ts
  obtain ⟨y', hy', hrun'⟩ := run_outline hx' table us
  rw [← readAll_unplaced, hts, readAll_unplaced] at hrun'
  exact ⟨y, y', hy, hy', _, hrun, hrun'⟩

/-- A credit changes no outline. -/
theorem SameOutline.credit (h : SameOutline s s') :
    SameOutline (s.mapLedger (·.credit)) (s'.mapLedger (·.credit)) := by
  obtain ⟨x, hx, hx'⟩ := h
  exact ⟨x, hx.outline_credit, hx'.outline_credit⟩

/-- They end with the same error and the same outlines. -/
theorem SameOutline.finish (h : SameOutline s s') : s'.finish.2 = s.finish.2 ∧
    s'.finish.1.braces.ledger.outlines = s.finish.1.braces.ledger.outlines := by
  obtain ⟨x, hx, hx'⟩ := h
  obtain ⟨herror, hend⟩ := hx.finish
  obtain ⟨herror', hend'⟩ := hx'.finish
  refine ⟨herror'.symm.trans herror, ?_⟩
  rw [← hend.braces.ledger.outlines_eq, ← hend'.braces.ledger.outlines_eq]

/-! ## Signatures -/

/-- No signature is lost by a token. -/
theorem signatures_subset_feed (table : DecisionTable) {r : Recognizer} (hr : r.Sound) (t : Token) :
    r.ledger.signatures ⊆ (r.feed table t).ledger.signatures := by
  cases ht : t.isNewline with
  | true =>
    obtain ⟨k, hsettles, -⟩ := feed_newline_settles table r ht
    rw [hsettles.signatures_eq]
    exact List.Subset.refl _
  | false =>
    obtain ⟨reach, k, m, hreads, hm, -⟩ := absorb_reads table hr ht
    rw [feed_of_not_isNewline table r ht, hm, Ledger.signatures_credit]
    exact hreads.signatures_subset

/-- No signature is lost by tokens. -/
theorem signatures_subset_run (table : DecisionTable) {r : Recognizer} (hr : r.Sound) (ts : List Token) :
    r.ledger.signatures ⊆ (r.run table ts).ledger.signatures := by
  induction ts generalizing r with
  | nil => exact List.Subset.refl _
  | cons t ts ih => exact List.Subset.trans (signatures_subset_feed table hr t) (ih (hr.feed table t))

end Recognizer

end Cyclomatic
