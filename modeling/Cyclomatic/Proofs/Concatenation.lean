import Mathlib
import Cyclomatic.Proofs.Concatenation.Indent
import Cyclomatic.Proofs.ScopeStack

/-!
# Texts one after the other

Nothing leaks from one part of a Go or Python file into the next. If nothing is open at the end of the
first part, the functions of both parts together are those of the first and those of the second, further
down (`Analysis.functions_concatenate`). Of the first part the pass over the second keeps the functions
that have closed and the code lines, all of which lie before the lines of the second part. In Go nothing
else is left; in Python the functions of the first part close where the second begins.
-/

namespace Cyclomatic

namespace Recognizer

variable {table : DecisionTable} {r r' : Recognizer} {t : Token}

/-! ## Go -/

/-- A state outside signatures and braces is that of a pass that begins on its line, but for what has
closed. -/
theorem Go.moved_start {s : Go} (hphase : s.phase = .outside) (hdepth : s.braces.depth = 0)
    (hagrees : (Recognizer.go s).ScopesAgree) (hidle : s.braces.ledger.pending = .idle)
    (hpast : ∀ m ∈ s.braces.ledger.codeLines, m ≤ s.braces.ledger.line - 1) :
    Go.Moved (following (s.braces.ledger.line - 1) s.braces.ledger.codeLines hpast
      s.braces.ledger.functions) (Go.start 1) s := by
  have hbodies := hagrees.1.bodies_eq_nil hdepth hagrees.2
  refine ⟨hphase, fun h => absurd rfl h, hdepth, hbodies, ?_⟩
  refine ⟨?_, le_rfl, hagrees.1.frames_eq_nil hbodies, ?_, rfl, hidle, fun _ _ h => by cases h⟩
  · show s.braces.ledger.line = 1 + (s.braces.ledger.line - 1)
    omega
  · exact (List.append_nil _).symm

/-- A pass that ends outside braces measures the functions that have closed. -/
theorem conclude_go {s : Go} (hdepth : s.braces.depth = 0) (hagrees : (Recognizer.go s).ScopesAgree) :
    (Recognizer.go s).conclude = .ok s.braces.ledger.functions := by
  have hsucc : (Recognizer.go s).finish.2 = none := by
    show s.braces.openAtEnd? = none
    rw [Braces.openAtEnd?, hdepth]
    rfl
  have hframes : s.braces.ledger.frames = [] :=
    hagrees.1.frames_eq_nil (hagrees.1.bodies_eq_nil hdepth hagrees.2)
  rw [conclude_of_finish hsucc]
  show Except.ok s.braces.ledger.closeAll.functions = _
  rw [Ledger.closeAll_of_frames_eq_nil hframes]

/-- A line break at the end of a part changes nothing but the line. -/
theorem go_of_feed_newline (ht : t.isNewline = true) {s : Go} (h : r.feed table t = .go s) :
    ∃ s₀ : Go, r = .go s₀ ∧ s.braces = { s₀.braces with ledger := s₀.braces.ledger.nextLine } := by
  rw [feed_of_isNewline table r ht] at h
  cases r with
  | go s₀ =>
    obtain rfl := Recognizer.go.inj h
    exact ⟨s₀, rfl, by rw [Go.read, if_pos ht, Go.readNewline_braces]; rfl⟩
  | script s₀ => cases h
  | indent s₀ => cases h

theorem functionsAfter_go {before : List Token} (hahead : Ahead 0 ((start .go).run table before))
    (ht : t.EndsLine) {s : Go} (h : (start .go).takeAll? table (before ++ [t]) = some (.go s))
    (hphase : s.phase = .outside) (hdepth : s.braces.depth = 0) (after : List Token) :
    (start .go).functionsAfter table before = .ok s.braces.ledger.functions ∧
      (start .go).functionsAfter table (before ++ t :: after) =
        joined (s.braces.ledger.line - 1) s.braces.ledger.functions
          ((start .go).functionsAfter table after) := by
  have hagrees (ts : List Token) : ((start .go).run table ts).ScopesAgree :=
    scopesAgree_run table (scopesAgree_start .go 1) (sound_start .go 1) ts
  have hagrees' : (Recognizer.go s).ScopesAgree := eq_run_of_takeAll? h ▸ hagrees _
  rw [List.append_cons, functionsAfter_append h]
  rw [takeAll?_append, Option.bind_eq_some_iff] at h
  obtain ⟨r, hr, hs⟩ := h
  rw [takeAll?_cons, refuses_of_isNewline ht.isNewline, if_neg Bool.false_ne_true, takeAll?_nil,
    Option.some.injEq] at hs
  rw [← eq_run_of_takeAll? hr] at hahead
  have hpast := hahead.codeLines_lt table ht.isNewline
  have hidle := pending_feed table hahead.sound hahead.idle t
  rw [hs] at hpast hidle
  refine ⟨?_, (Moved.go (Go.moved_start hphase hdepth hagrees' hidle hpast)).functionsAfter table after⟩
  obtain ⟨s₀, rfl, hbraces⟩ := go_of_feed_newline ht.isNewline hs
  have hconclude : (Recognizer.go s₀).conclude = .ok s₀.braces.ledger.functions := by
    refine conclude_go ?_ (eq_run_of_takeAll? hr ▸ hagrees _)
    rw [hbraces] at hdepth
    exact hdepth
  rw [functionsAfter, hr]
  dsimp only
  rw [hconclude, hbraces]
  rfl

/-! ## Python -/

theorem functionsAfter_indent {before after : List Token}
    (hahead : Ahead 0 ((start .python).run table before)) (ht : t.EndsLine)
    (hcolumns : ∀ u ∈ before, u.isNewline = false → 0 ≤ u.column) {s : Indent}
    (h : (start .python).takeAll? table before = some (.indent s)) (hbrackets : s.bracketDepth = 0)
    (hafter : Indent.BeginsAtMargin after) :
    (start .python).functionsAfter table before = .ok s.releaseHeader.measured ∧
      (start .python).functionsAfter table (before ++ t :: after) =
        joined s.ledger.line s.releaseHeader.measured ((start .python).functionsAfter table after) := by
  have hs := eq_run_of_takeAll? h
  have hagrees : (indent s).ScopesAgree :=
    hs ▸ scopesAgree_run table (scopesAgree_start .python 1) (sound_start .python 1) before
  obtain ⟨s', hs', hzero⟩ := Indent.exists_fromZero_run (s := Indent.start 1)
    ⟨le_rfl, le_rfl, by simp [Indent.start]⟩ table hcolumns
  obtain rfl := Recognizer.indent.inj (hs.trans hs')
  rw [← hs] at hahead
  obtain ⟨s', hfeed, hawaits⟩ := Indent.exists_awaits hahead hagrees hzero hbrackets table ht
  have hpast : ∀ m ∈ s.ledger.codeLines, m ≤ s.ledger.line := fun m hm =>
    (hahead.codeLines_le m hm).trans (add_zero _).le
  constructor
  · rw [functionsAfter, h]
    exact Indent.conclude_indent hahead.sound hagrees hbrackets hahead.idle
  · rw [functionsAfter_append h, functionsAfter_cons, refuses_of_isNewline ht.isNewline, hfeed]
    exact hawaits.functionsAfter hpast le_rfl table hafter

end Recognizer

/-! ## Both parts -/

namespace Analysis

open Recognizer

/-- Whether the functions of two parts, with the line break `nl` between them, are those of the first and
those of the second, as many lines further down as the first part and the line break take. The pass over
both fails if that over the second does, with the same error. -/
def Joins (language : Language) (before : List Token) (nl : Token) (after : List Token) : Prop :=
  ∃ fs, functionsOf language before = .ok fs ∧
    functionsOf language (before ++ nl :: after) =
      joined (1 + (before.countP (·.isNewline) : Nat)) fs (functionsOf language after)

theorem column_nonneg_of_mem_significantTokens {xs : List Token} (hxs : ∀ t ∈ xs, 0 ≤ t.column) :
    ∀ u ∈ significantTokens xs, u.isNewline = false → 0 ≤ u.column := by
  intro u hu hn
  obtain ⟨t, ht, hu⟩ := List.mem_flatMap.1 hu
  rcases Token.mem_significant hu with rfl | hnewline
  · exact hxs u ht
  · rw [hnewline] at hn
    cases hn

/-- The functions of a text that is put together from two parts. In Go the first part and the line break
after it must lead out of all signatures and braces. In Python the first part must lead out of all
brackets, and the first token of the second, if there is one, must stand on column 0, where columns count
from 0. -/
theorem functions_concatenate (xs ys : List Token) {nl : Token} (hnl : nl.EndsLine) :
    (∀ s, (start .go).takeAll? (.of .go) (significantTokens xs ++ [nl]) = some (.go s) →
      s.phase = .outside → s.braces.depth = 0 →
      Joins .go (significantTokens xs) nl (significantTokens ys)) ∧
    (∀ s, (start .python).takeAll? (.of .python) (significantTokens xs) = some (.indent s) →
      s.bracketDepth = 0 → (∀ t ∈ xs, 0 ≤ t.column) → Indent.BeginsAtMargin (significantTokens ys) →
      Joins .python (significantTokens xs) nl (significantTokens ys)) := by
  have hahead (language : Language) :
      Ahead 0 ((start language).run (.of language) (significantTokens xs)) :=
    (ahead_start language).significantTokens _ xs
  have hline (language : Language) {r : Recognizer} {ts : List Token}
      (hr : (start language).takeAll? (.of language) ts = some r) :
      r.ledger.line = 1 + (ts.countP (·.isNewline) : Nat) := by
    rw [eq_run_of_takeAll? hr, ledger_run_line _ (sound_start language 1), ledger_start]
  constructor
  · intro s hs hphase hdepth
    obtain ⟨hbefore, hboth⟩ :=
      functionsAfter_go (hahead .go) hnl hs hphase hdepth (significantTokens ys)
    have hlast : s.braces.ledger.line - 1 =
        1 + ((significantTokens xs).countP (·.isNewline) : Nat) := by
      have hr : s.braces.ledger.line = _ := hline .go hs
      rw [hr, List.countP_append, List.countP_singleton, hnl.isNewline]
      simp [add_comm]
    rw [hlast] at hboth
    exact ⟨_, hbefore, hboth⟩
  · intro s hs hbrackets hxs hys
    obtain ⟨hbefore, hboth⟩ := functionsAfter_indent (hahead .python) hnl
      (column_nonneg_of_mem_significantTokens hxs) hs hbrackets hys
    have hlast : s.ledger.line = _ := hline .python hs
    rw [hlast] at hboth
    exact ⟨_, hbefore, hboth⟩

/-- A function in Go, over two lines. -/
def goFunction (name : String) : List Token :=
  [⟨.code, "func", 1, 0, false⟩, ⟨.code, name, 1, 5, false⟩, ⟨.code, "(", 1, 6, false⟩,
    ⟨.code, ")", 1, 7, false⟩, ⟨.code, "\x7b", 1, 9, false⟩, ⟨.newline, "\n", 1, 10, false⟩,
    ⟨.code, "\x7d", 2, 0, false⟩]

/-- A function in Python, over two lines. -/
def pythonFunction (name : String) : List Token :=
  [⟨.code, "def", 1, 0, false⟩, ⟨.code, name, 1, 4, false⟩, ⟨.code, "(", 1, 5, false⟩,
    ⟨.code, ")", 1, 6, false⟩, ⟨.code, ":", 1, 7, false⟩, ⟨.newline, "\n", 1, 8, false⟩,
    ⟨.code, "pass", 2, 2, false⟩]

/-- A line break after such functions. -/
def lineEnd : Token :=
  ⟨.newline, "\n", 2, 9, false⟩

/-- Two functions in Go, and two in Python. -/
theorem functions_concatenate_twoFunctions :
    functionsOf .go (significantTokens (goFunction "f") ++ lineEnd ::
      significantTokens (goFunction "g")) =
        .ok [⟨"f", 1, 2, 1, 2, 0, 2, 0⟩, ⟨"g", 3, 4, 1, 2, 0, 2, 0⟩] ∧
    functionsOf .python (significantTokens (pythonFunction "f") ++ lineEnd ::
      significantTokens (pythonFunction "g")) =
        .ok [⟨"f", 1, 2, 1, 2, 0, 2, 0⟩, ⟨"g", 3, 4, 1, 2, 0, 2, 0⟩] := by
  have hgo (name : String) (h : name = "f" ∨ name = "g") :
      functionsOf .go (significantTokens (goFunction name)) =
        .ok [⟨name, 1, 2, 1, 2, 0, 2, 0⟩] := by
    rcases h with rfl | rfl <;> decide +kernel
  have hpython (name : String) (h : name = "f" ∨ name = "g") :
      functionsOf .python (significantTokens (pythonFunction name)) =
        .ok [⟨name, 1, 2, 1, 2, 0, 2, 0⟩] := by
    rcases h with rfl | rfl <;> decide +kernel
  have hend : lineEnd.EndsLine := ⟨rfl, rfl⟩
  have hmargin : Indent.BeginsAtMargin (significantTokens (pythonFunction "g")) := by
    intro t ht
    rw [← Option.some.inj ht]
  obtain ⟨fs, hfs, hboth⟩ :=
    (functions_concatenate (goFunction "f") (goFunction "g") hend).1 _ rfl rfl rfl
  obtain ⟨gs, hgs, hboth'⟩ :=
    (functions_concatenate (pythonFunction "f") (pythonFunction "g") hend).2 _ rfl rfl (by decide) hmargin
  obtain rfl := Except.ok.inj (hfs.symm.trans (hgo "f" (.inl rfl)))
  obtain rfl := Except.ok.inj (hgs.symm.trans (hpython "f" (.inl rfl)))
  rw [hboth, hboth', hgo "g" (.inr rfl), hpython "g" (.inr rfl)]
  exact ⟨rfl, rfl⟩

end Analysis

end Cyclomatic
