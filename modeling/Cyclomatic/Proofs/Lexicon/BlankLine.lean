import Mathlib
import Cyclomatic.Proofs.Lexicon.Lookahead
import Cyclomatic.Proofs.Lexicon.Spelling

/-!
# Blank lines between lexemes

A line break that is put in after a newline lexeme is a lexeme of its own, and all others stay as they are
(`Lexicon.lexemes_blankLine`). Lexemes after it do not look back. Those before it look ahead, but the
rules for them are steady (`Steady`): where a rule takes something that ends before a line break, it takes
the same if there are two breaks, and where it takes nothing, it still takes nothing. An unfinished
comment or string stays unfinished.
-/

namespace Cyclomatic

open Text

/-! ## Steady rules -/

/-- A rule is steady if a line break more does not matter, as long as what the rule takes ends before. -/
def Steady (rule : List Char → Option Nat) : Prop :=
  ∀ u v, (rule (u ++ '\n' :: v) = none → rule (u ++ '\n' :: '\n' :: v) = none) ∧
    ∀ n ≤ u.length, rule (u ++ '\n' :: v) = some n → rule (u ++ '\n' :: '\n' :: v) = some n

/-- A steady rule agrees on one line break and on two. -/
theorem Steady.agrees {rule : List Char → Option Nat} (h : Steady rule) (v : List Char) :
    Agrees ('\n' :: v) ('\n' :: '\n' :: v) rule :=
  fun u => h u v

/-- A mark without line breaks that is nowhere in a text is nowhere after a line break either. -/
theorem endOfFrom_lineBreak {mark : List Char} (hmark : '\n' ∉ mark) (hne : mark ≠ []) {v : List Char}
    (h : endOfFrom mark 0 v = none) : endOfFrom mark 0 ('\n' :: v) = none := by
  have hprefix : mark.isPrefixOf ('\n' :: v) = false := by
    have hstop := isPrefixOf_stop hmark [] v
    rw [List.nil_append] at hstop
    rw [hstop]
    cases mark with
    | nil => exact absurd rfl hne
    | cons m mark => rfl
  rw [endOfFrom, hprefix, if_neg (by simp)]
  exact (endOfFrom_eq_none_iff _ _ _ _).1 h

/-- What is left open before a line break is left open before two. -/
theorem unfinished_blankLine {q : Char} (hq : q ≠ '\n') (v : List Char) :
    Unfinished q '\n' v ('\n' :: v) := by
  refine ⟨hq.symm, fun multiline h => ?_, fun multiline h => ?_, fun h => ?_⟩
  · rw [closingFrom_break hq] at h ⊢
    split at h
    · rw [if_pos ‹_›, closingFrom_break hq, if_pos ‹_›]
      exact (closingFrom_eq_none_iff _ _ _ _ _).1 h
    · rw [if_neg ‹_›]
  · rw [closingFrom_break hq]
    split
    · exact (closingFrom_eq_none_iff _ _ _ _ _).1 h
    · rfl
  · exact endOfFrom_lineBreak (by simp [hq.symm]) (by simp) h

namespace Lexicon

variable {x : Lexicon}

theorem steady_commentLength? (hx : x.OneLine) : Steady x.commentLength? := by
  intro u v
  have hblock : Agrees ('\n' :: v) ('\n' :: '\n' :: v) x.blockCommentLength? :=
    agrees_blockCommentLength? (by decide) rfl (endOfFrom_lineBreak (by decide) (by decide))
  refine hblock.orElse (agrees_of_eq fun u => ?_) u
  rw [lineCommentLength?_lineBreak hx, lineCommentLength?_lineBreak hx]

theorem steady_stringLength? (hx : x.OneLine) : Steady x.stringLength? := fun u v =>
  agrees_stringLength? (fun quote hquote => unfinished_blankLine (hx.quotes quote hquote) v) u

/-! ## Lexemes -/

/-- A lexeme that ends before a line break stays as it is if there are two breaks. -/
theorem classify_blankLine (hx : x.OneLine) {u : List Char} (hu : u ≠ []) (v : List Char)
    (h : (x.classify (u ++ '\n' :: v)).2 ≤ u.length) :
    x.classify (u ++ '\n' :: '\n' :: v) = x.classify (u ++ '\n' :: v) := by
  apply classify_agrees _ _ _ ((steady_commentLength? hx).agrees v)
    ((steady_stringLength? hx).agrees v) _ h
  · exact newlineLength?_congr (by decide) u ('\n' :: v) v
  · exact continuationLength?_congr (by decide) (by decide) u ('\n' :: v) v
  · rw [blankLength_stop (by decide), blankLength_stop (by decide)]
  · rw [codeLength_stop stops_lineBreak hx.tail_symbols hu,
      codeLength_stop stops_lineBreak hx.tail_symbols hu]

theorem lexemes_lineFeed (x : Lexicon) (cs : List Char) :
    x.lexemes ('\n' :: cs) = ⟨.newline, ['\n']⟩ :: x.lexemes cs := by
  rw [lexemes_cons]
  rfl

theorem lexemes_carriageReturn (x : Lexicon) (cs : List Char) :
    x.lexemes ('\r' :: '\n' :: cs) = ⟨.newline, ['\r', '\n']⟩ :: x.lexemes cs := by
  rw [lexemes_cons]
  rfl

/-- A newline lexeme ends with its line break, and begins the same way before any text. -/
theorem lexemes_newline {cs : List Char} {l : Lexeme} {after : List Lexeme}
    (h : x.lexemes cs = l :: after) (hl : l.kind = .newline) :
    (∃ w, l.text = w ++ ['\n']) ∧
      ∀ rest, x.lexemes (l.text ++ rest) = l :: x.lexemes rest := by
  cases cs with
  | nil => cases h
  | cons c cs =>
    rw [lexemes_cons] at h
    obtain ⟨rfl, _⟩ := List.cons.inj h
    have hlength := classify_newline x (c :: cs) hl
    dsimp only at hl ⊢
    rw [hl]
    generalize (x.classify (c :: cs)).2 = n at hlength
    unfold newlineLength? at hlength
    split at hlength
    · rename_i heq
      obtain ⟨rfl, rfl⟩ := List.cons.inj heq
      obtain rfl := Option.some.inj hlength
      exact ⟨⟨[], rfl⟩, fun rest => lexemes_lineFeed x rest⟩
    · rename_i heq
      obtain ⟨rfl, rfl⟩ := List.cons.inj heq
      obtain rfl := Option.some.inj hlength
      exact ⟨⟨['\r'], rfl⟩, fun rest => lexemes_carriageReturn x rest⟩
    · cases hlength

/-- A line break after a newline lexeme is a lexeme of its own, and leaves the others as they are. -/
theorem lexemes_blankLine (hx : x.OneLine) {cs : List Char} {before after : List Lexeme} {l : Lexeme}
    (h : x.lexemes cs = before ++ l :: after) (hl : l.kind = .newline) :
    x.lexemes (spelling before ++ (l.text ++ '\n' :: spelling after)) =
      before ++ l :: ⟨.newline, ['\n']⟩ :: after := by
  obtain ⟨⟨w, hw⟩, hbegin⟩ := lexemes_newline (lexemes_spelling h) hl
  rw [lexemes_replaced h _ _, hbegin, lexemes_lineFeed, lexemes_spelling_after h]
  · rw [spelling_cons, hw]
    simp
  · intro u hu hlength
    -- what comes before the break is the end of the lexemes before, and a carriage return
    have hold : u ++ spelling (l :: after) = (u ++ w) ++ '\n' :: spelling after := by
      rw [spelling_cons, hw]
      simp
    have hnew : u ++ (l.text ++ '\n' :: spelling after) =
        (u ++ w) ++ '\n' :: '\n' :: spelling after := by
      rw [hw]
      simp
    rw [hold] at hlength ⊢
    rw [hnew]
    apply classify_blankLine hx (by simp [hu])
    rw [List.length_append]
    omega

end Lexicon

/-! ## Tokens -/

open Lexicon

/-- The place one line further down. -/
def Position.down (p : Position) : Position :=
  { p with line := p.line + 1 }

theorem Position.after_down (p : Position) (cs : List Char) :
    p.down.after cs = (p.after cs).down := by
  induction cs generalizing p with
  | nil => rfl
  | cons c cs ih =>
    have hnext : p.down.next c = (p.next c).down := by
      unfold Position.next
      split <;> rfl
    rw [after_cons, after_cons, hnext, ih]

/-- A token one line further down. -/
def Token.down (t : Token) : Token :=
  { t with line := t.line + 1 }

theorem placedFrom_down (p : Position) (ls : List Lexeme) :
    placedFrom p.down ls = (placedFrom p ls).map (·.down) := by
  induction ls generalizing p with
  | nil => rfl
  | cons l ls ih =>
    rw [placedFrom, placedFrom, List.map_cons, Position.after_down, ih]
    rfl

/-- A line break after a newline token is a newline token, and all tokens after it are one line further
down. -/
theorem tokens_blankLine {x : Lexicon} (hx : x.OneLine) {source : String}
    {before after : List Token} {t : Token} (h : x.tokens source = before ++ t :: after)
    (ht : t.isNewline = true) :
    x.tokens (spelled (before ++ [t]) ++ "\n" ++ spelled after) =
      before ++ t :: ⟨.newline, "\n", t.line + 1, 0, false⟩ :: after.map (·.down) := by
  rw [Lexicon.tokens, placed_eq_placedFrom] at h
  obtain ⟨ms, l, ns, hlexemes, rfl, rfl, rfl⟩ := placedFrom_eq_append_cons h
  have hkind : l.kind = .newline := beq_iff_eq.1 ht
  obtain ⟨⟨w, hw⟩, _⟩ := lexemes_newline (lexemes_spelling hlexemes) hkind
  have hone : l.text.count '\n' = 1 :=
    x.count_newline_lexeme _ l (by rw [hlexemes]; simp) hkind
  generalize hq : ({} : Position).after (spelling ms) = q
  -- after a line break a place is at the beginning of its line
  have hline : (q.after l.text).line = q.line + 1 := by rw [Position.line_after, hone]
  have hcolumn : (q.after l.text).column = 0 := by
    rw [hw, Position.after_append]
    rfl
  have hdown : (q.after l.text).after ['\n'] = (q.after l.text).down := by
    show (q.after l.text).next '\n' = _
    rw [Position.next, if_pos rfl, Position.down, hcolumn]
  have hsource : (spelled (placedFrom {} ms ++ [l.token q]) ++ "\n" ++
      spelled (placedFrom (q.after l.text) ns)).toList =
        spelling ms ++ (l.text ++ '\n' :: spelling ns) := by
    have hfirst := placedFrom_append {} ms [l]
    rw [hq] at hfirst
    rw [show placedFrom q [l] = [l.token q] from rfl] at hfirst
    rw [← hfirst, String.toList_append, String.toList_append, spelled_placedFrom, spelled_placedFrom]
    simp [spelling]
  rw [Lexicon.tokens, placed_eq_placedFrom, hsource, lexemes_blankLine hx hlexemes hkind,
    placedFrom_append, hq, placedFrom, placedFrom, hdown, placedFrom_down]
  congr 3
  rw [Lexeme.token, hcolumn, hline]
  rfl

/-- What is significant of a token one line further down. -/
theorem significantTokens_down (ts : List Token) :
    significantTokens (ts.map (·.down)) = (significantTokens ts).map (·.down) := by
  have hinner (t : Token) : t.down.innerBreaks = t.innerBreaks.map (·.down) := by
    simp [Token.innerBreaks, Token.down, add_right_comm]
  have hsignificant (t : Token) : t.down.significant = t.significant.map (·.down) := by
    unfold Token.significant
    rw [hinner, show t.down.isNewline = t.isNewline from rfl,
      show t.down.isSubstance = t.isSubstance from rfl]
    split
    · rfl
    · split <;> rfl
  induction ts with
  | nil => rfl
  | cons t ts ih =>
    show t.down.significant ++ significantTokens (ts.map (·.down)) =
      (t.significant ++ significantTokens ts).map (·.down)
    rw [hsignificant, ih, List.map_append]

end Cyclomatic
