import Mathlib
import Cyclomatic.Proofs.Lexicon.Lines

/-!
# What lexemes and tokens spell

A text is what its lexemes hold, one after the other (`Lexicon.spelling_lexemes`), and lexemes do not look
back (`Lexicon.lexemes_spelling`). So when the end of a text is replaced, the lexemes before it stay as long
as the rules answer the same there (`Lexicon.lexemes_replaced`).
-/

namespace Cyclomatic

/-! ## Lexemes -/

namespace Lexicon

variable {x : Lexicon}

/-- What is skipped belongs to the lexeme before. -/
theorem split_eq (x : Lexicon) (k : Nat) (done : Array Lexeme) (cs : List Char) :
    (x.split k done cs).toList = done.toList ++ x.lexemes (cs.drop k) := by
  induction cs generalizing k done with
  | nil => simp [lexemes, split]
  | cons c cs ih =>
    cases k with
    | zero =>
      rw [List.drop_zero, lexemes, split, split, ih, ih]
      simp
    | succ k => rw [split, ih, List.drop_succ_cons]

/-- The first lexeme of a text, and then those of the rest. -/
theorem lexemes_cons (x : Lexicon) (c : Char) (cs : List Char) :
    x.lexemes (c :: cs) =
      ⟨(x.classify (c :: cs)).1, c :: cs.take ((x.classify (c :: cs)).2 - 1)⟩ ::
        x.lexemes (cs.drop ((x.classify (c :: cs)).2 - 1)) := by
  rw [lexemes, split, split_eq]
  rfl

/-- The first lexeme of a text that is cut where a rule cuts it. -/
theorem lexemes_append {a b : List Char} {kind : TokenKind} (ha : a ≠ [])
    (h : x.classify (a ++ b) = (kind, a.length)) :
    x.lexemes (a ++ b) = ⟨kind, a⟩ :: x.lexemes b := by
  cases a with
  | nil => exact absurd rfl ha
  | cons c a =>
    rw [List.cons_append] at h ⊢
    rw [lexemes_cons, h, List.length_cons, Nat.add_sub_cancel, List.take_left, List.drop_left]

/-- The characters of lexemes. -/
def spelling (ls : List Lexeme) : List Char :=
  (ls.map (·.text)).flatten

theorem spelling_cons (l : Lexeme) (ls : List Lexeme) :
    spelling (l :: ls) = l.text ++ spelling ls := rfl

theorem spelling_append (ls ms : List Lexeme) :
    spelling (ls ++ ms) = spelling ls ++ spelling ms := by
  simp [spelling]

/-- The lexemes of a text are those of what they hold. -/
theorem spelling_lexemes (x : Lexicon) (cs : List Char) : spelling (x.lexemes cs) = cs :=
  x.lexemes_flatten cs

/-- Lexemes do not look back: the last ones are those of what they hold. -/
theorem lexemes_spelling {cs : List Char} {before after : List Lexeme}
    (h : x.lexemes cs = before ++ after) : x.lexemes (spelling after) = after := by
  induction before generalizing cs with
  | nil =>
    have hspelled := spelling_lexemes x cs
    rw [h, List.nil_append] at hspelled
    rw [hspelled]
    exact h
  | cons a before ih =>
    cases cs with
    | nil => cases h
    | cons c cs =>
      rw [lexemes_cons] at h
      exact ih (List.cons.inj h).2

/-- So are those after a lexeme. -/
theorem lexemes_spelling_after {cs : List Char} {before after : List Lexeme} {l : Lexeme}
    (h : x.lexemes cs = before ++ l :: after) : x.lexemes (spelling after) = after := by
  rw [← List.singleton_append, ← List.append_assoc] at h
  exact lexemes_spelling h

/-- Lexemes stay as they are when what comes after them is replaced, if the rules still take the same. -/
theorem lexemes_replaced {cs rest : List Char} {before after : List Lexeme}
    (h : x.lexemes cs = before ++ after) (hne : spelling after ≠ [])
    (hsame : ∀ u, u ≠ [] → (x.classify (u ++ spelling after)).2 ≤ u.length →
      x.classify (u ++ rest) = x.classify (u ++ spelling after)) :
    x.lexemes (spelling before ++ rest) = before ++ x.lexemes rest := by
  induction before generalizing cs with
  | nil => rfl
  | cons a before ih =>
    cases cs with
    | nil => cases h
    | cons c cs =>
      rw [lexemes_cons, List.cons_append] at h
      obtain ⟨ha, hrest⟩ := List.cons.inj h
      have ih := ih hrest
      obtain ⟨n, hn⟩ : ∃ n, (x.classify (c :: cs)).2 - 1 = n := ⟨_, rfl⟩
      rw [hn] at ha hrest
      have hcut := spelling_lexemes x (cs.drop n)
      rw [hrest, spelling_append] at hcut
      -- the first lexeme ends within the text, since something comes after it
      have htake : (cs.take n).length = n := by
        have hlength := congrArg List.length hcut
        have hpos := List.length_pos_iff.2 hne
        rw [List.length_append, List.length_drop] at hlength
        rw [List.length_take]
        omega
      have hold : c :: cs = (c :: cs.take n ++ spelling before) ++ spelling after := by
        rw [List.append_assoc, hcut, List.cons_append, List.take_append_drop]
      have hclass := hsame (c :: cs.take n ++ spelling before) (by simp)
        (by
          rw [← hold, List.length_append, List.length_cons, htake]
          omega)
      rw [← hold] at hclass
      have hnew : spelling (a :: before) ++ rest = c :: (cs.take n ++ (spelling before ++ rest)) := by
        rw [← ha, spelling_cons]
        simp
      have hnew' : c :: (cs.take n ++ (spelling before ++ rest)) =
          (c :: cs.take n ++ spelling before) ++ rest := by simp
      rw [hnew, lexemes_cons, hnew', hclass, hn, List.take_left' htake, List.drop_left' htake, ih, ha]
      rfl

end Lexicon

/-! ## Tokens -/

open Lexicon

theorem placedFrom_append (p : Position) (ls ms : List Lexeme) :
    placedFrom p (ls ++ ms) = placedFrom p ls ++ placedFrom (p.after (spelling ls)) ms := by
  induction ls generalizing p with
  | nil => rfl
  | cons l ls ih =>
    rw [List.cons_append, placedFrom, ih, ← Position.after_append]
    rfl

/-- Tokens that are split are the tokens of lexemes that are split. -/
theorem placedFrom_eq_append_cons {p : Position} {ls : List Lexeme} {before after : List Token}
    {t : Token} (h : placedFrom p ls = before ++ t :: after) :
    ∃ ms l ns, ls = ms ++ l :: ns ∧ before = placedFrom p ms ∧
      t = l.token (p.after (spelling ms)) ∧
      after = placedFrom ((p.after (spelling ms)).after l.text) ns := by
  induction before generalizing p ls with
  | nil =>
    cases ls with
    | nil => cases h
    | cons l ls =>
      obtain ⟨rfl, rfl⟩ := List.cons.inj h
      exact ⟨[], l, ls, rfl, rfl, rfl, rfl⟩
  | cons u before ih =>
    cases ls with
    | nil => cases h
    | cons l ls =>
      rw [placedFrom, List.cons_append] at h
      obtain ⟨rfl, hrest⟩ := List.cons.inj h
      obtain ⟨ms, m, ns, rfl, rfl, rfl, rfl⟩ := ih hrest
      rw [← Position.after_append]
      exact ⟨l :: ms, m, ns, rfl, rfl, rfl, rfl⟩

/-- The text that tokens make up. -/
def spelled (tokens : List Token) : String :=
  String.ofList (tokens.flatMap (·.text.toList))

theorem spelled_placedFrom (p : Position) (ls : List Lexeme) :
    (spelled (placedFrom p ls)).toList = spelling ls := by
  rw [spelled, String.toList_ofList]
  induction ls generalizing p with
  | nil => rfl
  | cons l ls ih =>
    rw [placedFrom, List.flatMap_cons, ih]
    simp [Lexeme.token, spelling]

/-- The tokens of a text make up the text. -/
theorem spelled_tokens (x : Lexicon) (source : String) : spelled (x.tokens source) = source := by
  apply String.toList_inj.1
  rw [Lexicon.tokens, placed_eq_placedFrom, spelled_placedFrom, spelling_lexemes]

end Cyclomatic
