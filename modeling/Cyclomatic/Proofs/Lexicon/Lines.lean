import Mathlib
import Cyclomatic.Analysis
import Cyclomatic.Proofs.Token

/-!
# Lines of tokens

Two counters say on which line a token stands. The lexer moves on by the line breaks in the text of each
token; a reader of the significant tokens only sees line breaks as tokens of their own. Both agree
(`Analysis.sourceTokens_followLines`), because splitting a text loses nothing of it (`Lexicon.lexemes_flatten`),
a newline token holds exactly one line break (`Lexicon.count_newline_lexeme`), and the line breaks inside
any other token are handed on as implicit ones (`Token.countP_significant`).
-/

namespace Cyclomatic

/-! ## Places -/

/-- A place moves down by the line breaks of the text before it. -/
theorem Position.line_after (p : Position) (cs : List Char) :
    (p.after cs).line = p.line + cs.count '\n' := by
  induction cs generalizing p with
  | nil => simp
  | cons c cs ih =>
    rw [Position.after_cons, ih, List.count_cons, Position.next]
    by_cases hc : c = '\n'
    · simp [hc]
      omega
    · simp [hc]

/-- Puts lexemes in their places, the first at `p`. -/
def placedFrom (p : Position) : List Lexeme → List Token
  | [] => []
  | l :: ls => l.token p :: placedFrom (p.after l.text) ls

/-- The tokens of a text begin at its first place. -/
theorem placed_eq_placedFrom (ls : List Lexeme) : placed ls = placedFrom {} ls := by
  have hfold (q : Position × Array Token) :
      (ls.foldl (fun q l => (q.1.after l.text, q.2.push (l.token q.1))) q).2.toList =
        q.2.toList ++ placedFrom q.1 ls := by
    induction ls generalizing q with
    | nil => simp [placedFrom]
    | cons l ls ih => simp [ih, placedFrom]
  exact hfold ({}, #[])

/-! ## Lexemes -/

namespace Lexicon

/-- Splitting loses nothing: the lexemes hold the text that is left after the one before. -/
theorem split_flatten (x : Lexicon) (k : Nat) (done : Array Lexeme) (cs : List Char) :
    ((x.split k done cs).toList.map (·.text)).flatten =
      (done.toList.map (·.text)).flatten ++ cs.drop k := by
  induction cs generalizing k done with
  | nil => simp [split]
  | cons c cs ih =>
    cases k with
    | zero =>
      -- a lexeme begins here, and its other characters are those that are skipped next
      rw [split, ih]
      simp
    | succ k => rw [split, ih, List.drop_succ_cons]

/-- The lexemes of a text make up the text. -/
theorem lexemes_flatten (x : Lexicon) (cs : List Char) :
    ((x.lexemes cs).map (·.text)).flatten = cs := by
  rw [lexemes, split_flatten]
  simp

/-- What every lexeme at the front of a text satisfies, all lexemes of a text do. -/
theorem split_forall (x : Lexicon) {P : Lexeme → Prop}
    (hP : ∀ c cs, P ⟨(x.classify (c :: cs)).1, c :: cs.take ((x.classify (c :: cs)).2 - 1)⟩)
    (k : Nat) (done : Array Lexeme) (cs : List Char) (hdone : ∀ l ∈ done.toList, P l) :
    ∀ l ∈ (x.split k done cs).toList, P l := by
  induction cs generalizing k done with
  | nil => simpa [split] using hdone
  | cons c cs ih =>
    cases k with
    | zero =>
      rw [split]
      apply ih
      intro l hl
      rw [Array.toList_push, List.mem_append, List.mem_singleton] at hl
      rcases hl with hl | rfl
      · exact hdone l hl
      · exact hP c cs
    | succ k =>
      rw [split]
      exact ih k done hdone

theorem lexemes_forall (x : Lexicon) {P : Lexeme → Prop}
    (hP : ∀ c cs, P ⟨(x.classify (c :: cs)).1, c :: cs.take ((x.classify (c :: cs)).2 - 1)⟩)
    (cs : List Char) : ∀ l ∈ x.lexemes cs, P l :=
  split_forall x hP 0 #[] cs (by simp)

/-- Only the rule for line breaks makes newline lexemes. -/
theorem classify_newline (x : Lexicon) (cs : List Char) (h : (x.classify cs).1 = .newline) :
    newlineLength? cs = some (x.classify cs).2 := by
  unfold classify at h ⊢
  cases hn : newlineLength? cs with
  | some n => rfl
  | none =>
    rw [hn] at h
    dsimp only at h
    split at h
    · cases h
    · split at h
      · cases h
      · split at h
        · cases h
        · split at h <;> cases h

/-- A newline lexeme holds exactly one line break. -/
theorem count_newline_lexeme (x : Lexicon) (cs : List Char) :
    ∀ l ∈ x.lexemes cs, l.kind = .newline → l.text.count '\n' = 1 := by
  apply lexemes_forall
  intro c cs h
  have hlength := classify_newline x (c :: cs) h
  generalize (x.classify (c :: cs)).2 = n at hlength
  unfold newlineLength? at hlength
  split at hlength
  · rename_i cs' heq
    obtain ⟨rfl, rfl⟩ := List.cons.inj heq
    obtain rfl := Option.some.inj hlength
    simp
  · rename_i cs' heq
    obtain ⟨rfl, rfl⟩ := List.cons.inj heq
    obtain rfl := Option.some.inj hlength
    simp
  · cases hlength

end Lexicon

/-! ## Lines and line breaks -/

/-- The tokens that are no line breaks stand on the lines that the line breaks before them lead to, if
the first line is `line`. -/
def FollowLines : Int → List Token → Prop
  | _, [] => True
  | line, t :: ts =>
    if t.isNewline then FollowLines (line + 1) ts else t.line = line ∧ FollowLines line ts

/-- Tokens that follow other tokens begin on the line where those end. -/
theorem followLines_append (line : Int) (ts us : List Token) :
    FollowLines line (ts ++ us) ↔
      FollowLines line ts ∧ FollowLines (line + (ts.countP (·.isNewline) : Nat)) us := by
  induction ts generalizing line with
  | nil => simp [FollowLines]
  | cons t ts ih =>
    rw [List.cons_append, FollowLines, FollowLines, List.countP_cons]
    cases ht : t.isNewline with
    | true =>
      simp only [if_true]
      rw [ih]
      push_cast
      rw [add_assoc, add_comm (1 : Int)]
    | false =>
      simp only [Bool.false_eq_true, if_false, Nat.add_zero]
      rw [ih, and_assoc]

/-- Line breaks alone can follow any line. -/
theorem followLines_of_forall_isNewline (line : Int) {ts : List Token}
    (h : ∀ t ∈ ts, t.isNewline = true) : FollowLines line ts := by
  induction ts generalizing line with
  | nil => trivial
  | cons t ts ih =>
    rw [FollowLines, if_pos (h t List.mem_cons_self)]
    exact ih (line + 1) fun u hu => h u (List.mem_cons_of_mem t hu)

theorem Token.countP_innerBreaks (t : Token) :
    t.innerBreaks.countP (·.isNewline) = lineBreaks t.text := by
  rw [List.countP_eq_length.2 fun u hu => isNewline_of_mem_innerBreaks hu, t.length_innerBreaks]

/-- What is significant of a token stands on the token's line. -/
theorem Token.followLines_significant (t : Token) : FollowLines t.line t.significant := by
  have hinner (line : Int) : FollowLines line t.innerBreaks :=
    followLines_of_forall_isNewline line fun u hu => isNewline_of_mem_innerBreaks hu
  unfold significant
  cases ht : t.isNewline with
  | true => simp [FollowLines, ht]
  | false =>
    simp only [Bool.false_eq_true, if_false]
    split
    · simp only [FollowLines, ht, Bool.false_eq_true, if_false, true_and]
      exact hinner _
    · exact hinner _

/-- The line breaks in a token's text are all significant. -/
theorem Token.countP_significant (t : Token) (ht : t.isNewline = true → lineBreaks t.text = 1) :
    t.significant.countP (·.isNewline) = lineBreaks t.text := by
  unfold significant
  cases hn : t.isNewline with
  | true => simp [hn, ht hn]
  | false =>
    simp only [Bool.false_eq_true, if_false]
    split
    · simp [hn, countP_innerBreaks]
    · exact countP_innerBreaks t

/-- Placed one after the other, lexemes follow the lines, and none of their line breaks is lost. -/
theorem followLines_placedFrom (p : Position) (ls : List Lexeme)
    (hls : ∀ l ∈ ls, l.kind = .newline → l.text.count '\n' = 1) :
    FollowLines p.line (significantTokens (placedFrom p ls)) ∧
      (significantTokens (placedFrom p ls)).countP (·.isNewline) =
        ((ls.map (·.text)).flatten).count '\n' := by
  induction ls generalizing p with
  | nil => exact ⟨trivial, rfl⟩
  | cons l ls ih =>
    obtain ⟨hfollow, hcount⟩ := ih (p.after l.text) fun m hm => hls m (List.mem_cons_of_mem l hm)
    have hbreaks : lineBreaks (l.token p).text = l.text.count '\n' := by
      simp [lineBreaks, Lexeme.token]
    have hfirst : (l.token p).significant.countP (·.isNewline) = l.text.count '\n' := by
      rw [← hbreaks]
      apply Token.countP_significant
      intro hn
      rw [hbreaks]
      exact hls l List.mem_cons_self (by simpa [Token.isNewline, Lexeme.token] using hn)
    have hcons : significantTokens (placedFrom p (l :: ls)) =
        (l.token p).significant ++ significantTokens (placedFrom (p.after l.text) ls) := rfl
    rw [hcons]
    constructor
    · -- the next lexeme begins where both counters have moved by the line breaks of this one
      rw [followLines_append, hfirst]
      refine ⟨(l.token p).followLines_significant, ?_⟩
      rw [Position.line_after] at hfollow
      exact_mod_cast hfollow
    · rw [List.countP_append, hfirst, hcount, List.map_cons, List.flatten_cons, List.count_append]

namespace Analysis

/-- The significant tokens of a source text stand on the lines that the line breaks among them lead to. -/
theorem sourceTokens_followLines (language : Language) (source : String) :
    FollowLines 1 (sourceTokens language source) := by
  rw [sourceTokens, Lexicon.tokens, placed_eq_placedFrom]
  exact (followLines_placedFrom {} _ (Lexicon.count_newline_lexeme _ _)).1

/-- The significant tokens of a source text have all of its line breaks. -/
theorem countP_sourceTokens (language : Language) (source : String) :
    (sourceTokens language source).countP (·.isNewline) = lineBreaks source := by
  rw [sourceTokens, Lexicon.tokens, placed_eq_placedFrom,
    (followLines_placedFrom {} _ (Lexicon.count_newline_lexeme _ _)).2, Lexicon.lexemes_flatten,
    lineBreaks]

/-- The line that the significant tokens `before` lead to. -/
def lineAfter (before : List Token) : Int :=
  1 + (before.countP (·.isNewline) : Nat)

/-- A token of a source text stands on the line that the line breaks before it lead to. -/
theorem line_of_sourceTokens {language : Language} {source : String} {before after : List Token}
    {t : Token} (h : sourceTokens language source = before ++ t :: after)
    (ht : t.isNewline = false) : t.line = 1 + (before.countP (·.isNewline) : Nat) := by
  have hfollow := sourceTokens_followLines language source
  rw [h, followLines_append, FollowLines] at hfollow
  simp only [ht, Bool.false_eq_true, if_false] at hfollow
  exact hfollow.2.1

end Analysis

end Cyclomatic
