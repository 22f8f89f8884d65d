import Mathlib
import Cyclomatic.Proofs.Lexicon.Lines
import Cyclomatic.Proofs.Lexicon.OneLine

/-!
# The lines that tokens touch

Tokens come in the order of their lines. The last line that the tokens so far touch (`lastTouched`) is
reached before the next token, and before the next line break that is none of theirs
(`Analysis.lastTouched_le`): only the line breaks inside a token come before it. Code tokens touch one
line (`Analysis.lineBreaks_of_isCode`).
-/

namespace Cyclomatic

/-! ## Code stands on one line -/

namespace Lexicon

/-- Only the last rule makes code. -/
theorem classify_code (x : Lexicon) (cs : List Char) (h : (x.classify cs).1 = .code) :
    newlineLength? cs = none ∧ (x.classify cs).2 = x.codeLength cs := by
  unfold classify at h ⊢
  cases hn : newlineLength? cs with
  | some n =>
    rw [hn] at h
    cases h
  | none =>
    rw [hn] at h
    dsimp only at h ⊢
    refine ⟨rfl, ?_⟩
    split at h
    · cases h
    · split at h
      · cases h
      · split at h
        · cases h
        · split at h
          · cases h
          · rfl

/-- A code lexeme holds no line break. -/
theorem count_code_lexeme {x : Lexicon} (hx : x.OneLine) (cs : List Char) :
    ∀ l ∈ x.lexemes cs, l.kind = .code → l.text.count '\n' = 0 := by
  apply lexemes_forall
  intro c cs h
  obtain ⟨hnewline, hlength⟩ := classify_code x (c :: cs) h
  have hc : c ≠ '\n' := by
    rintro rfl
    cases hnewline
  have hnone := not_mem_take_codeLength hx c cs hc
  rw [← hlength] at hnone
  rw [List.count_eq_zero]
  intro hmem
  apply hnone
  -- the lexeme has at least one character, and that is no line break
  generalize (x.classify (c :: cs)).2 = n at hmem ⊢
  rcases List.mem_cons.1 hmem with hc' | hmem
  · exact absurd hc'.symm hc
  · cases n with
    | zero => simp at hmem
    | succ n => exact List.mem_cons_of_mem c (by simpa using hmem)

end Lexicon

/-- A token in its place is that of a lexeme. -/
theorem mem_placedFrom {p : Position} {ls : List Lexeme} {t : Token} (h : t ∈ placedFrom p ls) :
    ∃ l ∈ ls, t.kind = l.kind ∧ lineBreaks t.text = l.text.count '\n' := by
  induction ls generalizing p with
  | nil => cases h
  | cons l ls ih =>
    rcases List.mem_cons.1 h with rfl | h
    · exact ⟨l, List.mem_cons_self, rfl, by simp [lineBreaks, Lexeme.token]⟩
    · obtain ⟨m, hm, hkind⟩ := ih h
      exact ⟨m, List.mem_cons_of_mem l hm, hkind⟩

/-- A code token of a source text touches one line. -/
theorem Analysis.lineBreaks_of_isCode {language : Language} {source : String} {t : Token}
    (ht : t ∈ sourceTokens language source) (hcode : t.isCode = true) : lineBreaks t.text = 0 := by
  obtain ⟨u, hu, htu⟩ := List.mem_flatMap.1 ht
  rcases Token.mem_significant htu with rfl | hnewline
  · rw [Lexicon.tokens, placed_eq_placedFrom] at hu
    obtain ⟨l, hl, hkind, hbreaks⟩ := mem_placedFrom hu
    rw [hbreaks]
    apply Lexicon.count_code_lexeme (Lexicon.oneLine_of (some language)) _ l hl
    rw [← hkind]
    exact beq_iff_eq.1 hcode
  · rw [Token.isCode_of_isNewline hnewline] at hcode
    cases hcode

/-! ## The order of the lines -/

/-- The last line that a token touches. -/
def Token.lastLine (t : Token) : Int :=
  t.line + lineBreaks t.text

/-- The last line that tokens touch, if `last` is the last line that was touched before them. -/
def lastTouchedFrom (last : Int) (tokens : List Token) : Int :=
  tokens.foldl (fun last t => if t.isNewline then last else t.lastLine) last

/-- The last line that the last of the tokens touches, line breaks aside, or 0 if there is none. -/
def lastTouched (tokens : List Token) : Int :=
  lastTouchedFrom 0 tokens

/-- Tokens are in order if no token, and no line break but those inside a token, comes before the last
line that was touched. The first line is `line`, and `last` was touched before. -/
def InOrder : Int → Int → List Token → Prop
  | last, line, [] => last ≤ line
  | last, line, t :: ts =>
    if t.isNewline then (t.implicit = false → last ≤ line) ∧ InOrder last (line + 1) ts
    else last ≤ line ∧ InOrder (line + lineBreaks t.text) line ts

/-- The line breaks inside a token bring the order back to the last line of the token. -/
theorem inOrder_innerBreaks (t : Token) (last line : Int) (ts : List Token) :
    InOrder last line (t.innerBreaks ++ ts) ↔ InOrder last (line + lineBreaks t.text) ts := by
  unfold Token.innerBreaks
  induction lineBreaks t.text generalizing ts with
  | zero => simp
  | succ n ih =>
    rw [List.range_succ, List.map_append, List.append_assoc, ih, List.map_singleton,
      List.singleton_append, InOrder, if_pos (show Token.isNewline _ = true from rfl)]
    simp only [Bool.true_eq_false, false_implies, true_and]
    push_cast
    rw [add_assoc]

/-- Lexemes in their places are in order. -/
theorem inOrder_placedFrom (p : Position) (ls : List Lexeme) {last : Int} (hlast : last ≤ p.line)
    (hls : ∀ l ∈ ls, l.kind = .newline → l.text.count '\n' = 1) :
    InOrder last p.line (significantTokens (placedFrom p ls)) := by
  induction ls generalizing p last with
  | nil => exact hlast
  | cons l ls ih =>
    have hrest {last : Int} (h : last ≤ (p.after l.text).line) :=
      ih (p.after l.text) h fun m hm => hls m (List.mem_cons_of_mem l hm)
    -- a lexeme ends as many lines down as it has line breaks
    have hbreaks : lineBreaks (l.token p).text = l.text.count '\n' := by
      simp [lineBreaks, Lexeme.token]
    have hline : ((p.after l.text).line : Int) = p.line + lineBreaks (l.token p).text := by
      rw [Position.line_after, hbreaks]
      push_cast
      rfl
    have hcons : significantTokens (placedFrom p (l :: ls)) =
        (l.token p).significant ++ significantTokens (placedFrom (p.after l.text) ls) := rfl
    rw [hcons, Token.significant]
    cases hn : (l.token p).isNewline with
    | true =>
      have hone : l.text.count '\n' = 1 :=
        hls l List.mem_cons_self (by simpa [Token.isNewline, Lexeme.token] using hn)
      rw [hbreaks, hone] at hline
      simp only [if_true, List.singleton_append, InOrder, hn]
      refine ⟨fun _ => hlast, ?_⟩
      have h := hrest (show last ≤ _ by omega)
      rw [hline] at h
      exact_mod_cast h
    | false =>
      simp only [Bool.false_eq_true, if_false]
      split
      · rw [List.cons_append, InOrder, if_neg (by simp [hn]), inOrder_innerBreaks, ← hline]
        exact ⟨hlast, hrest le_rfl⟩
      · rw [inOrder_innerBreaks, ← hline]
        exact hrest (by omega)

/-- Tokens in order are in order after some of them. -/
theorem InOrder.append {last line : Int} {ts us : List Token} (h : InOrder last line (ts ++ us))
    (hlines : FollowLines line ts) :
    InOrder (lastTouchedFrom last ts) (line + (ts.countP (·.isNewline) : Nat)) us := by
  induction ts generalizing last line with
  | nil => simpa [lastTouchedFrom] using h
  | cons t ts ih =>
    rw [List.cons_append, InOrder] at h
    rw [FollowLines] at hlines
    rw [lastTouchedFrom, List.foldl_cons, List.countP_cons]
    cases ht : t.isNewline with
    | true =>
      rw [if_pos ht] at h hlines
      have hstep := ih h.2 hlines
      simp only [if_true]
      push_cast
      rw [add_comm _ (1 : Int), ← add_assoc]
      exact hstep
    | false =>
      rw [if_neg (by simp [ht])] at h hlines
      have hstep := ih h.2 hlines.2
      rw [← hlines.1] at hstep ⊢
      simpa [lastTouchedFrom, Token.lastLine] using hstep

/-- What holds of no tokens, and after a token if it did before, holds of every beginning of a list of
tokens. -/
theorem forall_beginning {tokens : List Token} {P : List Token → Prop} (nil : P [])
    (concat : ∀ before t after, tokens = before ++ t :: after → P before → P (before ++ [t]))
    {before after : List Token} (h : tokens = before ++ after) : P before := by
  induction before using List.reverseRecOn generalizing after with
  | nil => exact nil
  | append_singleton before t ih =>
    rw [List.append_assoc, List.singleton_append] at h
    exact concat before t after h (ih h)

theorem lastTouched_concat (ts : List Token) (t : Token) :
    lastTouched (ts ++ [t]) = if t.isNewline then lastTouched ts else t.lastLine := by
  simp [lastTouched, lastTouchedFrom]

namespace Analysis

/-- The tokens of a source text so far do not reach beyond the present line, unless the next token is a
line break inside the last of them. -/
theorem lastTouched_le {language : Language} {source : String} {before after : List Token}
    (h : sourceTokens language source = before ++ after)
    (hafter : ∀ t ∈ after.head?, t.isNewline = true → t.implicit = false) :
    lastTouched before ≤ 1 + (before.countP (·.isNewline) : Nat) := by
  have hfollow := sourceTokens_followLines language source
  have horder : InOrder 0 1 (sourceTokens language source) := by
    rw [sourceTokens, Lexicon.tokens, placed_eq_placedFrom]
    exact inOrder_placedFrom {} _ (by decide) (Lexicon.count_newline_lexeme _ _)
  rw [h, followLines_append] at hfollow
  rw [h] at horder
  have hrest : InOrder (lastTouched before) (1 + (before.countP (·.isNewline) : Nat)) after :=
    horder.append hfollow.1
  cases after with
  | nil => exact hrest
  | cons t ts =>
    rw [InOrder] at hrest
    split at hrest
    · exact hrest.1 (hafter t rfl ‹_›)
    · exact hrest.1

variable {language : Language} {source : String} {before after : List Token} {t : Token}

theorem mem_of_split (h : sourceTokens language source = before ++ t :: after) :
    t ∈ sourceTokens language source := by
  rw [h]
  simp

theorem getElem?_split (h : sourceTokens language source = before ++ t :: after) :
    (sourceTokens language source)[before.length]? = some t := by
  rw [h]
  simp

/-- The tokens so far do not reach beyond the line of the next token. -/
theorem lastTouched_le_line (h : sourceTokens language source = before ++ t :: after)
    (hn : t.isNewline = false) : lastTouched before ≤ t.line := by
  rw [line_of_sourceTokens h hn]
  refine lastTouched_le h fun u hu hu' => ?_
  obtain rfl := Option.some.inj hu
  rw [hn] at hu'
  cases hu'

end Analysis

end Cyclomatic
