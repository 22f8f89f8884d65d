import Cyclomatic.Token

/-!
# Code and line breaks among tokens

A line break is no code, and the line breaks inside a token are line breaks among the significant tokens.
-/

namespace Cyclomatic

namespace Token

variable {t u : Token}

/-- Whether a token is a line break that stands for itself, and not for one inside another token. -/
structure EndsLine (t : Token) : Prop where
  isNewline : t.isNewline = true
  explicit : t.implicit = false

/-- A code token with the given text. -/
def IsText (t : Token) (text : String) : Prop :=
  t.isCode = true ∧ t.text = text

instance (t : Token) (text : String) : Decidable (t.IsText text) :=
  inferInstanceAs (Decidable (_ ∧ _))

/-- A line break is no code. -/
theorem isCode_of_isNewline (h : t.isNewline = true) : t.isCode = false := by
  rw [isNewline, beq_iff_eq] at h
  rw [isCode, h]
  rfl

/-- A code token is no line break. -/
theorem isNewline_of_isCode (h : t.isCode = true) : t.isNewline = false := by
  cases hn : t.isNewline with
  | false => rfl
  | true =>
    rw [isCode_of_isNewline hn] at h
    cases h

theorem isNewline_of_mem_innerBreaks (h : u ∈ t.innerBreaks) : u.isNewline = true := by
  obtain ⟨i, _, rfl⟩ := List.mem_map.1 h
  rfl

theorem length_innerBreaks (t : Token) : t.innerBreaks.length = lineBreaks t.text := by
  simp [innerBreaks]

/-- What is significant of a token is the token itself or a line break. -/
theorem mem_significant (h : u ∈ t.significant) : u = t ∨ u.isNewline = true := by
  unfold significant at h
  split at h
  · exact .inl (List.mem_singleton.1 h)
  · split at h
    · rcases List.mem_cons.1 h with h | h
      · exact .inl h
      · exact .inr (isNewline_of_mem_innerBreaks h)
    · exact .inr (isNewline_of_mem_innerBreaks h)

/-- Nothing of a comment on one line is significant. -/
theorem significant_comment (ht : t.kind = .comment) (hbreaks : lineBreaks t.text = 0) :
    t.significant = [] := by
  have hnewline : t.isNewline = false := by rw [Token.isNewline, ht]; rfl
  have hsubstance : t.isSubstance = false := by rw [Token.isSubstance, ht]; rfl
  have hinner : t.innerBreaks = [] := by rw [Token.innerBreaks, hbreaks]; rfl
  rw [Token.significant, hnewline, hsubstance, hinner]
  rfl

end Token

theorem significantTokens_append (ts us : List Token) :
    significantTokens (ts ++ us) = significantTokens ts ++ significantTokens us := by
  simp [significantTokens]

theorem significantTokens_cons (t : Token) (ts : List Token) :
    significantTokens (t :: ts) = t.significant ++ significantTokens ts := rfl

/-- Code tokens with the given texts. -/
def codeTokens (texts : List String) : List Token :=
  texts.map fun text => { kind := .code, text }

/-- The first of some tokens is significant if it is a line break. -/
theorem significantTokens_newline {t : Token} (ht : t.isNewline = true) (ts : List Token) :
    significantTokens (t :: ts) = t :: significantTokens ts := by
  rw [significantTokens_cons, Token.significant, if_pos ht]
  rfl

end Cyclomatic
