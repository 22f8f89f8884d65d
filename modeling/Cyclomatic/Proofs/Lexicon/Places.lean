import Mathlib
import Cyclomatic.Proofs.Lexicon.BlankLine

/-!
# Places of tokens

The place of a token is kept up character by character while a text is split. It can be read off the
text before the token (`Lexicon.tokens_in_place`): the line from the line breaks in it, and the column
from what stands on the last of its lines (`currentLine`), with the tabs replaced by blanks
(`expandTabs`).
-/

namespace Cyclomatic

/-! ## Columns -/

/-- What stands on the last line of a text, behind its last line break. -/
def currentLine (cs : List Char) : List Char :=
  (cs.reverse.takeWhile (· != '\n')).reverse

@[simp] theorem currentLine_lineBreak (cs : List Char) : currentLine (cs ++ ['\n']) = [] := by
  simp [currentLine]

@[simp] theorem currentLine_concat (cs : List Char) {c : Char} (hc : c ≠ '\n') :
    currentLine (cs ++ [c]) = currentLine cs ++ [c] := by
  simp [currentLine, hc]

/-- The line that goes on with a character, where a tab is as many blanks as lead to the next tab
stop. -/
def expandTab (line : List Char) (c : Char) : List Char :=
  if c = '\t' then line ++ List.replicate (tabWidth - line.length % tabWidth) ' ' else line ++ [c]

/-- A line in which blanks stand for the tabs. -/
def expandTabs (line : List Char) : List Char :=
  line.foldl expandTab []

theorem expandTabs_concat (line : List Char) (c : Char) :
    expandTabs (line ++ [c]) = expandTab (expandTabs line) c := by
  rw [expandTabs, List.foldl_concat]
  rfl

/-- The column after a character is the width of the line with it. -/
theorem length_expandTab (line : List Char) (c : Char) :
    (expandTab line c).length = columnAfter line.length c := by
  unfold expandTab columnAfter tabWidth
  by_cases hc : c = '\t'
  · rw [if_pos hc, if_pos hc, List.length_append, List.length_replicate]
    omega
  · rw [if_neg hc, if_neg hc, List.length_append, List.length_singleton]

/-- The column after a text is the width of its last line. -/
theorem Position.column_after (cs : List Char) :
    (Position.after {} cs).column = (expandTabs (currentLine cs)).length := by
  induction cs using List.reverseRecOn with
  | nil => rfl
  | append_singleton cs c ih =>
    rw [after_append, after_cons, after_nil, next]
    by_cases hc : c = '\n'
    · subst hc
      rw [if_pos rfl, currentLine_lineBreak]
      rfl
    · rw [if_neg hc, currentLine_concat cs hc, expandTabs_concat, length_expandTab, ih]

/-! ## Tokens -/

/-- A lexeme has a character at least. -/
theorem Lexicon.text_ne_nil (x : Lexicon) (cs : List Char) : ∀ l ∈ x.lexemes cs, l.text ≠ [] := by
  refine x.lexemes_forall ?_ cs
  intro c cs
  exact List.cons_ne_nil c _

/-- No token is empty. -/
theorem Lexicon.token_ne_empty {x : Lexicon} {source : String} {t : Token}
    (ht : t ∈ x.tokens source) : t.text ≠ "" := by
  obtain ⟨before, after, h⟩ := List.append_of_mem ht
  rw [tokens, placed_eq_placedFrom] at h
  obtain ⟨ms, l, ns, hlexemes, _, rfl, _⟩ := placedFrom_eq_append_cons h
  intro hempty
  apply x.text_ne_nil source.toList l
  · rw [hlexemes]
    simp
  · rw [← String.toList_eq_nil_iff] at hempty
    simpa [Lexeme.token] using hempty

/-- A token stands where the tokens before it lead to. -/
theorem Lexicon.place_of_token {x : Lexicon} {source : String} {before after : List Token} {t : Token}
    (h : x.tokens source = before ++ t :: after) :
    t.line = ((Position.after {} (spelled before).toList).line : Int) ∧
      t.column = ((Position.after {} (spelled before).toList).column : Int) := by
  rw [tokens, placed_eq_placedFrom] at h
  obtain ⟨ms, l, ns, _, rfl, rfl, _⟩ := placedFrom_eq_append_cons h
  rw [spelled_placedFrom]
  exact ⟨rfl, rfl⟩

/-- Splitting a text loses nothing, and each token knows its place. The tokens are not empty and make up
the text. The line of a token is one more than the number of line breaks before it, and its column is
the width of what stands before it on its line, with tab stops every eight columns. -/
theorem Lexicon.tokens_in_place (x : Lexicon) (source : String) :
    spelled (x.tokens source) = source ∧
      (∀ t ∈ x.tokens source, t.text ≠ "") ∧
      ∀ before t after, x.tokens source = before ++ t :: after →
        t.line = 1 + (lineBreaks (spelled before) : Int) ∧
          t.column = ((expandTabs (currentLine (spelled before).toList)).length : Int) := by
  refine ⟨spelled_tokens x source, fun t ht => token_ne_empty ht, ?_⟩
  intro before t after h
  obtain ⟨hline, hcolumn⟩ := place_of_token h
  rw [Position.line_after] at hline
  rw [Position.column_after] at hcolumn
  refine ⟨?_, hcolumn⟩
  rw [hline, lineBreaks]
  norm_cast

/-- A word after a raw string that ends behind a tab on its second line. -/
theorem Lexicon.tokens_in_place_rawString :
    ∃ before t, go.tokens "a\t\x60b\n\tc\x60 d" = before ++ [t] ∧ t.text = "d" ∧
      t.line = 1 + (lineBreaks (spelled before) : Int) ∧
      t.column = ((expandTabs (currentLine (spelled before).toList)).length : Int) ∧
      t.column = 11 := by
  have htokens : go.tokens "a\t\x60b\n\tc\x60 d" =
      [⟨.code, "a", 1, 0, false⟩, ⟨.whitespace, "\t", 1, 1, false⟩,
        ⟨.string, "\x60b\n\tc\x60", 1, 8, false⟩, ⟨.whitespace, " ", 2, 10, false⟩] ++
        [⟨.code, "d", 2, 11, false⟩] := by
    decide +kernel
  obtain ⟨hline, hcolumn⟩ := (tokens_in_place go _).2.2 _ _ _ htokens
  exact ⟨_, _, htokens, rfl, hline, hcolumn, rfl⟩

end Cyclomatic
