import Mathlib
import Cyclomatic.Proofs.Alike
import Cyclomatic.Proofs.Lexicon.CommentText

/-!
# Comments

What a line comment says changes nothing (`Analysis.comment_text_irrelevant`): whatever its text is
replaced by, as long as that ends no line, comment or string, the significant tokens stay the same, but for
the column of the line break after the comment, and so do the measures.
-/

namespace Cyclomatic.Analysis

/-- Tokens are alike if they differ in the column of a line break only. -/
theorem alike_modifyHead {ts : List Token} (hhead : ∀ t ∈ ts.head?, t.isNewline = true) (column : Int) :
    List.Forall₂ Token.Alike ts (ts.modifyHead ({ · with column })) := by
  cases ts with
  | nil => exact .nil
  | cons t ts =>
    have ht := hhead t rfl
    refine .cons ⟨rfl, rfl, rfl, rfl, fun hn => ?_, fun _ => rfl, fun _ => .refl t.text⟩
      (List.forall₂_same.2 fun u _ => .refl u)
    rw [ht] at hn
    cases hn

/-- The text of a line comment can be replaced by any text that holds no line break, no quote, no backslash
and no end of a block comment. The significant tokens remain, but for the column of the line break that ends
the comment's line, and the measures remain the same. -/
theorem comment_text_irrelevant (language : Option Language) {source : String}
    {before after : List Token} {t : Token} {marker body text : String}
    (h : (Lexicon.of language).tokens source = before ++ t :: after) (ht : t.kind = .comment)
    (hmarker : marker ∈ (Lexicon.of language).lineComments) (hbody : t.text = marker ++ body)
    (htext : Quiet text.toList) :
    let source' := spelled before ++ marker ++ text ++ spelled after
    source = spelled before ++ marker ++ body ++ spelled after ∧
    significantTokens ((Lexicon.of language).tokens source) =
      significantTokens before ++ significantTokens after ∧
    (∀ u ∈ (significantTokens after).head?, u.EndsLine ∧ u.line = t.line) ∧
    (∃ column : Int, significantTokens ((Lexicon.of language).tokens source') =
      significantTokens before ++ (significantTokens after).modifyHead ({ · with column })) ∧
    countCodeLines language source' = countCodeLines language source ∧
    ∀ known, language = some known →
      ∀ filename, ofSource known filename source' = ofSource known filename source := by
  intro source'
  obtain ⟨hbreaks, hbreaks', hnext, column, htokens⟩ := tokens_comment (Lexicon.oneLine_of language)
    (Lexicon.plain_of language) h ht hmarker hbody htext
  have hsource : source = spelled before ++ marker ++ body ++ spelled after := by
    rw [← String.toList_inj, ← spelled_tokens (Lexicon.of language) source, h]
    simp [spelled, hbody]
  have hold : significantTokens ((Lexicon.of language).tokens source) =
      significantTokens before ++ significantTokens after := by
    rw [h, significantTokens_append, significantTokens_cons, Token.significant_comment ht hbreaks]
    rfl
  have hhead : ∀ u ∈ (significantTokens after).head?, u.EndsLine ∧ u.line = t.line := by
    cases after with
    | nil => exact hnext
    | cons u after =>
      rw [significantTokens_newline (hnext u rfl).1.isNewline]
      exact hnext
  have hnew : significantTokens ((Lexicon.of language).tokens source') =
      significantTokens before ++ (significantTokens after).modifyHead ({ · with column }) := by
    have hcomment : ({ t with text := marker ++ text } : Token).significant = [] :=
      Token.significant_comment ht hbreaks'
    rw [htokens, significantTokens_append, significantTokens_cons, hcomment]
    cases after with
    | nil => rfl
    | cons u after =>
      have hu := (hnext u rfl).1.isNewline
      have hu' : ({ u with column } : Token).isNewline = true := hu
      rw [significantTokens_newline hu, List.modifyHead_cons, List.modifyHead_cons, List.nil_append,
        significantTokens_newline hu']
  have halike : List.Forall₂ Token.Alike (significantTokens ((Lexicon.of language).tokens source))
      (significantTokens ((Lexicon.of language).tokens source')) := by
    rw [hold, hnew]
    exact List.rel_append (List.forall₂_same.2 fun u _ => .refl u)
      (alike_modifyHead (fun u hu => (hhead u hu).1.isNewline) column)
  refine ⟨hsource, hold, hhead, ⟨column, hnew⟩, countCodeLines_alike halike, ?_⟩
  rintro known rfl filename
  exact ofSource_alike filename halike

/-- The tokens before a comment, among them a quote that is left open. -/
def beforeComment : List Token :=
  [⟨.code, "a", 1, 0, false⟩, ⟨.code, "&&", 1, 1, false⟩, ⟨.code, "\x60", 1, 3, false⟩]

/-- The tokens after it. -/
def afterComment : List Token :=
  [⟨.newline, "\n", 1, 10, false⟩, ⟨.code, "d", 2, 0, false⟩]

/-- A comment that holds a quote becomes one that looks like code. -/
theorem comment_text_irrelevant_openQuote :
    (Lexicon.of (some .typescript)).tokens "a&&\x60//it's\nd" =
        beforeComment ++ ⟨.comment, "//it's", 1, 4, false⟩ :: afterComment ∧
      Quiet "if(b||c)".toList ∧
      countCodeLines (some .typescript) "a&&\x60//if(b||c)\nd" = 2 ∧
      ofSource .typescript "" "a&&\x60//if(b||c)\nd" = ofSource .typescript "" "a&&\x60//it's\nd" := by
  have htokens : (Lexicon.of (some .typescript)).tokens "a&&\x60//it's\nd" =
      beforeComment ++ ⟨.comment, "//it's", 1, 4, false⟩ :: afterComment := by
    decide +kernel
  have hquiet : Quiet "if(b||c)".toList := by decide +kernel
  have hspelled : spelled beforeComment ++ "//" ++ "if(b||c)" ++ spelled afterComment =
      "a&&\x60//if(b||c)\nd" := by
    decide +kernel
  obtain ⟨-, -, -, -, -, hsame⟩ := comment_text_irrelevant (some .typescript) htokens rfl
    (show "//" ∈ (Lexicon.of (some .typescript)).lineComments by decide)
    (show "//it's" = "//" ++ "it's" by decide) hquiet
  rw [hspelled] at hsame
  exact ⟨htokens, hquiet, by decide +kernel, hsame .typescript rfl ""⟩

end Cyclomatic.Analysis
