import Mathlib
import Cyclomatic.Proofs.Alike
import Cyclomatic.Proofs.Lexicon.CarriageReturn

/-!
# Line endings

A text whose lines end with a carriage return and a line break has the measures of the text without the
carriage returns (`Analysis.carriage_return_invariance`), if all string literals in it that go on over
several lines begin like such literals. A literal on one line whose line break a backslash takes is cut short
by the carriage return, and the measures can differ (`Analysis.carriage_return_matters`).
-/

namespace Cyclomatic

open Lexicon

variable {x : Lexicon}

/-- The tokens of lexemes hold their texts. -/
theorem exists_mem_placedFrom {p : Position} {ls : List Lexeme} {l : Lexeme} (hl : l ∈ ls) :
    ∃ q, l.token q ∈ placedFrom p ls := by
  induction ls generalizing p with
  | nil => cases hl
  | cons m ls ih =>
    rcases List.mem_cons.1 hl with rfl | hl
    · exact ⟨p, List.mem_cons_self⟩
    · obtain ⟨q, hq⟩ := ih hl
      exact ⟨q, List.mem_cons_of_mem _ hq⟩

theorem lineBreaks_token (l : Lexeme) (p : Position) : lineBreaks (l.token p).text = l.text.count '\n' := by
  rw [lineBreaks, Lexeme.token, String.toList_ofList]

/-- Line breaks on one line are alike, whatever their columns. -/
theorem alike_newline {p p' : Position} (hline : p'.line = p.line) {text text' : List Char}
    (hcount : text'.count '\n' = text.count '\n') :
    ((⟨.newline, text⟩ : Lexeme).token p).Alike ((⟨.newline, text'⟩ : Lexeme).token p') := by
  refine ⟨rfl, congrArg Int.ofNat hline, rfl, ?_, fun h => ?_, fun h => ?_, fun h => ?_⟩
  · rw [lineBreaks_token, lineBreaks_token, hcount]
  · cases h
  · cases h
  · cases h

/-- A lexeme and the same one with carriage returns make tokens that are alike, blanks and comments aside. -/
theorem alike_crlf {l : Lexeme} (p : Position)
    (hkind : (l.token p).isNewline = true ∨ (l.token p).isSubstance = true)
    (hcode : l.kind = .code → '\n' ∉ l.text) (hstring : l.kind = .string → 2 ≤ l.text.length) :
    (l.token p).Alike ((⟨l.kind, crlf l.text⟩ : Lexeme).token p) := by
  have htext : (l.token p).isCode = true → crlf l.text = l.text := fun h =>
    crlf_of_not_mem (hcode (beq_iff_eq.1 h))
  refine ⟨rfl, rfl, rfl, ?_, fun _ => rfl, fun h => ?_, fun hn => ?_⟩
  · rw [lineBreaks_token, lineBreaks_token, count_crlf]
  · rw [Lexeme.token, Lexeme.token, htext h]
  · rw [hn, Token.isSubstance, Bool.or_eq_true] at hkind
    rcases hkind with hkind | hkind | hkind
    · cases hkind
    · rw [Lexeme.token, Lexeme.token, htext hkind]
      exact .refl _
    · have htwo := hstring (beq_iff_eq.1 hkind)
      refine .inr ⟨?_, ?_⟩
      · rw [Lexeme.token, String.length_ofList]
        exact htwo
      · rw [Lexeme.token, String.length_ofList]
        exact htwo.trans (length_le_length_crlf l.text)

/-- What is significant of a lexeme is alike with carriage returns in it. -/
theorem significant_crlf {l : Lexeme} (p : Position) (hcode : l.kind = .code → '\n' ∉ l.text)
    (hstring : l.kind = .string → 2 ≤ l.text.length) :
    List.Forall₂ Token.Alike (l.token p).significant
      ((⟨l.kind, crlf l.text⟩ : Lexeme).token p).significant := by
  apply Token.significant_alike
  · rfl
  · rfl
  · rw [lineBreaks_token, lineBreaks_token, count_crlf]
  · exact fun h => alike_crlf p h hcode hstring

/-- Nothing more is significant of blanks or a comment with one carriage return more at the end. -/
theorem significant_return {l : Lexeme} (p : Position) (hkind : l.kind = .whitespace ∨ l.kind = .comment) :
    List.Forall₂ Token.Alike (l.token p).significant
      ((⟨l.kind, crlf l.text ++ ['\r']⟩ : Lexeme).token p).significant := by
  apply Token.significant_alike
  · rfl
  · rfl
  · rw [lineBreaks_token, lineBreaks_token, List.count_append, count_crlf]
    rfl
  · intro h
    rw [Token.isNewline, Token.isSubstance, Lexeme.token] at h
    rcases hkind with hkind | hkind
    · rw [hkind] at h
      simp at h
    · rw [hkind] at h
      simp at h

/-- The significant tokens of a text with carriage returns are like those of the text without. -/
theorem significantTokens_crlf (hone : x.OneLine) (hx : x.Plain) (hx' : x.Apart) (cs : List Char)
    (p : Position) (hreturn : '\r' ∉ cs)
    (hstring : ∀ l ∈ x.lexemes cs, l.kind = .string → x.StaysOpen l.text) :
    List.Forall₂ Token.Alike (significantTokens (placedFrom p (x.lexemes cs)))
      (significantTokens (placedFrom p (x.lexemes (crlf cs)))) := by
  induction hn : cs.length using Nat.strong_induction_on generalizing cs p with
  | _ n ih =>
    cases cs with
    | nil => exact .nil
    | cons c cs =>
      rw [List.length_cons] at hn
      by_cases hc : c = '\n'
      · subst hc
        have hcs : '\r' ∉ cs := fun h => hreturn (List.mem_cons_of_mem _ h)
        rw [lexemes_lineFeed] at hstring
        have hrest := ih cs.length (by omega) cs (p.after ['\n']) hcs
          (fun l hl => hstring l (List.mem_cons_of_mem _ hl)) rfl
        have hbreak : ((⟨.newline, ['\n']⟩ : Lexeme).token p).Alike
            ((⟨.newline, ['\r', '\n']⟩ : Lexeme).token p) := alike_newline rfl rfl
        rw [crlf_break, lexemes_lineFeed, lexemes_carriageReturn, placedFrom, placedFrom]
        exact List.rel_append hbreak.significant hrest
      · obtain ⟨l, b, hsplit, hlexemes, hlength, htwo, hcrlf⟩ :=
          lexemes_crlf hone hx hx' hc hreturn hstring
        have hb : '\r' ∉ b := fun h => hreturn (by rw [hsplit]; exact List.mem_append_right _ h)
        have hcode (hkind : l.kind = .code) : '\n' ∉ l.text :=
          List.count_eq_zero.1 <|
            count_code_lexeme hone (c :: cs) l (by rw [hlexemes]; exact List.mem_cons_self) hkind
        rw [hlexemes] at hstring ⊢
        rcases hcrlf with hcrlf | ⟨hkind, v, rfl, hcrlf⟩
        · have hrest := ih b.length (by omega) b (p.after l.text) hb
            (fun l hl => hstring l (List.mem_cons_of_mem _ hl)) rfl
          rw [hcrlf, placedFrom, placedFrom, Position.after_crlf]
          exact List.rel_append (significant_crlf p hcode htwo) hrest
        · -- the line break after the lexeme is left without its carriage return, and in another column
          obtain ⟨p', hp'⟩ : ∃ p', p.after (crlf l.text ++ ['\r']) = p' := ⟨_, rfl⟩
          have hline : p'.line = (p.after l.text).line := by
            rw [← hp', Position.line_after, Position.line_after, List.count_append, count_crlf]
            rfl
          have hv : '\r' ∉ v := fun h => hb (List.mem_cons_of_mem _ h)
          rw [lexemes_lineFeed] at hstring
          have hrest := ih v.length (by rw [List.length_cons] at hlength; omega) v
            ((p.after l.text).after ['\n']) hv
            (fun m hm => hstring m (List.mem_cons_of_mem _ (List.mem_cons_of_mem _ hm))) rfl
          have hbreak : ((⟨.newline, ['\n']⟩ : Lexeme).token (p.after l.text)).Alike
              ((⟨.newline, ['\n']⟩ : Lexeme).token p') := alike_newline hline rfl
          rw [hcrlf, lexemes_lineFeed, lexemes_lineFeed, placedFrom, placedFrom, placedFrom, placedFrom,
            hp', Position.after_lineBreak hline]
          exact List.rel_append (significant_return p hkind)
            (List.rel_append hbreak.significant hrest)

namespace Analysis

/-- A text whose lines end with a carriage return and a line break has the measures of the text without the
carriage returns, if all string literals in it that hold a line break begin like literals over several
lines. -/
theorem carriage_return_invariance (language : Language) (filename : String) {source : String}
    (hreturn : '\r' ∉ source.toList)
    (hstring : ∀ t ∈ (Lexicon.of language).tokens source, t.kind = .string → '\n' ∈ t.text.toList →
      ∃ quote ∈ (Lexicon.of language).quotes, quote.OpensAcross t.text.toList) :
    ofSource language filename (String.ofList (crlf source.toList)) =
      ofSource language filename source := by
  apply ofSource_alike
  rw [sourceTokens, sourceTokens, Lexicon.tokens, Lexicon.tokens, placed_eq_placedFrom,
    placed_eq_placedFrom, String.toList_ofList]
  apply significantTokens_crlf (oneLine_of language) (plain_of language) (apart_of language) _ _ hreturn
  intro l hl hkind hmem
  obtain ⟨p, hp⟩ := exists_mem_placedFrom (p := {}) hl
  rw [← placed_eq_placedFrom] at hp
  have hopens := hstring (l.token p) hp hkind
  rw [Lexeme.token, String.toList_ofList] at hopens
  exact hopens hmem

/-- An arrow function with blanks at the end of a line, a comment, and a literal over two lines. -/
def mixedLines : String :=
  "f=x=> \nx||\x60\n\x60 // c\n"

/-- The carriage returns are taken by the blanks, the literal, and the comment, and the function is the same. -/
theorem carriage_return_invariance_mixedLines :
    String.ofList (crlf mixedLines.toList) = "f=x=> \r\nx||\x60\r\n\x60 // c\r\n" ∧
      (ofSource .typescript "" mixedLines).1.functions = [⟨"f", 1, 4, 2, 3, 1, 3, 0⟩] ∧
      ofSource .typescript "" (String.ofList (crlf mixedLines.toList)) =
        ofSource .typescript "" mixedLines := by
  have hreturn : '\r' ∉ mixedLines.toList := by decide +kernel
  have hstring : ∀ t ∈ (Lexicon.of (some Language.typescript)).tokens mixedLines, t.kind = .string →
      '\n' ∈ t.text.toList →
        ∃ quote ∈ (Lexicon.of (some Language.typescript)).quotes, quote.OpensAcross t.text.toList := by
    decide +kernel
  exact ⟨by decide +kernel, by decide +kernel,
    carriage_return_invariance .typescript "" hreturn hstring⟩

/-- A literal on one line that goes on after a line break, taken by a backslash, falls apart when the line
break gets a carriage return: the text has more tokens. -/
theorem carriage_return_matters :
    '\r' ∉ "x=\"a\\\nb\"\n".toList ∧
      (ofSource .typescript "" "x=\"a\\\nb\"\n").1.tokenCount = 3 ∧
      (ofSource .typescript "" (String.ofList (crlf "x=\"a\\\nb\"\n".toList))).1.tokenCount = 6 ∧
      ofSource .typescript "" (String.ofList (crlf "x=\"a\\\nb\"\n".toList)) ≠
        ofSource .typescript "" "x=\"a\\\nb\"\n" := by
  decide +kernel

end Analysis

end Cyclomatic
