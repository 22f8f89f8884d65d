import Mathlib
import Cyclomatic.Proofs.Lexicon.Literal

/-!
# String tokens

Where a string token ends. A quotation mark outside Python begins a literal of the grammar of quoted strings
if the text has one there, and is a token of its own otherwise (`Lexicon.quotedString_token`). Backticks obey
the same grammar in Go as elsewhere, so a raw string goes on after its closing backtick if an odd number of
backslashes stands before it (`Lexicon.rawString_token`). A Python literal between runs of three delimiters
has no escapes, so it ends one delimiter early if an escaped one is the last character in it
(`Lexicon.tripledString_token`).
-/

namespace Cyclomatic.Lexicon

variable {language : Option Language} {q : Char}

/-! ## Quoted strings -/

/-- Outside Python, a token that begins with a quotation mark is the string literal that the text has there,
which is the only one. If there is none, the token is the quotation mark alone, as code. -/
theorem quotedString_token (hlanguage : language ≠ some .python) {source : String}
    {before after : List Token} {t : Token} {cs : List Char}
    (htokens : (Lexicon.of language).tokens source = before ++ t :: after)
    (hrest : source.toList = (spelled before).toList ++ q :: cs) (hq : q = '"' ∨ q = '\'') :
    (∀ literal, IsLiteral q false literal → literal <+: q :: cs →
      t.kind = .string ∧ t.text.toList = literal ∧
        ∀ other, IsLiteral q false other → other <+: q :: cs → other = literal) ∧
      ((∀ literal, IsLiteral q false literal → ¬literal <+: q :: cs) →
        t.kind = .code ∧ t.text.toList = [q]) := by
  have hq' : IsDelimiter q := hq.imp_right .inl
  have hline : (q == '\x60') = false := by rcases hq with rfl | rfl <;> rfl
  obtain ⟨hkind, htext⟩ := classify_at htokens hrest
  rw [classify_quoted hlanguage hq', hline] at hkind htext
  constructor
  · intro literal hliteral hbegins
    rw [hliteral.closingFrom_eq hq'.ne_backslash hbegins] at hkind htext
    refine ⟨hkind, ?_, fun other hother hbegins' =>
      hother.eq_of_prefix hliteral hq'.ne_backslash hbegins' hbegins⟩
    obtain ⟨body, _, rfl⟩ := hliteral
    obtain ⟨rest, rfl⟩ := (List.cons_prefix_cons.1 hbegins).2
    rw [htext]
    dsimp only
    rw [List.length_cons, Nat.add_sub_cancel, List.take_left]
  · intro hnone
    have hopen : closingFrom q false 1 cs = none := by
      refine closingFrom_eq_none (fun body hbody hbegins => ?_) 1
      exact hnone (q :: (body ++ [q])) ⟨body, hbody, rfl⟩ (List.cons_prefix_cons.2 ⟨rfl, hbegins⟩)
    rw [hopen] at hkind htext
    exact ⟨hkind, htext⟩

/-- A literal with an escaped backslash and an escaped delimiter at its end, and then a quotation mark that is
not closed on its line. -/
def quotationMarks : String :=
  "'\\\\\\''+\"a\n\""

/-- The literal is the only one at its place, and there is none at the last quotation mark of the line. -/
theorem quotedString_token_quotationMarks :
    ∃ t u v after, (Lexicon.of (some .typescript)).tokens quotationMarks = t :: u :: v :: after ∧
      (t.kind = .string ∧ t.text.toList = ['\'', '\\', '\\', '\\', '\'', '\''] ∧
        ∀ other, IsLiteral '\'' false other → other <+: quotationMarks.toList →
          other = ['\'', '\\', '\\', '\\', '\'', '\'']) ∧
      v.kind = .code ∧ v.text.toList = ['"'] := by
  have hliteral : IsLiteral '\'' false ['\'', '\\', '\\', '\\', '\'', '\''] :=
    ⟨['\\', '\\', '\\', '\''], by decide, rfl⟩
  have hopen : ∀ literal, IsLiteral '"' false literal → ¬literal <+: ['"', 'a', '\n', '"'] := by
    intro literal hliteral hbegins
    cases hliteral.closingFrom_eq (by decide) hbegins
  have htokens : (Lexicon.of (some .typescript)).tokens quotationMarks =
      [⟨.string, "'\\\\\\''", 1, 0, false⟩, ⟨.code, "+", 1, 6, false⟩] ++ ⟨.code, "\"", 1, 7, false⟩ ::
        [⟨.code, "a", 1, 8, false⟩, ⟨.newline, "\n", 1, 9, false⟩, ⟨.code, "\"", 2, 0, false⟩] := by
    decide +kernel
  have hfirst : (Lexicon.of (some .typescript)).tokens quotationMarks = [] ++ _ :: _ := htokens
  exact ⟨_, _, _, _, htokens,
    (quotedString_token (by decide) hfirst rfl (.inr rfl)).1 _ hliteral (by decide),
    (quotedString_token (by decide) htokens rfl (.inl rfl)).2 hopen⟩

/-! ## Raw strings -/

/-- A text that begins with a literal begins with a string token of just that text. -/
theorem head?_tokens_literal (hlanguage : language ≠ some .python) (hq : IsDelimiter q)
    {body : List Char} (hbody : LiteralBody q (q == '\x60') body) (rest : List Char) :
    ((Lexicon.of language).tokens (String.ofList (q :: body ++ q :: rest))).head? =
      some { kind := .string, text := String.ofList (q :: body ++ [q]) } := by
  have hclosing : closingFrom q (q == '\x60') 1 (body ++ q :: rest) = some (q :: body ++ [q]).length := by
    rw [hbody.closingFrom_append hq.ne_backslash, closingFrom_self]
    simp [Nat.add_comm]
  have hclass := classify_quoted hlanguage hq (body ++ q :: rest)
  rw [hclosing] at hclass
  have hsplit : q :: body ++ q :: rest = (q :: body ++ [q]) ++ rest := by simp
  rw [← List.cons_append, hsplit] at hclass
  rw [hsplit]
  exact head?_tokens (List.cons_ne_nil _ _) hclass

/-- A delimiter that is not closed is a token of its own. -/
theorem head?_tokens_unclosed (hlanguage : language ≠ some .python) (hq : IsDelimiter q)
    {cs : List Char} (hopen : closingFrom q (q == '\x60') 1 cs = none) :
    ((Lexicon.of language).tokens (String.ofList (q :: cs))).head? =
      some { kind := .code, text := String.ofList [q] } := by
  have hclass := classify_quoted hlanguage hq cs
  rw [hopen] at hclass
  exact head?_tokens (a := [q]) (b := cs) (List.cons_ne_nil q []) hclass

/-- A raw string, whatever else is in it, ends at its closing backtick if an even number of backslashes stands
before that. Otherwise the last backslash takes the backtick, and the token goes on to the end of a literal
that the text after it leads to. If there is none, the opening backtick is a token of its own, as code. -/
theorem rawString_token {c : List Char} (hc : '\x60' ∉ c) (r : List Char) :
    (Even (trailingBackslashes c) →
      (go.tokens (String.ofList ('\x60' :: c ++ '\x60' :: r))).head? =
        some { kind := .string, text := String.ofList ('\x60' :: c ++ ['\x60']) }) ∧
    (¬Even (trailingBackslashes c) →
      (∀ body, LiteralBody '\x60' true body → body ++ ['\x60'] <+: r →
        (go.tokens (String.ofList ('\x60' :: c ++ '\x60' :: r))).head? =
          some { kind := .string, text := String.ofList ('\x60' :: c ++ '\x60' :: body ++ ['\x60']) }) ∧
      ((∀ body, LiteralBody '\x60' true body → ¬body ++ ['\x60'] <+: r) →
        (go.tokens (String.ofList ('\x60' :: c ++ '\x60' :: r))).head? =
          some { kind := .code, text := "\x60" })) := by
  have hgo : some Language.go ≠ some .python := by decide
  obtain ⟨heven, hodd⟩ := literalBody_of_not_mem hc
  refine ⟨fun hn => head?_tokens_literal hgo (.inr (.inr rfl)) (heven hn) r, fun hn => ⟨?_, ?_⟩⟩
  · rintro body hbody ⟨rest, rfl⟩
    have hsource : '\x60' :: c ++ '\x60' :: (body ++ ['\x60'] ++ rest) =
        '\x60' :: (c ++ ['\x60'] ++ body) ++ '\x60' :: rest := by simp
    have htext : '\x60' :: c ++ '\x60' :: body = '\x60' :: (c ++ ['\x60'] ++ body) := by simp
    rw [hsource, htext]
    exact head?_tokens_literal hgo (.inr (.inr rfl)) ((hodd hn '\x60').append hbody) rest
  · intro hnone
    -- the content together with its closing backtick is a body, so the search goes on behind both
    have hopen : closingFrom '\x60' true 1 (c ++ '\x60' :: r) = none := by
      rw [← List.singleton_append, ← List.append_assoc,
        (hodd hn '\x60').closingFrom_append (by decide)]
      exact closingFrom_eq_none hnone _
    exact head?_tokens_unclosed hgo (.inr (.inr rfl)) hopen

/-- A raw string over two lines with quotation marks, a comment marker and an escaped backslash in it, and one
that ends with a single backslash, so that it goes on to the next backtick. -/
theorem rawString_token_backslashes :
    (go.tokens "\x60\"\n// if \\\\\x60 || x").head? =
        some { kind := .string, text := "\x60\"\n// if \\\\\x60" } ∧
      (go.tokens "\x60\\\x60+\x60||\x60").head? = some { kind := .string, text := "\x60\\\x60+\x60" } :=
  ⟨(rawString_token (c := "\"\n// if \\\\".toList) (by decide) " || x".toList).1 (by decide),
    ((rawString_token (c := ['\\']) (by decide) "+\x60||\x60".toList).2 (by decide)).1 ['+'] (by decide)
      (by decide)⟩

/-- A raw string of one backslash is not closed where it should be: what stands in the next one is read as
code. -/
theorem rawString_stays_open :
    '\x60' ∉ ['\\'] ∧
      (go.tokens (String.ofList ('\x60' :: ['\\'] ++ '\x60' :: "+\x60||\x60".toList))).head? ≠
        some { kind := .string, text := String.ofList ('\x60' :: ['\\'] ++ ['\x60']) } ∧
      go.tokens "\x60\\\x60+\x60||\x60" =
        [⟨.string, "\x60\\\x60+\x60", 1, 0, false⟩, ⟨.code, "||", 1, 5, false⟩,
          ⟨.code, "\x60", 1, 7, false⟩] := by
  decide +kernel

/-! ## Strings between runs of three delimiters -/

/-- A Python literal between runs of three delimiters, with any text after it, ends at the closing run, unless
an escaped delimiter stands before that. Then it ends one delimiter early. -/
theorem tripledString_token (hq : q = '"' ∨ q = '\'') {c : List Char} (hc : LiteralBody q true c)
    (r : List Char) :
    (c.getLast? ≠ some q →
      (python.tokens (String.ofList ([q, q, q] ++ c ++ [q, q, q] ++ r))).head? =
        some { kind := .string, text := String.ofList ([q, q, q] ++ c ++ [q, q, q]) }) ∧
    (c.getLast? = some q →
      (python.tokens (String.ofList ([q, q, q] ++ c ++ [q, q, q] ++ r))).head? =
        some { kind := .string, text := String.ofList ([q, q, q] ++ c ++ [q, q]) }) := by
  have hdelimiter : IsDelimiter q := hq.imp_right .inl
  have hend := hc.endOfFrom_tripled hdelimiter.ne_backslash 3 r
  constructor
  · intro hlast
    rw [if_neg hlast] at hend
    refine head?_tokens (List.cons_ne_nil _ _) ?_
    have hclass := classify_tripled hq hend
    simpa [Nat.add_comm, Nat.add_left_comm] using hclass
  · intro hlast
    rw [if_pos hlast] at hend
    have hclass := classify_tripled hq hend
    have hsplit : [q, q, q] ++ c ++ [q, q, q] ++ r = ([q, q, q] ++ c ++ [q, q]) ++ q :: r := by simp
    rw [hsplit]
    refine head?_tokens (List.cons_ne_nil _ _) ?_
    simpa [Nat.add_comm, Nat.add_left_comm] using hclass

/-- A string over two lines with an escaped delimiter in the middle, and one with an escaped delimiter at its
end. -/
theorem tripledString_token_docstrings :
    (python.tokens "\"\"\"if \\\"x\n\"\"\" or y").head? =
        some { kind := .string, text := "\"\"\"if \\\"x\n\"\"\"" } ∧
      (python.tokens "'''if \\'''' or y").head? = some { kind := .string, text := "'''if \\'''" } :=
  ⟨(tripledString_token (.inl rfl) (c := "if \\\"x\n".toList) (by decide) " or y".toList).1 (by decide),
    (tripledString_token (.inr rfl) (c := "if \\'".toList) (by decide) " or y".toList).2 (by decide)⟩

/-- The last delimiter of a string that ends with an escaped one is left over, and opens a string of its own,
which takes in the code after it. -/
theorem tripledString_cut_short :
    LiteralBody '"' true ['\\', '"'] ∧ " or \"\"\"b\"\"\"".toList.head? ≠ some '"' ∧
      (python.tokens (String.ofList
        (['"', '"', '"'] ++ ['\\', '"'] ++ ['"', '"', '"'] ++ " or \"\"\"b\"\"\"".toList))).head? ≠
          some ⟨.string, String.ofList (['"', '"', '"'] ++ ['\\', '"'] ++ ['"', '"', '"']), 1, 0, false⟩ ∧
      python.tokens "\"\"\"\\\"\"\"\" or \"\"\"b\"\"\"" =
        [⟨.string, "\"\"\"\\\"\"\"", 1, 0, false⟩, ⟨.string, "\" or \"", 1, 7, false⟩,
          ⟨.string, "\"\"", 1, 13, false⟩, ⟨.code, "b", 1, 15, false⟩, ⟨.string, "\"\"", 1, 16, false⟩,
          ⟨.code, "\"", 1, 18, false⟩] := by
  decide +kernel

end Cyclomatic.Lexicon
