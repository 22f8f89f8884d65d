import Mathlib
import Cyclomatic.Proofs.Lexicon.Spelling
import Cyclomatic.Proofs.Lexicon.Lookahead
import Cyclomatic.Proofs.Lexicon.CommentText

/-!
# String literals

Between the delimiters of a string literal stand backslashes, each with the character that it takes, and
characters that end nothing (`LiteralBody`). A closing delimiter is found behind such a body and nowhere else
(`closingFrom_eq_some_iff`), so at most one literal begins a text (`IsLiteral.eq_of_prefix`). What is between
runs of three delimiters has no escapes: a body there ends one delimiter early if an escaped one is its last
character (`LiteralBody.endOfFrom_tripled`).
-/

namespace Cyclomatic

open Text

/-! ## Bodies of literals -/

/-- What can stand between two delimiters: backslashes, each with the character that it takes, and characters
other than the delimiter. A line break that no backslash takes stands in literals over several lines only. -/
inductive LiteralBody (q : Char) (multiline : Bool) : List Char → Prop
  | nil : LiteralBody q multiline []
  | plain {c : Char} {cs : List Char} (hq : c ≠ q) (hbackslash : c ≠ '\\')
      (hbreak : c = '\n' → multiline = true) (h : LiteralBody q multiline cs) :
      LiteralBody q multiline (c :: cs)
  | escape {cs : List Char} (c : Char) (h : LiteralBody q multiline cs) :
      LiteralBody q multiline ('\\' :: c :: cs)

/-- A body between two delimiters. -/
def IsLiteral (q : Char) (multiline : Bool) (text : List Char) : Prop :=
  ∃ body, LiteralBody q multiline body ∧ text = q :: (body ++ [q])

variable {q : Char} {multiline : Bool} {body cs : List Char}

theorem LiteralBody.append {rest : List Char} (h : LiteralBody q multiline body)
    (hrest : LiteralBody q multiline rest) : LiteralBody q multiline (body ++ rest) := by
  induction h with
  | nil => exact hrest
  | plain hq hbackslash hbreak _ ih => exact .plain hq hbackslash hbreak ih
  | escape c _ ih => exact .escape c ih

/-- A delimiter in a body follows a backslash. -/
theorem LiteralBody.head?_ne (h : LiteralBody q multiline body) (hq : q ≠ '\\') :
    body.head? ≠ some q := by
  intro hhead
  cases h with
  | nil => cases hhead
  | plain hne _ _ _ => exact hne (Option.some.inj hhead)
  | escape c _ => exact hq (Option.some.inj hhead).symm

theorem literalBody_cons_iff {c : Char} (hc : c ≠ '\\') :
    LiteralBody q multiline (c :: cs) ↔
      c ≠ q ∧ (c = '\n' → multiline = true) ∧ LiteralBody q multiline cs := by
  constructor
  · intro h
    cases h with
    | plain hq _ hbreak h => exact ⟨hq, hbreak, h⟩
    | escape d h => exact absurd rfl hc
  · rintro ⟨hq, hbreak, h⟩
    exact .plain hq hc hbreak h

theorem literalBody_escape_iff (c : Char) :
    LiteralBody q multiline ('\\' :: c :: cs) ↔ LiteralBody q multiline cs := by
  constructor
  · intro h
    cases h with
    | plain _ hbackslash _ _ => exact absurd rfl hbackslash
    | escape _ h => exact h
  · exact .escape c

theorem not_literalBody_backslash : ¬LiteralBody q multiline ['\\'] := by
  intro h
  cases h with
  | plain _ hbackslash _ _ => exact hbackslash rfl

instance decidableLiteralBody (q : Char) (multiline : Bool) :
    (cs : List Char) → Decidable (LiteralBody q multiline cs)
  | [] => isTrue .nil
  | [c] =>
    if hc : c = '\\' then isFalse (hc ▸ not_literalBody_backslash)
    else
      have := decidableLiteralBody q multiline []
      decidable_of_iff' _ (literalBody_cons_iff hc)
  | c :: d :: cs =>
    if hc : c = '\\' then
      have := decidableLiteralBody q multiline cs
      decidable_of_iff' _ (hc ▸ literalBody_escape_iff d)
    else
      have := decidableLiteralBody q multiline (d :: cs)
      decidable_of_iff' _ (literalBody_cons_iff hc)

/-! ## Backslashes at the end -/

/-- The number of backslashes at the end of a text. -/
def trailingBackslashes (cs : List Char) : Nat :=
  (cs.reverse.takeWhile (· == '\\')).length

@[simp] theorem trailingBackslashes_backslash (cs : List Char) :
    trailingBackslashes (cs ++ ['\\']) = trailingBackslashes cs + 1 := by
  simp [trailingBackslashes]

theorem trailingBackslashes_concat {c : Char} (hc : c ≠ '\\') (cs : List Char) :
    trailingBackslashes (cs ++ [c]) = 0 := by
  simp [trailingBackslashes, hc]

/-- A text without delimiters is a body if its last backslash belongs to an escape that is complete. Otherwise
it takes the next character, whatever that is. -/
theorem literalBody_of_not_mem (h : q ∉ cs) :
    (Even (trailingBackslashes cs) → LiteralBody q true cs) ∧
      (¬Even (trailingBackslashes cs) → ∀ d, LiteralBody q true (cs ++ [d])) := by
  induction cs using List.reverseRecOn with
  | nil => exact ⟨fun _ => .nil, fun hodd => absurd Even.zero hodd⟩
  | append_singleton cs c ih =>
    obtain ⟨heven, hodd⟩ := ih fun hmem => h (List.mem_append_left _ hmem)
    by_cases hc : c = '\\'
    · subst hc
      rw [trailingBackslashes_backslash, Nat.even_add_one, not_not]
      refine ⟨fun hn => hodd hn '\\', fun hn d => ?_⟩
      rw [List.append_assoc]
      exact (heven hn).append (.escape d .nil)
    · have hne : c ≠ q := fun heq => h (by rw [heq]; simp)
      rw [trailingBackslashes_concat hc]
      refine ⟨fun _ => ?_, fun hn => absurd Even.zero hn⟩
      by_cases hn : Even (trailingBackslashes cs)
      · exact (heven hn).append (.plain hne hc (fun _ => rfl) .nil)
      · exact hodd hn c

/-! ## Closing delimiters -/

/-- A body is passed over. -/
theorem LiteralBody.closingFrom_append (h : LiteralBody q multiline body) (hq : q ≠ '\\') (n : Nat)
    (rest : List Char) :
    closingFrom q multiline n (body ++ rest) = closingFrom q multiline (n + body.length) rest := by
  induction h generalizing n with
  | nil => rfl
  | plain hne hbackslash hbreak _ ih =>
    rw [List.cons_append, closingFrom_pass hne hbackslash hbreak, ih, List.length_cons]
    congr 1
    omega
  | escape c _ ih =>
    rw [List.cons_append, List.cons_append, closingFrom_cons_cons, if_neg hq.symm, if_pos rfl, ih,
      List.length_cons, List.length_cons]
    congr 1
    omega

/-- What stands before the closing delimiter is a body. -/
theorem literalBody_of_closingFrom {n k : Nat} (h : closingFrom q multiline n cs = some k) :
    ∃ body rest, cs = body ++ q :: rest ∧ LiteralBody q multiline body ∧ k = n + body.length + 1 := by
  fun_induction closingFrom q multiline n cs with
  | case1 => cases h
  | case2 n => exact ⟨[], [], rfl, .nil, (Option.some.inj h).symm⟩
  | case3 n c hc => cases h
  | case4 n d cs => exact ⟨[], d :: cs, rfl, .nil, (Option.some.inj h).symm⟩
  | case5 n d cs hq ih =>
    obtain ⟨body, rest, rfl, hbody, rfl⟩ := ih h
    refine ⟨'\\' :: d :: body, rest, rfl, .escape d hbody, ?_⟩
    rw [List.length_cons, List.length_cons]
    omega
  | case6 n c d cs hq hbackslash hbreak => cases h
  | case7 n c d cs hq hbackslash hbreak ih =>
    obtain ⟨body, rest, hcs, hbody, rfl⟩ := ih h
    have hline : c = '\n' → multiline = true := by
      intro hc
      simpa [hc] using hbreak
    refine ⟨c :: body, rest, by rw [hcs]; rfl, .plain hq hbackslash hline hbody, ?_⟩
    rw [List.length_cons]
    omega

/-- The closing delimiter is the one behind a body. -/
theorem closingFrom_eq_some_iff (hq : q ≠ '\\') (n k : Nat) (cs : List Char) :
    closingFrom q multiline n cs = some k ↔
      ∃ body rest, cs = body ++ q :: rest ∧ LiteralBody q multiline body ∧ k = n + body.length + 1 := by
  constructor
  · exact literalBody_of_closingFrom
  · rintro ⟨body, rest, rfl, hbody, rfl⟩
    rw [hbody.closingFrom_append hq, closingFrom_self]

/-- A literal at the front of a text ends where its closing delimiter is found. -/
theorem IsLiteral.closingFrom_eq {literal : List Char} (h : IsLiteral q multiline literal) (hq : q ≠ '\\')
    (hbegins : literal <+: q :: cs) : closingFrom q multiline 1 cs = some literal.length := by
  obtain ⟨body, hbody, rfl⟩ := h
  obtain ⟨rest, hrest⟩ := hbegins
  refine (closingFrom_eq_some_iff hq _ _ _).2 ⟨body, rest, ?_, hbody, ?_⟩
  · simpa using hrest.symm
  · simp
    omega

/-- At most one literal begins a text. -/
theorem IsLiteral.eq_of_prefix {a b : List Char} (ha : IsLiteral q multiline a)
    (hb : IsLiteral q multiline b) (hq : q ≠ '\\') (hbegins : a <+: q :: cs) (hbegins' : b <+: q :: cs) :
    a = b := by
  have hlength : a.length = b.length :=
    Option.some.inj ((ha.closingFrom_eq hq hbegins).symm.trans (hb.closingFrom_eq hq hbegins'))
  rw [List.prefix_iff_eq_take.1 hbegins, List.prefix_iff_eq_take.1 hbegins', hlength]

/-- Without a body in front of a delimiter there is no closing delimiter. -/
theorem closingFrom_eq_none (h : ∀ body, LiteralBody q multiline body → ¬body ++ [q] <+: cs) (n : Nat) :
    closingFrom q multiline n cs = none := by
  rw [Option.eq_none_iff_forall_ne_some]
  intro k hk
  obtain ⟨body, rest, rfl, hbody, _⟩ := literalBody_of_closingFrom hk
  refine h body hbody ⟨rest, ?_⟩
  simp

/-! ## Runs of three delimiters -/

/-- A mark does not begin with a character that is not its first. -/
theorem endOfFrom_pass {c m : Char} (hc : c ≠ m) (mark : List Char) (n : Nat) (cs : List Char) :
    endOfFrom (m :: mark) n (c :: cs) = endOfFrom (m :: mark) (n + 1) cs := by
  rw [endOfFrom, if_neg]
  simp [hc.symm]

theorem getLast?_cons_of_ne {c : Char} (hc : c ≠ q) (cs : List Char) :
    (c :: cs).getLast? = some q ↔ cs.getLast? = some q := by
  cases cs with
  | nil => simp [hc]
  | cons d cs => rw [List.getLast?_cons_cons]

/-- The first three delimiters behind the opening ones end the literal. They begin with the last character of
a body if that is an escaped delimiter, and behind the body otherwise. -/
theorem LiteralBody.endOfFrom_tripled (h : LiteralBody q multiline body) (hq : q ≠ '\\') (n : Nat)
    (rest : List Char) :
    endOfFrom [q, q, q] n (body ++ q :: q :: q :: rest) =
      some (n + body.length + if body.getLast? = some q then 2 else 3) := by
  induction h generalizing n with
  | nil => simp [endOfFrom]
  | plain hne _ _ _ ih =>
    rw [List.cons_append, endOfFrom_pass hne, ih, List.length_cons]
    simp only [getLast?_cons_of_ne hne, Option.some.injEq]
    omega
  | @escape cs c h ih =>
    rw [List.cons_append, List.cons_append, endOfFrom_pass hq.symm, List.length_cons, List.length_cons]
    simp only [getLast?_cons_of_ne hq.symm]
    by_cases hc : c = q
    · subst hc
      cases cs with
      | nil => simp [endOfFrom]
      | cons d cs =>
        -- the escaped delimiter is followed by a character of the body that is none
        have hd : d ≠ c := fun hd => h.head?_ne hq (by rw [hd]; rfl)
        rw [endOfFrom, if_neg (by simp [hd.symm]), ih, List.getLast?_cons_cons]
        simp only [Option.some.injEq]
        omega
    · rw [endOfFrom_pass hc, ih]
      simp only [getLast?_cons_of_ne hc, Option.some.injEq]
      omega

/-! ## Lexemes -/

namespace Lexicon

/-- A quotation mark or a backtick. -/
def IsDelimiter (q : Char) : Prop :=
  q = '"' ∨ q = '\'' ∨ q = '\x60'

theorem IsDelimiter.ne_backslash (hq : IsDelimiter q) : q ≠ '\\' := by
  rcases hq with rfl | rfl | rfl <;> decide

theorem IsDelimiter.stops (hq : IsDelimiter q) : Stops q := by
  rcases hq with rfl | rfl | rfl <;> exact ⟨by decide, by decide, by decide, by decide, by decide⟩

/-- No comment begins with a delimiter. -/
theorem commentLength?_delimiter {x : Lexicon} (hx : x.Plain) (hq : IsDelimiter q) (cs : List Char) :
    x.commentLength? (q :: cs) = none := by
  have hblock : x.blockCommentLength? (q :: cs) = none := by
    rcases hq with rfl | rfl | rfl <;> rfl
  have hline : x.lineComments.any (·.toList.isPrefixOf (q :: cs)) = false := by
    rw [List.any_eq_false]
    intro marker hmarker
    rcases hx.lineComments marker hmarker with rfl | rfl <;> rcases hq with rfl | rfl | rfl <;>
      exact Bool.false_ne_true
  rw [commentLength?, hblock, lineCommentLength?, hline]
  rfl

/-- No operator begins with a delimiter. -/
theorem symbolLength_delimiter (language : Option Language) (hq : IsDelimiter q) (cs : List Char) :
    (Lexicon.of language).symbolLength (q :: cs) = 0 := by
  have hsymbols : ∀ symbol ∈ (Lexicon.of language).symbols, symbol.toList ≠ [] ∧ q ∉ symbol.toList := by
    rcases language with _ | language
    · rcases hq with rfl | rfl | rfl <;> decide
    · cases language <;> rcases hq with rfl | rfl | rfl <;> decide
  rw [symbolLength, List.filter_eq_nil_iff.2]
  · rfl
  · intro symbol hsymbol
    obtain ⟨hne, hmem⟩ := hsymbols symbol hsymbol
    have hstop := isPrefixOf_stop hmem [] cs
    rw [List.nil_append] at hstop
    rw [hstop]
    simp [hne]

/-- A delimiter that begins no string literal is a token of its own. -/
theorem classify_delimiter (language : Option Language) (hq : IsDelimiter q) (cs : List Char) :
    (Lexicon.of language).classify (q :: cs) =
      match (Lexicon.of language).stringLength? (q :: cs) with
      | some n => (.string, n)
      | none => (.code, 1) := by
  have hstops := hq.stops
  have hnewline : newlineLength? (q :: cs) = none := by
    rcases hq with rfl | rfl | rfl <;> rfl
  have hcontinuation : continuationLength? (q :: cs) = none := by
    rcases hq with rfl | rfl | rfl <;> rfl
  have hblank : blankLength (q :: cs) = 0 := by
    refine blankLength_stop ?_ [] cs
    rcases hq with rfl | rfl | rfl <;> decide
  have hcode : (Lexicon.of language).codeLength (q :: cs) = 1 := by
    have hnumber : numberLength? (q :: cs) = none := numberLength?_stop hstops [] cs
    have hword : wordLength? (q :: cs) = none := wordLength?_stop hstops [] cs
    rw [codeLength, hnumber, hword, symbolLength_delimiter language hq]
    rfl
  rewrite [classify, hnewline, hcontinuation, hblank, commentLength?_delimiter (plain_of language) hq, hcode]
  rfl

/-- Where backticks delimit string literals, a delimiter begins a literal if it is closed. -/
theorem classify_quoted {language : Option Language} (hlanguage : language ≠ some .python)
    (hq : IsDelimiter q) (cs : List Char) :
    (Lexicon.of language).classify (q :: cs) =
      match closingFrom q (q == '\x60') 1 cs with
      | some n => (.string, n)
      | none => (.code, 1) := by
  have hquotes : (Lexicon.of language).quotes = backtickQuotes := by
    rcases language with _ | language
    · rfl
    · cases language with
      | python => exact absurd rfl hlanguage
      | _ => rfl
  have hlength : (Lexicon.of language).stringLength? (q :: cs) = closingFrom q (q == '\x60') 1 cs := by
    have honLine (p : Char) :
        (Quote.onLine p).length? (q :: cs) = if q = p then closingFrom p false 1 cs else none := rfl
    have hacross (p : Char) :
        (Quote.acrossLines p).length? (q :: cs) = if q = p then closingFrom p true 1 cs else none := rfl
    rw [stringLength?, hquotes, backtickQuotes]
    simp only [List.findSome?_cons, List.findSome?_nil, honLine, hacross]
    rcases hq with rfl | rfl | rfl
    · show _ = closingFrom '"' false 1 cs
      cases closingFrom '"' false 1 cs <;> rfl
    · show _ = closingFrom '\'' false 1 cs
      cases closingFrom '\'' false 1 cs <;> rfl
    · show _ = closingFrom '\x60' true 1 cs
      cases closingFrom '\x60' true 1 cs <;> rfl
  rw [classify_delimiter language hq, hlength]

/-- In Python a literal between runs of three delimiters ends where the closing run is found. -/
theorem classify_tripled (hq : q = '"' ∨ q = '\'') {n : Nat} (h : endOfFrom [q, q, q] 3 cs = some n) :
    python.classify (q :: q :: q :: cs) = (.string, n) := by
  have hlength : python.stringLength? (q :: q :: q :: cs) = some n := by
    rcases hq with rfl | rfl
    · simp [stringLength?, python, Quote.length?, h]
    · simp [stringLength?, python, Quote.length?, h]
  have hclass := classify_delimiter (some .python) (hq.imp_right .inl) (q :: q :: cs)
  rw [Lexicon.of, hlength] at hclass
  exact hclass

/-! ## Tokens -/

variable {x : Lexicon} {kind : TokenKind} {a b : List Char}

/-- The first token of a text that is cut where a rule cuts it. -/
theorem head?_tokens (ha : a ≠ []) (h : x.classify (a ++ b) = (kind, a.length)) :
    (x.tokens (String.ofList (a ++ b))).head? = some { kind, text := String.ofList a } := by
  rw [tokens, placed_eq_placedFrom, String.toList_ofList, lexemes_append ha h]
  rfl

/-- A token is what the rules take where it begins. -/
theorem classify_at {source : String} {before after : List Token} {t : Token} {c : Char}
    (h : x.tokens source = before ++ t :: after)
    (hrest : source.toList = (spelled before).toList ++ c :: cs) :
    t.kind = (x.classify (c :: cs)).1 ∧
      t.text.toList = c :: cs.take ((x.classify (c :: cs)).2 - 1) := by
  rw [tokens, placed_eq_placedFrom] at h
  obtain ⟨ms, l, ns, hlexemes, rfl, rfl, _⟩ := placedFrom_eq_append_cons h
  have hspelled := spelling_lexemes x source.toList
  rw [hlexemes, spelling_append, hrest, spelled_placedFrom] at hspelled
  have hfirst := lexemes_spelling hlexemes
  rw [List.append_cancel_left hspelled, lexemes_cons] at hfirst
  obtain ⟨rfl, _⟩ := List.cons.inj hfirst
  exact ⟨rfl, String.toList_ofList⟩

end Lexicon

end Cyclomatic
