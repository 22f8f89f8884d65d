import Mathlib
import Cyclomatic.Lexicon.Lexeme

/-!
# Rules that stop

Many lexical rules stop at a character that they do not take: for a text `u ++ c :: v` they answer as if
the text were `u`, whatever `v` is. So it is with numbers and words at every character that cannot be part
of them (`Stops`), and with blanks, line comments and all code at a line break. Therefore no code token
holds a line break (`Lexicon.not_mem_take_codeLength`). Only continuations, block comments and strings can
go on after the end of a line.
-/

namespace Cyclomatic

open Text

variable {c : Char}

/-! ## Runs and marks -/

/-- A run of characters ends at one that does not belong to it. -/
theorem takeWhile_stop {p : Char → Bool} (hp : p c = false) (u v : List Char) :
    (u ++ c :: v).takeWhile p = u.takeWhile p := by
  induction u with
  | nil => simp [hp]
  | cons d u ih => simp only [List.cons_append, List.takeWhile_cons, ih]

/-- Whether a mark begins a text is settled before a character that the mark does not hold. -/
theorem isPrefixOf_stop {mark : List Char} (hmark : c ∉ mark) (u v : List Char) :
    mark.isPrefixOf (u ++ c :: v) = mark.isPrefixOf u := by
  induction u generalizing mark with
  | nil =>
    cases mark with
    | nil => rfl
    | cons m mark =>
      have hm : m ≠ c := fun h => hmark (h ▸ List.mem_cons_self)
      simp [List.isPrefixOf, hm]
  | cons d u ih =>
    cases mark with
    | nil => rfl
    | cons m mark =>
      have hrest : c ∉ mark := fun h => hmark (List.mem_cons_of_mem m h)
      simp only [List.cons_append, List.isPrefixOf_cons_cons, ih hrest]

/-- The first character of a mark does not matter to that, unless the text begins there. -/
theorem isPrefixOf_stop_tail {mark u : List Char} (hmark : c ∉ mark.tail) (hu : u ≠ [])
    (v : List Char) : mark.isPrefixOf (u ++ c :: v) = mark.isPrefixOf u := by
  cases u with
  | nil => exact absurd rfl hu
  | cons d u =>
    cases mark with
    | nil => rfl
    | cons m mark =>
      have hrest : c ∉ mark := hmark
      simp only [List.cons_append, List.isPrefixOf_cons_cons, isPrefixOf_stop hrest]

/-- A mark is no longer than the text that it begins. -/
theorem length_le_of_isPrefixOf {mark cs : List Char} (h : mark.isPrefixOf cs = true) :
    mark.length ≤ cs.length :=
  (List.isPrefixOf_iff_prefix.1 h).length_le

theorem length_takeWhile_le (p : Char → Bool) (cs : List Char) :
    (cs.takeWhile p).length ≤ cs.length :=
  (List.takeWhile_sublist p).length_le

/-! ## Blanks and words -/

/-- A character that is part of no number and no word, so that both stop there. -/
structure Stops (c : Char) : Prop where
  name : isNameChar c = false
  digit : isDigit c = false
  point : c ≠ '.'
  plus : c ≠ '+'
  minus : c ≠ '-'

/-- Numbers and words stop at a line break. -/
theorem stops_lineBreak : Stops '\n' :=
  ⟨by decide, by decide, by decide, by decide, by decide⟩

/-- Blanks stop at a line break and at every character that is not blank. -/
theorem blankLength_stop (hc : (isBlank c && c != '\n') = false) (u v : List Char) :
    blankLength (u ++ c :: v) = blankLength u := by
  rw [blankLength, takeWhile_stop hc, blankLength]

/-- A word stops at a character that cannot be part of one. -/
theorem wordLength?_stop (hc : Stops c) (u v : List Char) :
    wordLength? (u ++ c :: v) = wordLength? u := by
  rw [wordLength?, takeWhile_stop hc.name, wordLength?]

theorem wordLength?_le {cs : List Char} {n : Nat} (h : wordLength? cs = some n) :
    n ≤ cs.length := by
  have hle := length_takeWhile_le isNameChar cs
  unfold wordLength? at h
  split at h
  · cases h
  · rename_i k hk
    obtain rfl := Option.some.inj h
    rw [hk] at hle
    exact hle

/-! ## Numbers -/

/-- The digits at the front of a text, and what follows them, do not reach beyond a character that stops
them. -/
theorem drop_digits_stop (hc : Stops c) (u v : List Char) :
    (u ++ c :: v).drop ((u ++ c :: v).takeWhile isDigit).length =
      u.drop (u.takeWhile isDigit).length ++ c :: v := by
  rw [takeWhile_stop hc.digit, List.drop_append_of_le_length (length_takeWhile_le _ u)]

/-- An exponent stops at such a character. -/
theorem exponentLength_stop (hc : Stops c) (u v : List Char) :
    exponentLength (u ++ c :: v) = exponentLength u := by
  cases u with
  | nil =>
    have he : ¬(c = 'e' ∨ c = 'E') := by
      have hname := hc.name
      rintro (rfl | rfl)
      · exact absurd hname (by decide)
      · exact absurd hname (by decide)
    simp [exponentLength, he]
  | cons d u =>
    -- a sign stands before the character that stops
    have hhead (sign : Char) (hsign : c ≠ sign) :
        (u ++ c :: v).head? = some sign ↔ u.head? = some sign := by
      cases u with
      | nil => simp [hsign]
      | cons e u => simp
    have hsign : (if (u ++ c :: v).head? = some '+' ∨ (u ++ c :: v).head? = some '-'
        then 1 else 0) = if u.head? = some '+' ∨ u.head? = some '-' then 1 else 0 := by
      simp only [hhead '+' hc.plus, hhead '-' hc.minus]
    have hle : (if u.head? = some '+' ∨ u.head? = some '-' then 1 else 0) ≤ u.length := by
      cases u with
      | nil => simp
      | cons e u =>
        split
        · simp
        · simp
    simp only [List.cons_append, exponentLength, hsign]
    rw [List.drop_append_of_le_length hle, takeWhile_stop hc.digit]

theorem exponentLength_le (cs : List Char) : exponentLength cs ≤ cs.length := by
  cases cs with
  | nil => simp [exponentLength]
  | cons c cs =>
    simp only [exponentLength]
    generalize (if cs.head? = some '+' ∨ cs.head? = some '-' then 1 else 0) = sign
    have hle := length_takeWhile_le isDigit (cs.drop sign)
    rw [List.length_drop] at hle
    split
    · split
      · omega
      · rw [List.length_cons]
        omega
    · omega

/-- A number stops at such a character, with its point and exponent. -/
theorem numberLength?_stop (hc : Stops c) (u v : List Char) :
    numberLength? (u ++ c :: v) = numberLength? u := by
  unfold numberLength?
  dsimp only
  rw [drop_digits_stop hc, takeWhile_stop hc.digit]
  cases u.drop (u.takeWhile isDigit).length with
  | nil => simp [hc.point]
  | cons d rest =>
    by_cases hd : d = '.'
    · subst hd
      simp only [List.cons_append]
      rw [takeWhile_stop hc.digit,
        List.drop_append_of_le_length (length_takeWhile_le _ rest), exponentLength_stop hc]
    · simp [hd]

/-- A number is no longer than the text. -/
theorem numberLength?_le {cs : List Char} {n : Nat} (h : numberLength? cs = some n) :
    n ≤ cs.length := by
  unfold numberLength? at h
  dsimp only at h
  split at h
  · rename_i rest hrest
    -- the text is the digits, the point, the digits after it, and then the exponent
    have hwhole := congrArg List.length hrest
    rw [List.length_drop, List.length_cons] at hwhole
    have hfraction := length_takeWhile_le isDigit rest
    have hexponent := exponentLength_le (rest.drop (rest.takeWhile isDigit).length)
    rw [List.length_drop] at hexponent
    split at h
    · cases h
    · obtain rfl := Option.some.inj h
      omega
  · cases h

/-- The delimiter of a form of string literal. -/
def Quote.delimiter : Quote → Char
  | .onLine q | .acrossLines q | .tripled q => q

namespace Lexicon

/-! ## Symbols and code -/

/-- Every mark of a lexicon stands on one line. -/
structure OneLine (x : Lexicon) : Prop where
  lineComments : ∀ mark ∈ x.lineComments, '\n' ∉ mark.toList
  quotes : ∀ quote ∈ x.quotes, quote.delimiter ≠ '\n'
  symbols : ∀ symbol ∈ x.symbols, '\n' ∉ symbol.toList

/-- In every language an operator and the mark of a line comment lie on one line. -/
theorem oneLine_of (language : Option Language) : (Lexicon.of language).OneLine := by
  rcases language with _ | language
  · exact ⟨by decide, by decide, by decide⟩
  · cases language <;> exact ⟨by decide, by decide, by decide⟩

variable {x : Lexicon} {u : List Char}

/-- An operator that has begun before a character ends before it, unless it can go on with it. -/
theorem symbolLength_stop (hx : ∀ symbol ∈ x.symbols, c ∉ symbol.toList.tail) (hu : u ≠ [])
    (v : List Char) : x.symbolLength (u ++ c :: v) = x.symbolLength u := by
  unfold symbolLength
  congr 1
  apply List.filter_congr
  intro symbol hsymbol
  exact isPrefixOf_stop_tail (hx symbol hsymbol) hu v

/-- No operator goes on after the end of a line. -/
theorem OneLine.tail_symbols (hx : x.OneLine) : ∀ symbol ∈ x.symbols, '\n' ∉ symbol.toList.tail :=
  fun symbol hsymbol h => hx.symbols symbol hsymbol (List.mem_of_mem_tail h)

/-- The longest of some texts, each no longer than a bound, is no longer. -/
theorem foldl_max_length_le {bound start : Nat} (texts : List String) (hstart : start ≤ bound)
    (h : ∀ text ∈ texts, text.length ≤ bound) :
    texts.foldl (fun n s => max n s.length) start ≤ bound := by
  induction texts generalizing start with
  | nil => exact hstart
  | cons text texts ih =>
    apply ih
    · exact max_le hstart (h text List.mem_cons_self)
    · exact fun t ht => h t (List.mem_cons_of_mem text ht)

/-- An operator is no longer than the text. -/
theorem symbolLength_le (x : Lexicon) (cs : List Char) : x.symbolLength cs ≤ cs.length := by
  apply foldl_max_length_le _ (Nat.zero_le _)
  intro symbol hsymbol
  rw [← String.length_toList]
  exact length_le_of_isPrefixOf (List.mem_filter.1 hsymbol).2

/-- Code stops at a character that neither words nor numbers nor operators go on with. -/
theorem codeLength_stop (hc : Stops c) (hx : ∀ symbol ∈ x.symbols, c ∉ symbol.toList.tail)
    (hu : u ≠ []) (v : List Char) : x.codeLength (u ++ c :: v) = x.codeLength u := by
  rw [codeLength, numberLength?_stop hc, wordLength?_stop hc, symbolLength_stop hx hu, codeLength]

/-- Code is no longer than the text. -/
theorem codeLength_le (x : Lexicon) {cs : List Char} (hcs : cs ≠ []) :
    x.codeLength cs ≤ cs.length := by
  unfold codeLength
  cases hnumber : numberLength? cs with
  | some n => exact numberLength?_le hnumber
  | none =>
    cases hword : wordLength? cs with
    | some n => exact wordLength?_le hword
    | none =>
      have hone : 1 ≤ cs.length := List.length_pos_iff.2 hcs
      exact max_le hone (symbolLength_le x cs)

/-- Code that does not begin with a line break holds none. -/
theorem not_mem_take_codeLength (hx : x.OneLine) (c : Char) (cs : List Char) (hc : c ≠ '\n') :
    '\n' ∉ (c :: cs).take (x.codeLength (c :: cs)) := by
  by_cases hmem : '\n' ∈ c :: cs
  · obtain ⟨u, v, huv, hu⟩ := List.eq_append_cons_of_mem hmem
    have hne : u ≠ [] := by
      rintro rfl
      exact hc (List.cons.inj huv).1
    rw [huv, codeLength_stop stops_lineBreak hx.tail_symbols hne,
      List.take_append_of_le_length (codeLength_le x hne)]
    exact fun h => hu (List.mem_of_mem_take h)
  · exact fun h => hmem (List.mem_of_mem_take h)

/-! ## Line comments -/

/-- A line comment stops at a line break. -/
theorem lineCommentLength?_lineBreak (hx : x.OneLine) (u v : List Char) :
    x.lineCommentLength? (u ++ '\n' :: v) = x.lineCommentLength? u := by
  have hany : x.lineComments.any (·.toList.isPrefixOf (u ++ '\n' :: v)) =
      x.lineComments.any (·.toList.isPrefixOf u) := by
    rw [Bool.eq_iff_iff, List.any_eq_true, List.any_eq_true]
    constructor
    · rintro ⟨mark, hmark, hprefix⟩
      rw [isPrefixOf_stop (hx.lineComments mark hmark)] at hprefix
      exact ⟨mark, hmark, hprefix⟩
    · rintro ⟨mark, hmark, hprefix⟩
      rw [← isPrefixOf_stop (hx.lineComments mark hmark) u v] at hprefix
      exact ⟨mark, hmark, hprefix⟩
  rw [lineCommentLength?, hany, takeWhile_stop (by decide), lineCommentLength?]

end Lexicon

end Cyclomatic
