import Mathlib
import Cyclomatic.Proofs.Lexicon.Literal
import Cyclomatic.Proofs.Lexicon.Places
import Cyclomatic.Proofs.Lexicon.Touched

/-!
# Operators

The rules of a lexicon may be written as one list of alternatives, of which the first that applies takes its
piece (`Lexicon.alternatives`). In such a list each operator is an alternative of its own, and they have to
come in some order. It is enough that the longer ones come first (`longestFirst`), in whatever order those of
one length are: the first operator that a text begins with is then the longest (`IsLongest`), and the tokens
of a text are those of the lexicon (`Lexicon.operators_longest`).
-/

namespace Cyclomatic

open Text

/-! ## The longest operator -/

/-- An operator at the front of a text that is no shorter than the others there. -/
structure IsLongest (symbols : List String) (cs : List Char) (s : String) : Prop where
  mem : s ∈ symbols
  begins : s.toList <+: cs
  length_le : ∀ t ∈ symbols, t.toList <+: cs → t.length ≤ s.length

/-- Operators by their length, the longer ones first. Those of one length stay in their order. -/
def longestFirst (symbols : List String) : List String :=
  symbols.mergeSort fun s t => decide (t.length ≤ s.length)

variable {symbols order : List String} {s : String} {c : Char} {cs : List Char}

theorem pairwise_longestFirst (symbols : List String) :
    (longestFirst symbols).Pairwise fun s t => t.length ≤ s.length := by
  have hsorted : (longestFirst symbols).Pairwise fun s t => decide (t.length ≤ s.length) = true := by
    apply List.pairwise_mergeSort
    · intro s t u hst htu
      rw [decide_eq_true_iff] at hst htu ⊢
      exact htu.trans hst
    · intro s t
      rw [Bool.or_eq_true, decide_eq_true_iff, decide_eq_true_iff]
      exact le_total t.length s.length
  apply hsorted.imp
  intro s t h
  exact of_decide_eq_true h

theorem mem_longestFirst : s ∈ longestFirst symbols ↔ s ∈ symbols :=
  (List.mergeSort_perm symbols _).mem_iff

/-- Where the longer operators come first, the first at the front of a text is the longest. -/
theorem isLongest_of_find? (horder : ∀ t, t ∈ order ↔ t ∈ symbols)
    (h : (longestFirst order).find? (·.toList.isPrefixOf cs) = some s) : IsLongest symbols cs s := by
  obtain ⟨hs, before, after, hsplit, hbefore⟩ := List.find?_eq_some_iff_append.1 h
  refine ⟨?_, List.isPrefixOf_iff_prefix.1 hs, ?_⟩
  · rw [← horder, ← mem_longestFirst]
    exact List.mem_of_find?_eq_some h
  · intro t ht hbegins
    rw [← horder, ← mem_longestFirst, hsplit] at ht
    have hpairwise := pairwise_longestFirst order
    rw [hsplit, List.pairwise_append, List.pairwise_cons] at hpairwise
    rcases List.mem_append.1 ht with ht | ht
    · -- the operators that are tried before do not begin the text
      have hnot := hbefore t ht
      rw [List.isPrefixOf_iff_prefix.2 hbegins] at hnot
      cases hnot
    · rcases List.mem_cons.1 ht with rfl | ht
      · exact le_rfl
      · exact hpairwise.2.1.1 t ht

/-- If an operator begins a text, there is a longest that does. -/
theorem exists_isLongest {t : String} (ht : t ∈ symbols) (hbegins : t.toList <+: cs) :
    ∃ s, IsLongest symbols cs s := by
  cases h : (longestFirst symbols).find? (·.toList.isPrefixOf cs) with
  | some s => exact ⟨s, isLongest_of_find? (fun _ => Iff.rfl) h⟩
  | none =>
    have hnot := List.find?_eq_none.1 h t (mem_longestFirst.2 ht)
    exact absurd (List.isPrefixOf_iff_prefix.2 hbegins) hnot

/-- The longest of some texts is as long as each of them. -/
theorem le_foldl_max_length {texts : List String} (start : Nat) (h : s ∈ texts) :
    s.length ≤ texts.foldl (fun n t => max n t.length) start := by
  have hstart (texts : List String) (start : Nat) :
      start ≤ texts.foldl (fun n t => max n t.length) start := by
    induction texts generalizing start with
    | nil => exact le_rfl
    | cons t texts ih => exact (le_max_left start t.length).trans (ih (max start t.length))
  induction texts generalizing start with
  | nil => cases h
  | cons t texts ih =>
    rcases List.mem_cons.1 h with rfl | h
    · exact (le_max_right start s.length).trans (hstart texts (max start s.length))
    · exact ih (max start t.length) h

namespace Lexicon

variable {x : Lexicon}

theorem symbolLength_of_isLongest (h : IsLongest x.symbols cs s) : x.symbolLength cs = s.length := by
  apply le_antisymm
  · apply foldl_max_length_le _ (Nat.zero_le _)
    intro t ht
    obtain ⟨hmem, hbegins⟩ := List.mem_filter.1 ht
    exact h.length_le t hmem (List.isPrefixOf_iff_prefix.1 hbegins)
  · apply le_foldl_max_length
    exact List.mem_filter.2 ⟨h.mem, List.isPrefixOf_iff_prefix.2 h.begins⟩

theorem symbolLength_of_forall (h : ∀ s ∈ x.symbols, ¬s.toList <+: cs) : x.symbolLength cs = 0 := by
  rw [symbolLength, List.filter_eq_nil_iff.2]
  · rfl
  · intro s hs hbegins
    exact h s hs (List.isPrefixOf_iff_prefix.1 hbegins)

/-! ## Operators and words -/

/-- A text that begins with a character with which no number and no word begins. -/
def isSymbolic (s : String) : Bool :=
  s.toList.head?.any fun c => !isNameChar c && !isDigit c

/-- The operators of all lexicons are told from numbers and words by their first character. -/
theorem isSymbolic_of (language : Option Language) :
    ∀ s ∈ (Lexicon.of language).symbols, isSymbolic s = true := by
  rcases language with _ | language
  · decide
  · cases language <;> decide

theorem wordLength?_eq_none (hc : isNameChar c = false) (cs : List Char) : wordLength? (c :: cs) = none := by
  rw [wordLength?, List.takeWhile_cons_of_neg (by simp [hc])]
  rfl

theorem numberLength?_eq_none (hc : isDigit c = false) (cs : List Char) :
    numberLength? (c :: cs) = none := by
  rw [numberLength?, List.takeWhile_cons_of_neg (by simp [hc]), List.length_nil, List.drop_zero]
  split
  · simp
  · rfl

/-- An operator has a character at least, and where it begins there is no number and no word. -/
theorem isSymbolic_begins (hs : isSymbolic s = true) (hbegins : s.toList <+: cs) :
    0 < s.length ∧ numberLength? cs = none ∧ wordLength? cs = none := by
  rw [← String.length_toList]
  unfold isSymbolic at hs
  cases hchars : s.toList with
  | nil =>
    rw [hchars] at hs
    cases hs
  | cons c rest =>
    rw [hchars] at hs hbegins
    obtain ⟨after, rfl⟩ := hbegins
    simp only [List.head?_cons, Option.any_some, Bool.and_eq_true, Bool.not_eq_true'] at hs
    exact ⟨Nat.succ_pos _, numberLength?_eq_none hs.2 _, wordLength?_eq_none hs.1 _⟩

/-- A code token that an operator begins is the longest such operator. -/
theorem codeLength_of_isLongest (hx : ∀ s ∈ x.symbols, isSymbolic s = true)
    (h : IsLongest x.symbols cs s) : x.codeLength cs = s.length := by
  obtain ⟨hpos, hnumber, hword⟩ := isSymbolic_begins (hx s h.mem) h.begins
  rw [codeLength, hnumber, hword, symbolLength_of_isLongest h]
  exact max_eq_right hpos

/-! ## Alternatives -/

/-- A lexical rule with the class of what it takes. -/
structure Alternative where
  kind : TokenKind
  length? : List Char → Option Nat

/-- The class and the length of what the first alternative takes that applies to a text. -/
def firstOf (alternatives : List Alternative) (cs : List Char) : Option (TokenKind × Nat) :=
  alternatives.findSome? fun a => (a.length? cs).map (a.kind, ·)

/-- A run of blanks. -/
def blanksLength? (cs : List Char) : Option Nat :=
  if blankLength cs = 0 then none else some (blankLength cs)

/-- A comment from a marker to the end of the line. -/
def markedLength? (marker : String) (cs : List Char) : Option Nat :=
  if marker.toList.isPrefixOf cs then some (cs.takeWhile (· != '\n')).length else none

/-- A certain operator. -/
def operatorLength? (s : String) (cs : List Char) : Option Nat :=
  if s.toList.isPrefixOf cs then some s.length else none

/-- Any character. -/
def characterLength? : List Char → Option Nat
  | [] => none
  | _ :: _ => some 1

/-- Line breaks and blanks. -/
def layoutAlternatives : List Alternative :=
  [⟨.newline, newlineLength?⟩, ⟨.whitespace, continuationLength?⟩, ⟨.whitespace, blanksLength?⟩]

/-- The comments of a lexicon. -/
def commentAlternatives (x : Lexicon) : List Alternative :=
  ⟨.comment, x.blockCommentLength?⟩ :: x.lineComments.map fun marker => ⟨.comment, markedLength? marker⟩

/-- The string literals of a lexicon. -/
def stringAlternatives (x : Lexicon) : List Alternative :=
  x.quotes.map fun quote => ⟨.string, quote.length?⟩

/-- Numbers, words, each of some operators and each other character. -/
def codeAlternatives (symbols : List String) : List Alternative :=
  ⟨.code, numberLength?⟩ :: ⟨.code, wordLength?⟩ ::
    (symbols.map (fun s => ⟨.code, operatorLength? s⟩) ++ [⟨.code, characterLength?⟩])

/-- The rules of a lexicon as alternatives, the operators among them in the given order. -/
def alternatives (x : Lexicon) (symbols : List String) : List Alternative :=
  layoutAlternatives ++ (x.commentAlternatives ++ (x.stringAlternatives ++ codeAlternatives symbols))

/-- The lexemes that alternatives find in a text, of which the first characters, as many as the second
argument says, belong to the lexeme before. A character to which none of them applies is passed over. -/
def found (alternatives : List Alternative) : Nat → List Char → List Lexeme
  | _, [] => []
  | k + 1, _ :: cs => found alternatives k cs
  | 0, c :: cs =>
    match firstOf alternatives (c :: cs) with
    | some (kind, n) => ⟨kind, c :: cs.take (n - 1)⟩ :: found alternatives (n - 1) cs
    | none => found alternatives 0 cs

/-- The tokens of a text when the operators are tried one after the other, the longer ones first and those of
one length in the given order. -/
def tokensInOrder (x : Lexicon) (order : List String) (source : String) : List Token :=
  placed (found (x.alternatives (longestFirst order)) 0 source.toList)

theorem firstOf_append (as bs : List Alternative) (cs : List Char) :
    firstOf (as ++ bs) cs = (firstOf as cs).or (firstOf bs cs) :=
  List.findSome?_append

theorem firstOf_cons (kind : TokenKind) (rule : List Char → Option Nat) (as : List Alternative)
    (cs : List Char) :
    firstOf (⟨kind, rule⟩ :: as) cs = ((rule cs).map (kind, ·)).or (firstOf as cs) := by
  rw [firstOf, List.findSome?_cons]
  dsimp only
  cases rule cs <;> rfl

theorem firstOf_map {α : Type} (kind : TokenKind) (rule : α → List Char → Option Nat) (xs : List α)
    (cs : List Char) :
    firstOf (xs.map fun a => ⟨kind, rule a⟩) cs = (xs.findSome? (rule · cs)).map (kind, ·) := by
  induction xs with
  | nil => rfl
  | cons a xs ih =>
    rw [List.map_cons, firstOf_cons, ih, List.findSome?_cons]
    cases rule a cs <;> rfl

/-- The alternatives for comments take what the lexicon takes for a comment. -/
theorem firstOf_comments (x : Lexicon) (cs : List Char) :
    firstOf x.commentAlternatives cs = (x.commentLength? cs).map (.comment, ·) := by
  have hline : x.lineComments.findSome? (markedLength? · cs) = x.lineCommentLength? cs := by
    rw [lineCommentLength?]
    induction x.lineComments with
    | nil => rfl
    | cons marker markers ih =>
      rw [List.findSome?_cons, List.any_cons, markedLength?]
      cases marker.toList.isPrefixOf cs with
      | true => rfl
      | false => simpa using ih
  rw [commentAlternatives, firstOf_cons, firstOf_map, hline, commentLength?]
  cases x.blockCommentLength? cs <;> rfl

/-- The first of some operators that applies is the first that begins the text. -/
theorem findSome?_operatorLength? (symbols : List String) (cs : List Char) :
    symbols.findSome? (operatorLength? · cs) =
      (symbols.find? (·.toList.isPrefixOf cs)).map String.length := by
  induction symbols with
  | nil => rfl
  | cons s symbols ih =>
    rw [List.findSome?_cons, List.find?_cons, operatorLength?]
    cases s.toList.isPrefixOf cs with
    | true => rfl
    | false => exact ih

/-- The alternatives for code take as much as the lexicon, whatever the order of the operators. -/
theorem firstOf_code (hx : ∀ s ∈ x.symbols, isSymbolic s = true) (horder : ∀ s, s ∈ order ↔ s ∈ x.symbols)
    (c : Char) (cs : List Char) :
    firstOf (codeAlternatives (longestFirst order)) (c :: cs) = some (.code, x.codeLength (c :: cs)) := by
  rw [codeAlternatives, firstOf_cons, firstOf_cons, firstOf_append, firstOf_map, findSome?_operatorLength?]
  cases hfind : (longestFirst order).find? (·.toList.isPrefixOf (c :: cs)) with
  | some s =>
    have hlongest := isLongest_of_find? horder hfind
    obtain ⟨-, hnumber, hword⟩ := isSymbolic_begins (hx s hlongest.mem) hlongest.begins
    rw [codeLength_of_isLongest hx hlongest, hnumber, hword]
    rfl
  | none =>
    have hnone : x.symbolLength (c :: cs) = 0 := by
      apply symbolLength_of_forall
      intro s hs hbegins
      have hnot := List.find?_eq_none.1 hfind s (mem_longestFirst.2 ((horder s).2 hs))
      exact hnot (List.isPrefixOf_iff_prefix.2 hbegins)
    rw [codeLength, hnone]
    cases numberLength? (c :: cs) with
    | some n => rfl
    | none => cases wordLength? (c :: cs) <;> rfl

/-- The first alternative that applies takes what the lexicon takes. -/
theorem firstOf_alternatives (hx : ∀ s ∈ x.symbols, isSymbolic s = true)
    (horder : ∀ s, s ∈ order ↔ s ∈ x.symbols) (c : Char) (cs : List Char) :
    firstOf (x.alternatives (longestFirst order)) (c :: cs) = some (x.classify (c :: cs)) := by
  rw [alternatives, firstOf_append, firstOf_append, firstOf_append, firstOf_comments, firstOf_code hx horder,
    stringAlternatives, firstOf_map, layoutAlternatives, firstOf_cons, firstOf_cons, firstOf_cons, classify,
    stringLength?, blanksLength?]
  -- both sides try the classes in the same order, so they agree on the first that applies
  cases newlineLength? (c :: cs) with
  | some n => rfl
  | none =>
    cases continuationLength? (c :: cs) with
    | some n => rfl
    | none =>
      cases blankLength (c :: cs) with
      | succ n => rfl
      | zero =>
        cases x.commentLength? (c :: cs) with
        | some n => rfl
        | none => cases x.quotes.findSome? (·.length? (c :: cs)) <;> rfl

/-- Alternatives that take what the lexicon takes find its lexemes. -/
theorem found_eq_lexemes {alternatives : List Alternative}
    (h : ∀ c cs, firstOf alternatives (c :: cs) = some (x.classify (c :: cs))) (k : Nat) (cs : List Char) :
    found alternatives k cs = x.lexemes (cs.drop k) := by
  -- the induction is on the text, with any number of its characters still part of the lexeme before
  induction cs generalizing k with
  | nil =>
    rw [List.drop_nil]
    cases k <;> rfl
  | cons c cs ih =>
    cases k with
    | zero =>
      rw [List.drop_zero, lexemes_cons, found, h]
      exact congrArg _ (ih _)
    | succ k =>
      rw [List.drop_succ_cons, found]
      exact ih k

/-! ## Tokens -/

/-- A code token takes as much as the rule for code does. -/
theorem text_of_code {source : String} {before after : List Token} {t : Token}
    (h : x.tokens source = before ++ t :: after) (hcode : t.kind = .code) :
    ∃ c cs, (spelled (t :: after)).toList = c :: cs ∧
      t.text.toList = c :: cs.take (x.codeLength (c :: cs) - 1) := by
  have hmem : t ∈ x.tokens source := by
    rw [h]
    simp
  have hrest : source.toList = (spelled before).toList ++ (spelled (t :: after)).toList := by
    rw [← spelled_tokens x source, h]
    simp [spelled]
  cases hcs : (spelled (t :: after)).toList with
  | nil =>
    have hempty : t.text.toList = [] := by
      simp [spelled] at hcs
      simp [hcs]
    exact absurd (String.toList_eq_nil_iff.1 hempty) (token_ne_empty hmem)
  | cons c cs =>
    rw [hcs] at hrest
    obtain ⟨hkind, htext⟩ := classify_at h hrest
    obtain ⟨-, hlength⟩ := classify_code x (c :: cs) (hkind ▸ hcode)
    rw [hlength] at htext
    exact ⟨c, cs, rfl, htext⟩

/-- A code token that begins where an operator of the table does is the longest operator there. So what is an
operator, or a single character of no word, is the longest operator that begins the rest of the text, or a
character where none does. The tokens are the same in whatever order operators of one length are tried. -/
theorem operators_longest (language : Option Language) {order : List String}
    (horder : ∀ s, s ∈ order ↔ s ∈ (Lexicon.of language).symbols) (source : String) :
    (∀ before t after, (Lexicon.of language).tokens source = before ++ t :: after → t.kind = .code →
      (∀ s, IsLongest (Lexicon.of language).symbols (spelled (t :: after)).toList s → t.text = s) ∧
      (t.text ∈ (Lexicon.of language).symbols ∨ (∃ c, t.text = String.singleton c ∧ isWord c = false) →
        IsLongest (Lexicon.of language).symbols (spelled (t :: after)).toList t.text ∨
          (∀ s ∈ (Lexicon.of language).symbols, ¬s.toList <+: (spelled (t :: after)).toList) ∧
            t.text.length = 1)) ∧
      (Lexicon.of language).tokensInOrder order source = (Lexicon.of language).tokens source := by
  have hx := isSymbolic_of language
  constructor
  · intro before t after htokens hcode
    obtain ⟨c, cs, hrest, htext⟩ := text_of_code htokens hcode
    rw [hrest]
    have hbegins : t.text.toList <+: c :: cs := by
      rw [htext]
      exact List.cons_prefix_cons.2 ⟨rfl, List.take_prefix _ cs⟩
    have hlongest : ∀ s, IsLongest (Lexicon.of language).symbols (c :: cs) s → t.text = s := by
      intro s hs
      have hpos := (isSymbolic_begins (hx s hs.mem) hs.begins).1
      have hlength : s.toList.length - 1 + 1 = s.toList.length := by
        rw [String.length_toList]
        omega
      apply String.toList_inj.1
      rw [htext, codeLength_of_isLongest hx hs, List.prefix_iff_eq_take.1 hs.begins, ← String.length_toList,
        ← hlength, List.take_succ_cons]
      rfl
    refine ⟨hlongest, ?_⟩
    intro hoperator
    -- where no operator begins, the token is not in the table and so has a single character
    by_cases hnone : ∀ s ∈ (Lexicon.of language).symbols, ¬s.toList <+: c :: cs
    · refine .inr ⟨hnone, ?_⟩
      rcases hoperator with hmem | ⟨d, hd, -⟩
      · exact absurd hbegins (hnone t.text hmem)
      · rw [hd, String.length_singleton]
    · push Not at hnone
      obtain ⟨u, hu, hbeginsU⟩ := hnone
      obtain ⟨s, hs⟩ := exists_isLongest hu hbeginsU
      rw [hlongest s hs]
      exact .inl hs
  · rw [tokensInOrder, found_eq_lexemes (firstOf_alternatives hx horder), List.drop_zero, tokens]

/-- Two operators begin where the assignment does, and the token is the longer one. The order in which operators
of one length are tried is turned round. -/
theorem operators_longest_assignment :
    (∀ s, s ∈ (Lexicon.of (some .typescript)).symbols.reverse ↔
        s ∈ (Lexicon.of (some .typescript)).symbols) ∧
      ∃ before t after, (Lexicon.of (some .typescript)).tokens "x??=y" = before ++ t :: after ∧
        t.kind = .code ∧ t.text = "??=" ∧ t.text ∈ (Lexicon.of (some .typescript)).symbols ∧
        IsLongest (Lexicon.of (some .typescript)).symbols (spelled (t :: after)).toList t.text ∧
        (Lexicon.of (some .typescript)).tokensInOrder (Lexicon.of (some .typescript)).symbols.reverse "x??=y" =
          (Lexicon.of (some .typescript)).tokens "x??=y" := by
  have horder : ∀ s, s ∈ (Lexicon.of (some .typescript)).symbols.reverse ↔
      s ∈ (Lexicon.of (some .typescript)).symbols := fun _ => List.mem_reverse
  have htokens : (Lexicon.of (some .typescript)).tokens "x??=y" =
      [⟨.code, "x", 1, 0, false⟩] ++ ⟨.code, "??=", 1, 1, false⟩ :: [⟨.code, "y", 1, 4, false⟩] := by
    decide +kernel
  obtain ⟨hcode, hsame⟩ := operators_longest (some .typescript) horder "x??=y"
  obtain ⟨-, hoperator⟩ := hcode _ _ _ htokens rfl
  have hmem : "??=" ∈ (Lexicon.of (some .typescript)).symbols := by decide
  have hlongest := (hoperator (.inl hmem)).resolve_right fun h => absurd h.2 (by decide)
  exact ⟨horder, _, _, _, htokens, rfl, rfl, hmem, hlongest, hsame⟩

end Lexicon

end Cyclomatic
