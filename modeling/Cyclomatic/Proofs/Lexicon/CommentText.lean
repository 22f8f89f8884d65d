import Mathlib
import Cyclomatic.Proofs.Lexicon.BlankLine

/-!
# The text of a comment

The text of a line comment can be replaced by any other text that ends nothing (`Quiet`): the comment keeps
its place and all other lexemes stay as they are (`Lexicon.lexemes_comment`). Every comment or string that
was tried before and turned out to be left open was tried on the old text, and the new one does not
close it either. For the tokens only a column changes, that of the line break after the comment
(`Lexicon.tokens_comment`).
-/

namespace Cyclomatic

open Text

/-! ## Quiet texts -/

/-- A text that ends neither a line nor a comment nor a string, and takes no character after it along. -/
structure Quiet (cs : List Char) : Prop where
  lineBreak : '\n' ∉ cs
  doubleQuote : '"' ∉ cs
  singleQuote : '\'' ∉ cs
  backtick : '\x60' ∉ cs
  backslash : '\\' ∉ cs
  blockEnd : ¬['*', '/'] <:+: cs

instance (cs : List Char) : Decidable (Quiet cs) :=
  decidable_of_iff ('\n' ∉ cs ∧ '"' ∉ cs ∧ '\'' ∉ cs ∧ '\x60' ∉ cs ∧ '\\' ∉ cs ∧ ¬['*', '/'] <:+: cs)
    ⟨fun ⟨h₁, h₂, h₃, h₄, h₅, h₆⟩ => ⟨h₁, h₂, h₃, h₄, h₅, h₆⟩,
      fun h => ⟨h.lineBreak, h.doubleQuote, h.singleQuote, h.backtick, h.backslash, h.blockEnd⟩⟩

variable {cs : List Char} {q : Char}

/-- A slash or a hash before a quiet text leaves it quiet. -/
theorem Quiet.cons (h : Quiet cs) {c : Char} (hc : c = '/' ∨ c = '#') : Quiet (c :: cs) := by
  have hblock : ¬['*', '/'] <:+: c :: cs := by
    have hstar : '*' ≠ c := by rcases hc with rfl | rfl <;> decide
    simp [List.infix_cons_iff, h.blockEnd, hstar]
  rcases hc with rfl | rfl
  · exact ⟨by simp [h.lineBreak], by simp [h.doubleQuote], by simp [h.singleQuote],
      by simp [h.backtick], by simp [h.backslash], hblock⟩
  · exact ⟨by simp [h.lineBreak], by simp [h.doubleQuote], by simp [h.singleQuote],
      by simp [h.backtick], by simp [h.backslash], hblock⟩

/-- A quiet text holds no delimiter. -/
theorem Quiet.not_mem (h : Quiet cs) (hq : q = '"' ∨ q = '\'' ∨ q = '\x60') : q ∉ cs := by
  rcases hq with rfl | rfl | rfl
  · exact h.doubleQuote
  · exact h.singleQuote
  · exact h.backtick

/-! ## Left open -/

/-- What comes after a line comment: nothing, or a line break. -/
def AtLineEnd (cs : List Char) : Prop :=
  cs = [] ∨ ∃ v, cs = '\n' :: v

/-- Every text is the rest of its first line and what comes after that. -/
theorem exists_atLineEnd (cs : List Char) : ∃ w rest, cs = w ++ rest ∧ '\n' ∉ w ∧ AtLineEnd rest := by
  by_cases hmem : '\n' ∈ cs
  · obtain ⟨w, v, rfl, hw⟩ := List.eq_append_cons_of_mem hmem
    exact ⟨w, '\n' :: v, rfl, hw, .inr ⟨v, rfl⟩⟩
  · exact ⟨cs, [], (List.append_nil cs).symm, hmem, .inl rfl⟩

variable {mark w w' rest : List Char}

/-- A mark is found if it is somewhere in the text. -/
theorem endOfFrom_eq_none_iff_absent (hne : mark ≠ []) (n : Nat) (cs : List Char) :
    endOfFrom mark n cs = none ↔ ¬mark <:+: cs := by
  induction cs generalizing n with
  | nil => simp [endOfFrom, hne]
  | cons c cs ih =>
    rw [endOfFrom, List.infix_cons_iff, ← List.isPrefixOf_iff_prefix]
    split
    · simp_all
    · simp_all

/-- If a mark is in a text that goes on at the end of a line, it is before that or after it. -/
theorem infix_atLineEnd (hmark : '\n' ∉ mark) (hne : mark ≠ []) (hrest : AtLineEnd rest)
    (h : mark <:+: w ++ rest) : mark <:+: w ∨ mark <:+: rest := by
  rcases hrest with rfl | ⟨v, rfl⟩
  · rw [List.append_nil] at h
    exact .inl h
  · by_contra hnot
    rw [not_or, List.infix_cons_iff, not_or] at hnot
    obtain ⟨hw, -, hv⟩ := hnot
    have hlast : '\n' ∉ mark.dropLast := fun h => hmark (List.mem_of_mem_dropLast h)
    have hbreak : ¬mark <:+: w ++ ['\n'] := by
      rw [List.infix_concat_iff, not_or]
      refine ⟨fun hends => ?_, hw⟩
      rcases List.suffix_concat_iff.1 hends with hnil | ⟨u, rfl, _⟩
      · exact hne hnil
      · exact hmark (by simp)
    have hnone := endOfFrom_last hlast 0 w v
    rw [(endOfFrom_eq_none_iff_absent hne 0 _).2 hbreak, Option.none_or,
      (endOfFrom_eq_none_iff_absent hne _ _).2 hv, endOfFrom_eq_none_iff_absent hne] at hnone
    exact hnone h

/-- A mark that is not found is not found after the text before it has been replaced either. -/
theorem endOfFrom_replaced (hmark : '\n' ∉ mark) (hne : mark ≠ []) (hw' : ¬mark <:+: w')
    (hrest : AtLineEnd rest) (h : endOfFrom mark 0 (w ++ rest) = none) :
    endOfFrom mark 0 (w' ++ rest) = none := by
  rw [endOfFrom_eq_none_iff_absent hne] at h ⊢
  intro hwithin
  rcases infix_atLineEnd hmark hne hrest hwithin with hwithin | hwithin
  · exact hw' hwithin
  · exact h (hwithin.trans (List.suffix_append w rest).isInfix)

variable {multiline : Bool}

/-- A quiet text is passed over on the way to a delimiter. -/
theorem closingFrom_quiet (h : Quiet w) (hq : q = '"' ∨ q = '\'' ∨ q = '\x60') (multiline : Bool)
    (n : Nat) (rest : List Char) :
    closingFrom q multiline n (w ++ rest) = closingFrom q multiline (n + w.length) rest := by
  have hquote := h.not_mem hq
  have hbackslash := h.backslash
  have hbreak := h.lineBreak
  clear h
  induction w generalizing n with
  | nil => rfl
  | cons c w ih =>
    obtain ⟨hc, hquote⟩ := not_or.1 (fun h => hquote (List.mem_cons.2 h))
    obtain ⟨hb, hbackslash⟩ := not_or.1 (fun h => hbackslash (List.mem_cons.2 h))
    obtain ⟨hn, hbreak⟩ := not_or.1 (fun h => hbreak (List.mem_cons.2 h))
    rw [List.cons_append, closingFrom_pass (Ne.symm hc) (Ne.symm hb) (fun h => absurd h.symm hn),
      ih (n + 1) hquote hbackslash hbreak, List.length_cons]
    congr 1
    omega

/-- A text over several lines that is left open before a line break is left open after it. -/
theorem closingFrom_after_lineBreak (hq : q ≠ '\n') (v : List Char) : ∀ (n : Nat) (w : List Char),
    closingFrom q true n (w ++ '\n' :: v) = none → closingFrom q true 0 v = none
  | n, [], h => by
    rw [List.nil_append, closingFrom_break hq, if_pos rfl] at h
    exact (closingFrom_eq_none_iff _ _ _ _ _).1 h
  | n, [c], h => by
    rw [List.singleton_append, closingFrom_cons_cons] at h
    split at h
    · cases h
    · split at h
      · -- the backslash takes the line break
        exact (closingFrom_eq_none_iff _ _ _ _ _).1 h
      · rw [if_neg (by simp)] at h
        exact closingFrom_after_lineBreak hq v (n + 1) [] h
  | n, c :: d :: w, h => by
    rw [List.cons_append, List.cons_append, closingFrom_cons_cons] at h
    split at h
    · cases h
    · split at h
      · exact closingFrom_after_lineBreak hq v (n + 2) w h
      · rw [if_neg (by simp)] at h
        exact closingFrom_after_lineBreak hq v (n + 1) (d :: w) h

/-- A string that is left open is left open after a text in it has been replaced by a quiet one. -/
theorem closingFrom_replaced (hw' : Quiet w') (hq : q = '"' ∨ q = '\'' ∨ q = '\x60')
    (hrest : AtLineEnd rest) (h : closingFrom q multiline 0 (w ++ rest) = none) :
    closingFrom q multiline 0 (w' ++ rest) = none := by
  have hne : q ≠ '\n' := by rcases hq with rfl | rfl | rfl <;> decide
  rw [closingFrom_quiet hw' hq]
  rcases hrest with rfl | ⟨v, rfl⟩
  · rfl
  · rw [closingFrom_break hne]
    split
    · rename_i hmultiline
      rw [hmultiline] at h ⊢
      exact (closingFrom_eq_none_iff _ _ _ _ _).1 (closingFrom_after_lineBreak hne v 0 w h)
    · rfl

/-- Whatever is left open with a comment after it is left open when the comment has another text. -/
theorem unfinished_comment {c : Char} (hc : c = '/' ∨ c = '#') (hw' : Quiet w')
    (hq : q = '"' ∨ q = '\'' ∨ q = '\x60') (hrest : AtLineEnd rest) :
    Unfinished q c (w ++ rest) (w' ++ rest) := by
  have hne : q ≠ '\n' := by rcases hq with rfl | rfl | rfl <;> decide
  have hcq : c ≠ q := by
    rcases hc with rfl | rfl <;> rcases hq with rfl | rfl | rfl <;> decide
  refine ⟨hcq, fun multiline h => ?_, fun multiline h => ?_, fun h => ?_⟩
  · rw [← List.cons_append] at h ⊢
    exact closingFrom_replaced (hw'.cons hc) hq hrest h
  · exact closingFrom_replaced hw' hq hrest h
  · refine endOfFrom_replaced (by simp [hne.symm]) (by simp) (fun hwithin => ?_) hrest h
    exact hw'.not_mem hq (hwithin.subset List.mem_cons_self)

namespace Lexicon

/-! ## The marks of the lexicons -/

/-- What the comment markers, delimiters and operators of a lexicon have in common, whatever the
language: a line comment begins with two slashes or a hash, and no operator goes on with that. -/
structure Plain (x : Lexicon) : Prop where
  lineComments : ∀ marker ∈ x.lineComments, marker = "//" ∨ marker = "#"
  delimiters : ∀ quote ∈ x.quotes,
    quote.delimiter = '"' ∨ quote.delimiter = '\'' ∨ quote.delimiter = '\x60'
  symbols : ∀ marker ∈ x.lineComments, ∀ symbol ∈ x.symbols,
    symbol.toList.tail.all (· ∉ marker.toList) = true

theorem plain_of (language : Option Language) : (Lexicon.of language).Plain := by
  rcases language with _ | language
  · exact ⟨by decide, by decide, by decide⟩
  · cases language <;> exact ⟨by decide, by decide, by decide⟩

variable {x : Lexicon}

/-- A line comment begins with a slash or a hash, and after a slash comes another one. -/
theorem Plain.marker_eq (hx : x.Plain) {marker : String} (hmarker : marker ∈ x.lineComments) :
    ∃ c m, marker.toList = c :: m ∧ (c = '/' ∧ m = ['/'] ∨ c = '#' ∧ m = []) := by
  rcases hx.lineComments marker hmarker with rfl | rfl
  · exact ⟨'/', ['/'], rfl, .inl ⟨rfl, rfl⟩⟩
  · exact ⟨'#', [], rfl, .inr ⟨rfl, rfl⟩⟩

/-! ## Line comments -/

/-- A character that can begin a line comment stops numbers and words. -/
theorem stops_marker {c : Char} (hc : c = '/' ∨ c = '#') : Stops c := by
  rcases hc with rfl | rfl
  · exact ⟨by decide, by decide, by decide, by decide, by decide⟩
  · exact ⟨by decide, by decide, by decide, by decide, by decide⟩

/-- A line comment goes on to the end of its line. -/
theorem takeWhile_atLineEnd (hw : '\n' ∉ w) (hrest : AtLineEnd rest) :
    (w ++ rest).takeWhile (· != '\n') = w := by
  have hall : ∀ d ∈ w, (d != '\n') = true := fun d hd => by
    rw [bne_iff_ne]
    rintro rfl
    exact hw hd
  rw [List.takeWhile_append_of_pos hall]
  rcases hrest with rfl | ⟨v, rfl⟩
  · simp
  · simp

/-- The marker of a line comment begins no block comment. -/
theorem blockCommentLength?_marker {c : Char} {m : List Char}
    (hm : c = '/' ∧ m = ['/'] ∨ c = '#' ∧ m = []) (cs : List Char) :
    x.blockCommentLength? (c :: (m ++ cs)) = none := by
  rcases hm with ⟨rfl, rfl⟩ | ⟨rfl, rfl⟩ <;> rfl

/-- A text that begins with the marker of a line comment begins with that comment. -/
theorem lineCommentLength?_marker {marker : String} (hmarker : marker ∈ x.lineComments)
    (cs : List Char) : x.lineCommentLength? (marker.toList ++ cs) =
      some ((marker.toList ++ cs).takeWhile (· != '\n')).length := by
  have hstarts : marker.toList.isPrefixOf (marker.toList ++ cs) = true :=
    List.isPrefixOf_iff_prefix.2 (List.prefix_append _ _)
  rw [lineCommentLength?, if_pos (List.any_eq_true.2 ⟨marker, hmarker, hstarts⟩)]

/-- A mark that a text begins with is there when the text of a comment in it is replaced: it has two
characters at most, and the first character of a comment stays. -/
theorem exists_mark_replaced (hx : x.Plain) {marker : String} (hmarker : marker ∈ x.lineComments)
    {u v v' : List Char}
    (h : x.lineComments.any (·.toList.isPrefixOf (u ++ (marker.toList ++ v'))) = true) :
    x.lineComments.any (·.toList.isPrefixOf (u ++ (marker.toList ++ v))) = true := by
  obtain ⟨mark, hmark, hstarts⟩ := List.any_eq_true.1 h
  rw [List.any_eq_true]
  cases u with
  | nil => exact ⟨marker, hmarker, List.isPrefixOf_iff_prefix.2 (List.prefix_append _ _)⟩
  | cons d u =>
    obtain ⟨c, m, hm, _⟩ := hx.marker_eq hmarker
    refine ⟨mark, hmark, List.isPrefixOf_iff_prefix.2 ?_⟩
    have hlength : mark.toList.length ≤ 2 := by
      rcases hx.lineComments mark hmark with rfl | rfl <;> decide
    rw [List.isPrefixOf_iff_prefix, hm] at hstarts
    rw [hm]
    have hshort : mark.toList <+: d :: u ++ [c] := by
      refine List.prefix_of_prefix_length_le hstarts ⟨m ++ v', by simp⟩ ?_
      simp only [List.length_append, List.length_cons, List.length_nil]
      omega
    exact hshort.trans ⟨m ++ v, by simp⟩

/-- To look for a line comment agrees if the text of a later one is replaced. -/
theorem agrees_lineCommentLength? (hone : x.OneLine) (hx : x.Plain) {marker : String}
    (hmarker : marker ∈ x.lineComments) (v v' : List Char) :
    Agrees (marker.toList ++ v) (marker.toList ++ v') x.lineCommentLength? := by
  intro u
  by_cases hbreak : '\n' ∈ u
  · -- the comment before ends before the one that is replaced
    obtain ⟨u, u', rfl, _⟩ := List.eq_append_cons_of_mem hbreak
    rw [List.append_assoc, List.append_assoc, List.cons_append, List.cons_append,
      lineCommentLength?_lineBreak hone, lineCommentLength?_lineBreak hone]
    exact ⟨id, fun _ _ => id⟩
  · unfold lineCommentLength?
    constructor
    · intro hnone
      split at hnone
      · cases hnone
      · rename_i hany
        exact if_neg fun hany' => hany (exists_mark_replaced hx hmarker hany')
    · intro n hn hsome
      obtain ⟨c, m, hm, hcm⟩ := hx.marker_eq hmarker
      have hc : c ≠ '\n' := by rcases hcm with ⟨rfl, _⟩ | ⟨rfl, _⟩ <;> decide
      -- a line comment that has begun goes on into the other
      have hall : ∀ d ∈ u ++ [c], (d != '\n') = true := by
        intro d hd
        rw [bne_iff_ne]
        rintro rfl
        rcases List.mem_append.1 hd with hd | hd
        · exact hbreak hd
        · exact hc (List.mem_singleton.1 hd).symm
      split at hsome
      · obtain rfl := Option.some.inj hsome
        rw [hm, show u ++ (c :: m ++ v) = (u ++ [c]) ++ (m ++ v) by simp,
          List.takeWhile_append_of_pos hall] at hn
        simp only [List.length_append, List.length_singleton] at hn
        omega
      · cases hsome

/-! ## Lexemes -/

/-- Only the rules for comments make comments. -/
theorem classify_comment (x : Lexicon) (cs : List Char) (h : (x.classify cs).1 = .comment) :
    x.commentLength? cs = some (x.classify cs).2 := by
  unfold classify at h ⊢
  split at h
  · cases h
  · split at h
    · cases h
    · split at h
      · cases h
      · split at h
        · assumption
        · split at h <;> cases h

/-- A comment with the marker of a line comment goes on to the end of its line. -/
theorem lineComment_lexeme (hx : x.Plain) {marker : String} (hmarker : marker ∈ x.lineComments)
    {cs body : List Char} {l : Lexeme} {after : List Lexeme} (h : x.lexemes cs = l :: after)
    (hl : l.kind = .comment) (hbody : l.text = marker.toList ++ body) :
    '\n' ∉ l.text ∧ AtLineEnd (spelling after) := by
  cases cs with
  | nil => cases h
  | cons d cs =>
    rw [lexemes_cons] at h
    obtain ⟨rfl, hafter⟩ := List.cons.inj h
    have hlength := classify_comment x (d :: cs) hl
    dsimp only at hbody ⊢
    generalize hn : (x.classify (d :: cs)).2 = n at hafter hbody hlength ⊢
    have hspelled := spelling_lexemes x (cs.drop (n - 1))
    rw [hafter] at hspelled
    obtain ⟨c, m, hm, hcm⟩ := hx.marker_eq hmarker
    -- the text begins with the marker, so no block comment begins there
    have hcut : d :: cs = marker.toList ++ (body ++ cs.drop (n - 1)) := by
      rw [← List.append_assoc, ← hbody, List.cons_append, List.take_append_drop]
    have hline : x.lineCommentLength? (d :: cs) = some n := by
      rw [commentLength?, hcut, hm, List.cons_append, blockCommentLength?_marker hcm] at hlength
      rw [hcut, hm]
      exact hlength
    rw [hcut, lineCommentLength?_marker hmarker, ← hcut] at hline
    have hcount := Option.some.inj hline
    have hd : (d != '\n') = true := by
      rw [hm, List.cons_append] at hcut
      obtain ⟨rfl, _⟩ := List.cons.inj hcut
      rcases hcm with ⟨rfl, _⟩ | ⟨rfl, _⟩ <;> decide
    -- so it takes the rest of its line
    obtain ⟨w, rest, rfl, hw, hrest⟩ := exists_atLineEnd cs
    rw [List.takeWhile_cons, if_pos hd, takeWhile_atLineEnd hw hrest, List.length_cons] at hcount
    rw [← hcount, Nat.add_sub_cancel] at hspelled ⊢
    rw [List.drop_left] at hspelled
    rw [List.take_left, hspelled]
    refine ⟨fun hmem => ?_, hrest⟩
    rcases List.mem_cons.1 hmem with rfl | hmem
    · cases hd
    · exact hw hmem

/-- The marker of a line comment and any text without line breaks after it make a comment. -/
theorem classify_lineComment (hx : x.Plain) {marker : String} (hmarker : marker ∈ x.lineComments)
    (hw : '\n' ∉ marker.toList ++ w) (hrest : AtLineEnd rest) :
    x.classify (marker.toList ++ w ++ rest) = (.comment, (marker.toList ++ w).length) := by
  have hline := lineCommentLength?_marker hmarker (w ++ rest)
  rw [← List.append_assoc, takeWhile_atLineEnd hw hrest] at hline
  obtain ⟨c, m, hm, hcm⟩ := hx.marker_eq hmarker
  have hblock : x.blockCommentLength? (marker.toList ++ w ++ rest) = none := by
    rw [List.append_assoc, hm]
    exact blockCommentLength?_marker hcm (w ++ rest)
  have hcomment : x.commentLength? (marker.toList ++ w ++ rest) = some (marker.toList ++ w).length := by
    rw [commentLength?, hblock]
    exact hline
  have hfirst : newlineLength? (marker.toList ++ w ++ rest) = none ∧
      continuationLength? (marker.toList ++ w ++ rest) = none ∧
        blankLength (marker.toList ++ w ++ rest) = 0 := by
    rw [hm]
    rcases hcm with ⟨rfl, rfl⟩ | ⟨rfl, rfl⟩
    · exact ⟨rfl, rfl, rfl⟩
    · exact ⟨rfl, rfl, rfl⟩
  rw [classify, hfirst.1, hfirst.2.1, hfirst.2.2, hcomment]

/-- A lexeme that ends before a comment stays as it is when the comment has another text. -/
theorem classify_commentText (hone : x.OneLine) (hx : x.Plain) {marker : String}
    (hmarker : marker ∈ x.lineComments) {u : List Char} (hu : u ≠ []) (hw' : Quiet w')
    (hrest : AtLineEnd rest)
    (h : (x.classify (u ++ (marker.toList ++ (w ++ rest)))).2 ≤ u.length) :
    x.classify (u ++ (marker.toList ++ (w' ++ rest))) =
      x.classify (u ++ (marker.toList ++ (w ++ rest))) := by
  have hline := agrees_lineCommentLength? hone hx hmarker (w ++ rest) (w' ++ rest)
  have hsymbols := hx.symbols marker hmarker
  obtain ⟨c, m, hm, hcm⟩ := hx.marker_eq hmarker
  have hc : c = '/' ∨ c = '#' := hcm.imp And.left And.left
  have hstop : (isBlank c && c != '\n') = false ∧ c ≠ '\r' ∧ c ≠ '\\' ∧ c ≠ '*' := by
    rcases hc with rfl | rfl <;> decide
  obtain ⟨hblank, hreturn, hbackslash, hstar⟩ := hstop
  have hquiet : Quiet (m ++ w') := by
    rcases hcm with ⟨_, rfl⟩ | ⟨_, rfl⟩
    · exact hw'.cons (.inl rfl)
    · exact hw'
  have hopen := blockCommentLength?_marker (x := x) hcm (w' ++ rest)
  -- no symbol goes on with the first letter of the marker
  have hsymbols : ∀ symbol ∈ x.symbols, c ∉ symbol.toList.tail := by
    intro symbol hsymbol hmem
    have hnot := List.all_eq_true.1 (hsymbols symbol hsymbol) c hmem
    rw [decide_eq_true_eq, hm] at hnot
    exact hnot List.mem_cons_self
  have htext (w : List Char) : marker.toList ++ (w ++ rest) = c :: (m ++ w ++ rest) := by
    rw [hm, List.cons_append, List.append_assoc]
  rw [htext] at h
  rw [htext, htext]
  rw [htext, htext] at hline
  rw [← List.append_assoc] at hopen
  have hblock : Agrees (c :: (m ++ w ++ rest)) (c :: (m ++ w' ++ rest)) x.blockCommentLength? :=
    agrees_blockCommentLength? hstar hopen
      (endOfFrom_replaced (by decide) (by decide) hquiet.blockEnd hrest)
  have hstring : Agrees (c :: (m ++ w ++ rest)) (c :: (m ++ w' ++ rest)) x.stringLength? :=
    agrees_stringLength? fun quote hquote =>
      unfinished_comment hc hquiet (hx.delimiters quote hquote) hrest
  apply classify_agrees _ _ _ (hblock.orElse hline) hstring _ h
  · exact newlineLength?_congr hreturn u _ _
  · exact continuationLength?_congr hreturn hbackslash u _ _
  · rw [blankLength_stop hblank, blankLength_stop hblank]
  · rw [codeLength_stop (stops_marker hc) hsymbols hu, codeLength_stop (stops_marker hc) hsymbols hu]

/-- The text of a line comment can be replaced by a quiet one; all other lexemes stay as they are. -/
theorem lexemes_comment (hone : x.OneLine) (hx : x.Plain) {marker : String}
    (hmarker : marker ∈ x.lineComments) {cs : List Char} {before after : List Lexeme} {l : Lexeme}
    (h : x.lexemes cs = before ++ l :: after) (hl : l.kind = .comment)
    (hw : l.text = marker.toList ++ w) (hw' : Quiet w') :
    x.lexemes (spelling before ++ (marker.toList ++ w' ++ spelling after)) =
      before ++ ⟨.comment, marker.toList ++ w'⟩ :: after := by
  obtain ⟨hbreak, hrest⟩ := lineComment_lexeme hx hmarker (lexemes_spelling h) hl hw
  have hne : marker.toList ≠ [] := by
    rcases hx.lineComments marker hmarker with rfl | rfl <;> decide
  have hbreak' : '\n' ∉ marker.toList ++ w' := by
    rw [hw] at hbreak
    exact fun h => (List.mem_append.1 h).elim (fun h => hbreak (List.mem_append_left w h)) hw'.lineBreak
  have hspelled : spelling (l :: after) = marker.toList ++ (w ++ spelling after) := by
    rw [spelling_cons, hw, List.append_assoc]
  rw [lexemes_replaced h _ _,
    lexemes_append (by simp [hne]) (classify_lineComment hx hmarker hbreak' hrest),
    lexemes_spelling_after h]
  · rw [hspelled]
    simp [hne]
  · intro u hu hlength
    rw [hspelled] at hlength ⊢
    rw [List.append_assoc]
    exact classify_commentText hone hx hmarker hu hw' hrest hlength

/-- After a line comment comes a line break, or nothing. -/
theorem lexemes_atLineEnd (x : Lexicon) (hrest : AtLineEnd rest) :
    x.lexemes rest = [] ∨ ∃ ls, x.lexemes rest = ⟨.newline, ['\n']⟩ :: ls := by
  rcases hrest with rfl | ⟨v, rfl⟩
  · exact .inl rfl
  · exact .inr ⟨x.lexemes v, lexemes_lineFeed x v⟩

end Lexicon

/-! ## Tokens -/

open Lexicon

/-- After a line break the column before it does not matter. -/
theorem Position.after_lineBreak {p p' : Position} (h : p'.line = p.line) :
    p'.after ['\n'] = p.after ['\n'] := by
  show p'.next '\n' = p.next '\n'
  rw [Position.next, Position.next, if_pos rfl, if_pos rfl, h]

/-- Within a line the column does not matter to the tokens after the next line break. -/
theorem placedFrom_lineBreak {p p' : Position} (h : p'.line = p.line) (ls : List Lexeme) :
    placedFrom p' (⟨.newline, ['\n']⟩ :: ls) =
      (placedFrom p (⟨.newline, ['\n']⟩ :: ls)).modifyHead ({ · with column := p'.column }) := by
  rw [placedFrom, placedFrom, Position.after_lineBreak h, List.modifyHead_cons, Lexeme.token,
    Lexeme.token, h]

/-- The text of a line comment can be replaced by a quiet one: but for the comment only the column of the
line break after it changes. -/
theorem tokens_comment {x : Lexicon} (hone : x.OneLine) (hx : x.Plain) {source : String}
    {before after : List Token} {t : Token} (h : x.tokens source = before ++ t :: after)
    (ht : t.kind = .comment) {marker body text : String} (hmarker : marker ∈ x.lineComments)
    (hbody : t.text = marker ++ body) (htext : Quiet text.toList) :
    lineBreaks t.text = 0 ∧ lineBreaks (marker ++ text) = 0 ∧
      (∀ u ∈ after.head?, u.EndsLine ∧ u.line = t.line) ∧
      ∃ column : Int, x.tokens (spelled before ++ marker ++ text ++ spelled after) =
        before ++ { t with text := marker ++ text } :: after.modifyHead ({ · with column }) := by
  rw [Lexicon.tokens, placed_eq_placedFrom] at h
  obtain ⟨ms, l, ns, hlexemes, rfl, rfl, rfl⟩ := placedFrom_eq_append_cons h
  generalize hp : ({} : Position).after (spelling ms) = p at hbody ⊢
  have hkind : l.kind = .comment := ht
  have hw : l.text = marker.toList ++ body.toList := by
    rw [← String.toList_append, ← hbody, Lexeme.token, String.toList_ofList]
  obtain ⟨hbreak, hrest⟩ := lineComment_lexeme hx hmarker (lexemes_spelling hlexemes) hkind hw
  have hcount : l.text.count '\n' = 0 := List.count_eq_zero.2 hbreak
  have hcount' : (marker.toList ++ text.toList).count '\n' = 0 := by
    rw [hw, List.count_append] at hcount
    rw [List.count_append, List.count_eq_zero.2 htext.lineBreak]
    omega
  have hline : (p.after l.text).line = p.line := by
    rw [Position.line_after, hcount, Nat.add_zero]
  have hline' : (p.after (marker.toList ++ text.toList)).line = p.line := by
    rw [Position.line_after, hcount', Nat.add_zero]
  -- a comment goes on to the end of its line
  have hnext : ns = [] ∨ ∃ ls, ns = ⟨.newline, ['\n']⟩ :: ls := by
    have hns := lexemes_atLineEnd x hrest
    rwa [lexemes_spelling_after hlexemes] at hns
  refine ⟨?_, ?_, ?_, (p.after (marker.toList ++ text.toList)).column, ?_⟩
  · rw [lineBreaks, Lexeme.token, String.toList_ofList, hcount]
  · rw [lineBreaks, String.toList_append, hcount']
  · rcases hnext with rfl | ⟨ls, rfl⟩
    · intro u hu
      cases hu
    · intro u hu
      obtain rfl := Option.some.inj hu
      exact ⟨⟨rfl, rfl⟩, congrArg Int.ofNat hline⟩
  · have hsource : (spelled (placedFrom {} ms) ++ marker ++ text ++
        spelled (placedFrom (p.after l.text) ns)).toList =
          spelling ms ++ (marker.toList ++ text.toList ++ spelling ns) := by
      simp only [String.toList_append, spelled_placedFrom, List.append_assoc]
    -- of what follows only the line break is in another column
    have hafter : placedFrom (p.after (marker.toList ++ text.toList)) ns =
        (placedFrom (p.after l.text) ns).modifyHead
          ({ · with column := (p.after (marker.toList ++ text.toList)).column }) := by
      rcases hnext with rfl | ⟨ls, rfl⟩
      · rfl
      · exact placedFrom_lineBreak (hline'.trans hline.symm) ls
    rw [Lexicon.tokens, placed_eq_placedFrom, hsource,
      lexemes_comment hone hx hmarker hlexemes hkind hw htext, placedFrom_append, hp, placedFrom,
      hafter]
    simp [Lexeme.token, String.ofList_append, hkind]

end Cyclomatic
