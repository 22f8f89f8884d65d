import Mathlib
import Cyclomatic.Proofs.Lexicon.OneLine

/-!
# What rules see ahead

Comments and strings can go on over any distance, so whether a rule takes something at a place can depend
on all of the text after it. For two texts that begin alike and then differ, a rule agrees (`Agrees`) if
what it takes before they differ is the same in both, and if it takes nothing in the one, it takes nothing
in the other. A comment or a string that is left open remains so (`Unfinished`), and then all rules agree
and so do the lexemes (`Lexicon.classify_agrees`).
-/

namespace Cyclomatic

open Text

/-! ## Agreement -/

variable {rest rest' : List Char}

/-- A rule agrees on two ways in which texts go on, if what it takes before is the same in both. -/
def Agrees (rest rest' : List Char) (rule : List Char → Option Nat) : Prop :=
  ∀ u, (rule (u ++ rest) = none → rule (u ++ rest') = none) ∧
    ∀ n ≤ u.length, rule (u ++ rest) = some n → rule (u ++ rest') = some n

/-- A rule that does not see the difference agrees. -/
theorem agrees_of_eq {rule : List Char → Option Nat} (h : ∀ u, rule (u ++ rest') = rule (u ++ rest)) :
    Agrees rest rest' rule := by
  intro u
  rw [h u]
  exact ⟨id, fun _ _ => id⟩

/-- The first of two rules that applies agrees if both do. -/
theorem Agrees.orElse {f g : List Char → Option Nat} (hf : Agrees rest rest' f)
    (hg : Agrees rest rest' g) : Agrees rest rest' fun cs => f cs <|> g cs := by
  intro u
  obtain ⟨hnone, hsome⟩ := hf u
  dsimp only
  cases hcs : f (u ++ rest) with
  | none =>
    rw [hnone hcs]
    exact hg u
  | some k =>
    refine ⟨fun h => (by cases h), fun n hn hk => ?_⟩
    obtain rfl := Option.some.inj hk
    rw [hsome k hn hcs]
    rfl

/-- The first of some rules that applies agrees if all do. -/
theorem agrees_findSome? {α : Type} {rule : α → List Char → Option Nat} {xs : List α}
    (h : ∀ x ∈ xs, Agrees rest rest' (rule x)) :
    Agrees rest rest' fun cs => xs.findSome? (rule · cs) := by
  induction xs with
  | nil => exact agrees_of_eq fun _ => rfl
  | cons x xs ih =>
    have hrest := (h x List.mem_cons_self).orElse (ih fun y hy => h y (List.mem_cons_of_mem x hy))
    have hcons : (fun cs => (x :: xs).findSome? (rule · cs)) =
        fun cs => rule x cs <|> xs.findSome? (rule · cs) := by
      funext cs
      rw [List.findSome?_cons]
      cases rule x cs <;> rfl
    rw [hcons]
    exact hrest

/-! ## Line breaks and continuations -/

variable {c : Char} {v v' : List Char}

theorem newlineLength?_congr (hc : c ≠ '\r') (u v v' : List Char) :
    newlineLength? (u ++ c :: v) = newlineLength? (u ++ c :: v') := by
  rcases u with _ | ⟨d, _ | ⟨e, u⟩⟩
  · by_cases hbreak : c = '\n'
    · subst hbreak
      rfl
    · simp [newlineLength?, hbreak, hc]
  · by_cases hbreak : d = '\n'
    · subst hbreak
      rfl
    · by_cases hreturn : d = '\r' ∧ c = '\n'
      · obtain ⟨rfl, rfl⟩ := hreturn
        rfl
      · have hnone (w : List Char) : newlineLength? (d :: c :: w) = none := by
          unfold newlineLength?
          split
          · rename_i heq
            exact absurd (List.cons.inj heq).1 hbreak
          · rename_i heq
            obtain ⟨hd, heq⟩ := List.cons.inj heq
            exact absurd ⟨hd, (List.cons.inj heq).1⟩ hreturn
          · rfl
        rw [List.singleton_append, List.singleton_append, hnone, hnone]
  · simp only [List.cons_append]
    unfold newlineLength?
    split <;> simp_all

theorem continuationLength?_congr (hc : c ≠ '\r') (hc' : c ≠ '\\') (u v v' : List Char) :
    continuationLength? (u ++ c :: v) = continuationLength? (u ++ c :: v') := by
  cases u with
  | nil => simp [continuationLength?, hc']
  | cons d u =>
    by_cases hd : d = '\\'
    · subst hd
      simp only [List.cons_append, continuationLength?]
      rw [newlineLength?_congr hc u v v']
    · simp [continuationLength?, hd]

/-! ## Marks -/

variable {mark : List Char}

/-- How far away the end of a mark is does not matter to whether there is one. -/
theorem endOfFrom_eq_none_iff (mark : List Char) (n m : Nat) (cs : List Char) :
    endOfFrom mark n cs = none ↔ endOfFrom mark m cs = none := by
  induction cs generalizing n m with
  | nil => simp [endOfFrom]
  | cons c cs ih =>
    rw [endOfFrom, endOfFrom]
    split
    · simp
    · exact ih (n + 1) (m + 1)

theorem le_of_endOfFrom {n k : Nat} {cs : List Char} (h : endOfFrom mark n cs = some k) : n ≤ k := by
  induction cs generalizing n with
  | nil => cases h
  | cons c cs ih =>
    rw [endOfFrom] at h
    split at h
    · obtain rfl := Option.some.inj h
      omega
    · have := ih h
      omega

/-- Whether a mark begins a text is settled where only its last character can stand. -/
theorem isPrefixOf_last (hmark : c ∉ mark.dropLast) (u v : List Char) :
    mark.isPrefixOf (u ++ c :: v) = mark.isPrefixOf (u ++ [c]) := by
  induction u generalizing mark with
  | nil =>
    rcases mark with _ | ⟨m, _ | ⟨m', mark⟩⟩
    · rfl
    · simp [List.isPrefixOf]
    · have hm : m ≠ c := fun h => hmark (h ▸ List.mem_cons_self)
      simp [List.isPrefixOf, hm]
  | cons d u ih =>
    rcases mark with _ | ⟨m, _ | ⟨m', mark⟩⟩
    · rfl
    · simp [List.isPrefixOf]
    · have hrest : c ∉ (m' :: mark).dropLast := fun h => hmark (List.mem_cons_of_mem m h)
      simp only [List.cons_append, List.isPrefixOf_cons_cons, ih hrest]

/-- A mark ends at a character at the latest if only its last one can be the same, or in the text after. -/
theorem endOfFrom_last (hmark : c ∉ mark.dropLast) (n : Nat) (u v : List Char) :
    endOfFrom mark n (u ++ c :: v) =
      (endOfFrom mark n (u ++ [c])).or (endOfFrom mark (n + u.length + 1) v) := by
  induction u generalizing n with
  | nil =>
    have hfirst := isPrefixOf_last hmark [] v
    rw [List.nil_append, List.nil_append] at hfirst
    rw [List.nil_append, List.nil_append, endOfFrom, endOfFrom, hfirst]
    split <;> rfl
  | cons d u ih =>
    have hfirst := isPrefixOf_last hmark (d :: u) v
    rw [List.cons_append, List.cons_append] at hfirst
    rw [List.cons_append, List.cons_append, endOfFrom, endOfFrom, hfirst]
    split
    · rfl
    · rw [ih (n + 1), List.length_cons]
      congr 2
      omega

/-- To look for a mark agrees, if it is not found in what comes after. -/
theorem agrees_endOfFrom (hmark : c ∉ mark.dropLast)
    (hv : endOfFrom mark 0 v = none → endOfFrom mark 0 v' = none) (n : Nat) (u : List Char) :
    (endOfFrom mark n (u ++ c :: v) = none → endOfFrom mark n (u ++ c :: v') = none) ∧
      ∀ k ≤ n + u.length, endOfFrom mark n (u ++ c :: v) = some k →
        endOfFrom mark n (u ++ c :: v') = some k := by
  rw [endOfFrom_last hmark n u v, endOfFrom_last hmark n u v']
  cases hu : endOfFrom mark n (u ++ [c]) with
  | some k => exact ⟨by simp, fun j _ hj => hj⟩
  | none =>
    rw [Option.none_or, Option.none_or]
    constructor
    · rw [endOfFrom_eq_none_iff mark _ 0 v, endOfFrom_eq_none_iff mark _ 0 v']
      exact hv
    · intro k hk h
      have := le_of_endOfFrom h
      omega

/-! ## Delimiters -/

variable {q : Char} {multiline : Bool}

/-- Where the text begins does not matter to whether it has a closing delimiter. -/
theorem closingFrom_eq_none_iff (q : Char) (multiline : Bool) (n m : Nat) (cs : List Char) :
    closingFrom q multiline n cs = none ↔ closingFrom q multiline m cs = none := by
  fun_induction closingFrom q multiline n cs generalizing m with
  | case1 => simp [closingFrom]
  | case2 n => simp [closingFrom]
  | case3 n c hc => simp [closingFrom, hc]
  | case4 n d cs => simp [closingFrom]
  | case5 n d cs hq ih =>
    rw [closingFrom, if_neg hq, if_pos rfl]
    exact ih (m + 2)
  | case6 n c d cs hq hbackslash hbreak =>
    rw [closingFrom, if_neg hq, if_neg hbackslash, if_pos hbreak]
  | case7 n c d cs hq hbackslash hbreak ih =>
    rw [closingFrom, if_neg hq, if_neg hbackslash, if_neg hbreak]
    exact ih (m + 1)

theorem lt_of_closingFrom {n k : Nat} {cs : List Char} (h : closingFrom q multiline n cs = some k) :
    n < k := by
  fun_induction closingFrom q multiline n cs with
  | case1 => cases h
  | case2 n => simp_all; omega
  | case3 n c hc => cases h
  | case4 n d cs => simp_all; omega
  | case5 n d cs hq ih =>
    have := ih h
    omega
  | case6 n c d cs hq hbackslash hbreak => cases h
  | case7 n c d cs hq hbackslash hbreak ih =>
    have := ih h
    omega

theorem closingFrom_cons_cons (q : Char) (multiline : Bool) (n : Nat) (c d : Char) (cs : List Char) :
    closingFrom q multiline n (c :: d :: cs) =
      if c = q then some (n + 1)
      else if c = '\\' then closingFrom q multiline (n + 2) cs
      else if c = '\n' ∧ !multiline then none
      else closingFrom q multiline (n + 1) (d :: cs) := by
  rw [closingFrom]

theorem closingFrom_self (q : Char) (multiline : Bool) (n : Nat) (cs : List Char) :
    closingFrom q multiline n (q :: cs) = some (n + 1) := by
  cases cs with
  | nil => rw [closingFrom, if_pos rfl]
  | cons d cs => rw [closingFrom, if_pos rfl]

/-- A character that ends nothing is passed over. -/
theorem closingFrom_pass {c : Char} (hq : c ≠ q) (hbackslash : c ≠ '\\')
    (hbreak : c = '\n' → multiline = true) (n : Nat) (cs : List Char) :
    closingFrom q multiline n (c :: cs) = closingFrom q multiline (n + 1) cs := by
  cases cs with
  | nil => rw [closingFrom, closingFrom, if_neg hq]
  | cons d cs =>
    have hnot : ¬(c = '\n' ∧ (!multiline) = true) := by
      rintro ⟨hc, hm⟩
      rw [hbreak hc] at hm
      cases hm
    rw [closingFrom, if_neg hq, if_neg hbackslash, if_neg hnot]

/-- A line break that no backslash takes ends a text on one line, and is passed over in others. -/
theorem closingFrom_break (hq : q ≠ '\n') (multiline : Bool) (n : Nat) (v : List Char) :
    closingFrom q multiline n ('\n' :: v) =
      if multiline then closingFrom q multiline (n + 1) v else none := by
  cases multiline with
  | true => exact closingFrom_pass hq.symm (by decide) (fun _ => rfl) n v
  | false => cases v <;> simp [closingFrom, hq.symm]

/-- What is left open with one text after it remains so with another, also if a backslash takes the first
character of it. -/
structure Unfinished (q c : Char) (v v' : List Char) : Prop where
  ne : c ≠ q
  closing : ∀ multiline, closingFrom q multiline 0 (c :: v) = none →
    closingFrom q multiline 0 (c :: v') = none
  escaped : ∀ multiline, closingFrom q multiline 0 v = none → closingFrom q multiline 0 v' = none
  tripled : endOfFrom [q, q, q] 0 v = none → endOfFrom [q, q, q] 0 v' = none

/-- To look for a closing delimiter agrees. -/
theorem agrees_closingFrom (h : Unfinished q c v v') (multiline : Bool) :
    ∀ (n : Nat) (u : List Char),
      (closingFrom q multiline n (u ++ c :: v) = none →
          closingFrom q multiline n (u ++ c :: v') = none) ∧
        ∀ k ≤ n + u.length, closingFrom q multiline n (u ++ c :: v) = some k →
          closingFrom q multiline n (u ++ c :: v') = some k
  | n, [] => by
    refine ⟨fun hnone => ?_, fun k hk hsome => ?_⟩
    · rw [List.nil_append, closingFrom_eq_none_iff q multiline n 0] at hnone ⊢
      exact h.closing multiline hnone
    · have := lt_of_closingFrom hsome
      simp only [List.length_nil] at hk
      omega
  | n, [d] => by
    rw [List.singleton_append, List.singleton_append, closingFrom_cons_cons q multiline n d c v,
      closingFrom_cons_cons q multiline n d c v']
    split
    · exact ⟨id, fun _ _ hk => hk⟩
    · split
      · -- the backslash takes the first character of what comes after
        refine ⟨fun hnone => ?_, fun k hk hsome => ?_⟩
        · rw [closingFrom_eq_none_iff q multiline _ 0] at hnone ⊢
          exact h.escaped multiline hnone
        · have := lt_of_closingFrom hsome
          simp only [List.length_singleton] at hk
          omega
      · split
        · exact ⟨id, fun _ _ hk => hk⟩
        · exact agrees_closingFrom h multiline (n + 1) []
  | n, d :: e :: u => by
    simp only [List.cons_append, closingFrom, List.length_cons]
    split
    · exact ⟨id, fun _ _ hk => hk⟩
    · split
      · have hrest := agrees_closingFrom h multiline (n + 2) u
        rw [show n + (u.length + 1 + 1) = n + 2 + u.length by omega]
        exact hrest
      · split
        · exact ⟨id, fun _ _ hk => hk⟩
        · have hrest := agrees_closingFrom h multiline (n + 1) (e :: u)
          rw [show n + (u.length + 1 + 1) = n + 1 + (e :: u).length by rw [List.length_cons]; omega]
          exact hrest

/-- String literals of every form are found by a rule that agrees. -/
theorem agrees_quote {quote : Quote} (h : Unfinished quote.delimiter c v v') :
    Agrees (c :: v) (c :: v') quote.length? := by
  intro u
  have hfirst {rule : List Char → Option Nat} {multiline : Bool}
      (hrule : ∀ d cs, rule (d :: cs) =
        if d = quote.delimiter then closingFrom quote.delimiter multiline 1 cs else none) :
      (rule (u ++ c :: v) = none → rule (u ++ c :: v') = none) ∧
        ∀ n ≤ u.length, rule (u ++ c :: v) = some n → rule (u ++ c :: v') = some n := by
    cases u with
    | nil =>
      rw [List.nil_append, List.nil_append, hrule, hrule, if_neg h.ne, if_neg h.ne]
      exact ⟨id, fun _ _ => id⟩
    | cons d u =>
      rw [List.cons_append, List.cons_append, hrule, hrule]
      split
      · rw [List.length_cons, Nat.add_comm]
        exact agrees_closingFrom h multiline 1 u
      · exact ⟨id, fun _ _ => id⟩
  cases quote with
  | onLine q => exact hfirst fun _ _ => rfl
  | acrossLines q => exact hfirst fun _ _ => rfl
  | tripled q =>
    have hmark : c ∉ [q, q, q] := by
      have hne : c ≠ q := h.ne
      simp [hne]
    simp only [Quote.length?, isPrefixOf_stop hmark]
    split
    · rename_i hprefix
      have hlength := length_le_of_isPrefixOf hprefix
      simp only [List.length_cons, List.length_nil] at hlength
      rw [List.drop_append_of_le_length hlength, List.drop_append_of_le_length hlength]
      have hagrees := agrees_endOfFrom (fun hc => hmark (List.mem_of_mem_dropLast hc)) h.tripled 3
        (u.drop 3)
      rw [List.length_drop, Nat.add_sub_cancel' hlength] at hagrees
      exact hagrees
    · exact ⟨id, fun _ _ => id⟩

/-! ## Lexemes -/

namespace Lexicon

variable {x : Lexicon}

theorem agrees_stringLength? (h : ∀ quote ∈ x.quotes, Unfinished quote.delimiter c v v') :
    Agrees (c :: v) (c :: v') x.stringLength? :=
  agrees_findSome? fun quote hquote => agrees_quote (h quote hquote)

/-- Block comments are found by a rule that agrees. -/
theorem agrees_blockCommentLength? (hc : c ≠ '*') (hopen : x.blockCommentLength? (c :: v') = none)
    (hv : endOfFrom ['*', '/'] 0 v = none → endOfFrom ['*', '/'] 0 v' = none) :
    Agrees (c :: v) (c :: v') x.blockCommentLength? := by
  have hnone (d e : Char) (w : List Char) (hmark : ¬(d = '/' ∧ e = '*')) :
      x.blockCommentLength? (d :: e :: w) = none := by
    unfold blockCommentLength?
    split
    · rename_i heq
      obtain ⟨hd, heq⟩ := List.cons.inj heq
      exact absurd ⟨hd, (List.cons.inj heq).1⟩ hmark
    · rfl
  intro u
  rcases u with _ | ⟨d, _ | ⟨e, u⟩⟩
  · refine ⟨fun _ => hopen, fun n hn hsome => ?_⟩
    obtain rfl : n = 0 := Nat.le_zero.1 hn
    unfold blockCommentLength? at hsome
    split at hsome
    · split at hsome
      · have := le_of_endOfFrom hsome
        omega
      · cases hsome
    · cases hsome
  · have hmark : ¬(d = '/' ∧ c = '*') := fun h => hc h.2
    rw [List.singleton_append, List.singleton_append, hnone d c v hmark, hnone d c v' hmark]
    exact ⟨id, fun _ _ => id⟩
  · by_cases hmark : d = '/' ∧ e = '*'
    · obtain ⟨rfl, rfl⟩ := hmark
      have hlast : c ∉ ['*', '/'].dropLast := by simp [hc]
      simp only [List.cons_append, blockCommentLength?, List.length_cons]
      split
      · rw [show u.length + 1 + 1 = 2 + u.length by omega]
        exact agrees_endOfFrom hlast hv 2 u
      · exact ⟨id, fun _ _ => id⟩
    · rw [List.cons_append, List.cons_append, List.cons_append, List.cons_append,
        hnone d e _ hmark, hnone d e _ hmark]
      exact ⟨id, fun _ _ => id⟩

/-- A lexeme that ends before two texts differ is the same in both. -/
theorem classify_agrees {u : List Char}
    (hnewline : newlineLength? (u ++ rest') = newlineLength? (u ++ rest))
    (hcontinuation : continuationLength? (u ++ rest') = continuationLength? (u ++ rest))
    (hblank : blankLength (u ++ rest') = blankLength (u ++ rest))
    (hcomment : Agrees rest rest' x.commentLength?) (hstring : Agrees rest rest' x.stringLength?)
    (hcode : x.codeLength (u ++ rest') = x.codeLength (u ++ rest))
    (h : (x.classify (u ++ rest)).2 ≤ u.length) :
    x.classify (u ++ rest') = x.classify (u ++ rest) := by
  unfold classify at h ⊢
  rw [hnewline, hcontinuation, hblank, hcode]
  cases hn : newlineLength? (u ++ rest) with
  | some n => rfl
  | none =>
    cases hk : continuationLength? (u ++ rest) with
    | some n => rfl
    | none =>
      rw [hn, hk] at h
      dsimp only at h ⊢
      cases hb : blankLength (u ++ rest) with
      | succ n => rfl
      | zero =>
        rw [hb] at h
        dsimp only at h ⊢
        cases hc : x.commentLength? (u ++ rest) with
        | some n =>
          rw [hc] at h
          rw [(hcomment u).2 n h hc]
        | none =>
          rw [hc] at h
          rw [(hcomment u).1 hc]
          dsimp only at h ⊢
          cases hs : x.stringLength? (u ++ rest) with
          | some n =>
            rw [hs] at h
            rw [(hstring u).2 n h hs]
          | none => rw [(hstring u).1 hs]

end Lexicon

end Cyclomatic
