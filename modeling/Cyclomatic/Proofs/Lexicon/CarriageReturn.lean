import Mathlib
import Cyclomatic.Proofs.Lexicon.CommentText

/-!
# Carriage returns before line breaks

When every line break of a text gets a carriage return before it (`crlf`), each rule takes what it took
before, with the carriage returns in it, but for two differences. A run of blanks and a line comment take
the carriage return of the line break after them along. And on a line a string literal does not go on after
a line break that a backslash takes, because then the backslash takes the carriage return only: this is left
out here (`Quote.OpensAcross`).
-/

namespace Cyclomatic

open Text

/-! ## Texts -/

/-- A text with a carriage return before every line break. -/
def crlf (cs : List Char) : List Char :=
  cs.flatMap fun c => if c = '\n' then ['\r', '\n'] else [c]

@[simp] theorem crlf_nil : crlf [] = [] := rfl

@[simp] theorem crlf_break (cs : List Char) : crlf ('\n' :: cs) = '\r' :: '\n' :: crlf cs := rfl

theorem crlf_cons {c : Char} (hc : c ≠ '\n') (cs : List Char) : crlf (c :: cs) = c :: crlf cs := by
  rw [crlf, List.flatMap_cons, if_neg hc]
  rfl

theorem crlf_append (a b : List Char) : crlf (a ++ b) = crlf a ++ crlf b := by
  simp [crlf]

/-- On a line there is nothing to be put in. -/
theorem crlf_of_not_mem {cs : List Char} (h : '\n' ∉ cs) : crlf cs = cs := by
  induction cs with
  | nil => rfl
  | cons c cs ih =>
    obtain ⟨hc, hcs⟩ := not_or.1 (fun hm => h (List.mem_cons.2 hm))
    rw [crlf_cons (Ne.symm hc), ih hcs]

theorem count_crlf (cs : List Char) : (crlf cs).count '\n' = cs.count '\n' := by
  induction cs with
  | nil => rfl
  | cons c cs ih =>
    by_cases hc : c = '\n'
    · subst hc
      simp [ih]
    · rw [crlf_cons hc, List.count_cons, List.count_cons, ih]

theorem length_le_length_crlf (cs : List Char) : cs.length ≤ (crlf cs).length := by
  induction cs with
  | nil => exact le_rfl
  | cons c cs ih =>
    by_cases hc : c = '\n'
    · subst hc
      rw [crlf_break, List.length_cons, List.length_cons, List.length_cons]
      omega
    · rw [crlf_cons hc, List.length_cons, List.length_cons]
      omega

/-- The carriage returns do not show in the place after a text. -/
theorem Position.after_crlf (p : Position) (cs : List Char) : p.after (crlf cs) = p.after cs := by
  induction cs generalizing p with
  | nil => rfl
  | cons c cs ih =>
    by_cases hc : c = '\n'
    · subst hc
      rw [crlf_break, after_cons, after_cons, after_cons, ih]
      rfl
    · rw [crlf_cons hc, after_cons, after_cons, ih]

/-! ## Marks and delimiters -/

variable {mark : List Char} {q : Char}

theorem isPrefixOf_crlf (hbreak : '\n' ∉ mark) (hreturn : '\r' ∉ mark) (cs : List Char) :
    mark.isPrefixOf (crlf cs) = mark.isPrefixOf cs := by
  induction cs generalizing mark with
  | nil => rfl
  | cons c cs ih =>
    cases mark with
    | nil => rfl
    | cons m mark =>
      obtain ⟨hm, hbreak⟩ := not_or.1 (fun h => hbreak (List.mem_cons.2 h))
      obtain ⟨hm', hreturn⟩ := not_or.1 (fun h => hreturn (List.mem_cons.2 h))
      by_cases hc : c = '\n'
      · subst hc
        rw [crlf_break, List.isPrefixOf_cons_cons, List.isPrefixOf_cons_cons,
          beq_false_of_ne (Ne.symm hm), beq_false_of_ne (Ne.symm hm'), Bool.false_and, Bool.false_and]
      · rw [crlf_cons hc, List.isPrefixOf_cons_cons, List.isPrefixOf_cons_cons, ih hbreak hreturn]

/-- A mark that a text begins with is found there. -/
theorem endOfFrom_of_isPrefixOf (hne : mark ≠ []) {cs : List Char} (h : mark.isPrefixOf cs = true)
    (n : Nat) : endOfFrom mark n cs = some (n + mark.length) := by
  cases cs with
  | nil =>
    cases mark with
    | nil => exact absurd rfl hne
    | cons d mark => cases h
  | cons c cs => rw [endOfFrom, if_pos h]

/-- A character that begins no mark is passed over, with the carriage return before it. -/
theorem endOfFrom_crlf_cons (hbreak : '\n' ∉ mark) (hreturn : '\r' ∉ mark) (hne : mark ≠ [])
    {c : Char} {cs : List Char} (h : mark.isPrefixOf (c :: cs) = false) (n : Nat) :
    endOfFrom mark n (crlf (c :: cs)) = endOfFrom mark (n + (crlf [c]).length) (crlf cs) := by
  rw [← isPrefixOf_crlf hbreak hreturn] at h
  by_cases hc : c = '\n'
  · subst hc
    -- the line break does not begin the mark, and neither does the carriage return
    have hlater : mark.isPrefixOf ('\n' :: crlf cs) = false := by
      cases mark with
      | nil => exact absurd rfl hne
      | cons d mark =>
        have hd : d ≠ '\n' := fun h => hbreak (h ▸ List.mem_cons_self)
        rw [List.isPrefixOf_cons_cons, beq_false_of_ne hd, Bool.false_and]
    rw [crlf_break] at h ⊢
    rw [endOfFrom, if_neg (by simp [h]), endOfFrom, if_neg (by simp [hlater])]
    rfl
  · rw [crlf_cons hc] at h ⊢
    rw [endOfFrom, if_neg (by simp [h]), crlf_cons hc]
    rfl

/-- A mark is found where it was, or is not found as before. -/
theorem endOfFrom_crlf (hbreak : '\n' ∉ mark) (hreturn : '\r' ∉ mark) (hne : mark ≠ []) (n m : Nat)
    (cs : List Char) :
    (endOfFrom mark n cs = none → endOfFrom mark m (crlf cs) = none) ∧
      ∀ k, endOfFrom mark n cs = some (n + k) →
        endOfFrom mark m (crlf cs) = some (m + (crlf (cs.take k)).length) := by
  induction cs generalizing n m with
  | nil => exact ⟨fun _ => rfl, fun k h => by cases h⟩
  | cons c cs ih =>
    cases hfirst : mark.isPrefixOf (c :: cs) with
    | true =>
      rw [endOfFrom_of_isPrefixOf hne hfirst]
      refine ⟨fun h => (by cases h), fun k h => ?_⟩
      obtain rfl : mark.length = k := Nat.add_left_cancel (Option.some.inj h)
      have htake : (c :: cs).take mark.length = mark :=
        (List.prefix_iff_eq_take.1 (List.isPrefixOf_iff_prefix.1 hfirst)).symm
      rw [htake, crlf_of_not_mem hbreak]
      rw [← isPrefixOf_crlf hbreak hreturn] at hfirst
      exact endOfFrom_of_isPrefixOf hne hfirst m
    | false =>
      obtain ⟨hnone, hsome⟩ := ih (n + 1) (m + (crlf [c]).length)
      rw [endOfFrom, if_neg (by simp [hfirst]), endOfFrom_crlf_cons hbreak hreturn hne hfirst]
      refine ⟨hnone, fun k h => ?_⟩
      obtain ⟨j, rfl⟩ : ∃ j, k = j + 1 := by
        have := le_of_endOfFrom h
        exact ⟨k - 1, by omega⟩
      rw [show n + (j + 1) = n + 1 + j by omega] at h
      have htake : crlf (c :: cs.take j) = crlf [c] ++ crlf (cs.take j) := crlf_append [c] _
      rw [hsome j h, List.take_succ_cons, htake, List.length_append, Nat.add_assoc]

/-- A line break with its carriage return ends a text on one line, and is passed over in others. -/
theorem closingFrom_return (hbreak : q ≠ '\n') (hreturn : q ≠ '\r') (multiline : Bool) (n : Nat)
    (v : List Char) : closingFrom q multiline n ('\r' :: '\n' :: v) =
      if multiline then closingFrom q multiline (n + 2) v else none := by
  rw [closingFrom_pass hreturn.symm (by decide) (fun h => absurd h (by decide)),
    closingFrom_break hbreak]

/-- A backslash takes the next character along. -/
theorem closingFrom_escape (hq : q ≠ '\\') (multiline : Bool) (n : Nat) (c : Char) (cs : List Char) :
    closingFrom q multiline n ('\\' :: c :: cs) = closingFrom q multiline (n + 2) cs := by
  rw [closingFrom, if_neg hq.symm, if_pos rfl]

/-- A delimiter is a printed character that takes no other along. -/
structure Delimits (q : Char) : Prop where
  lineBreak : q ≠ '\n'
  carriageReturn : q ≠ '\r'
  backslash : q ≠ '\\'

/-- A closing delimiter is found where it was, or is not found as before, unless it closes a text on one
line that goes on after a line break. -/
def ClosesAlike (q : Char) (multiline : Bool) (n : Nat) (cs : List Char) : Prop :=
  ∀ m, (closingFrom q multiline n cs = none → closingFrom q multiline m (crlf cs) = none) ∧
    ∀ k, closingFrom q multiline n cs = some (n + k) → (multiline = false → '\n' ∉ cs.take k) →
      closingFrom q multiline m (crlf cs) = some (m + (crlf (cs.take k)).length)

/-- At its delimiter a text closes. -/
theorem closesAlike_self (hq : Delimits q) (multiline : Bool) (n : Nat) (cs : List Char) :
    ClosesAlike q multiline n (q :: cs) := by
  intro m
  rw [crlf_cons hq.lineBreak, closingFrom_self, closingFrom_self]
  refine ⟨fun h => (by cases h), fun k h _ => ?_⟩
  obtain rfl : k = 1 := by
    have := Option.some.inj h
    omega
  rw [List.take_succ_cons, crlf_cons hq.lineBreak]
  rfl

/-- Characters that are passed over, whether with carriage returns or without, do not matter. -/
theorem ClosesAlike.append {multiline : Bool} {n : Nat} {w cs : List Char}
    (h : ClosesAlike q multiline (n + w.length) cs)
    (hpass : closingFrom q multiline n (w ++ cs) = closingFrom q multiline (n + w.length) cs)
    (hpass' : ∀ m, closingFrom q multiline m (crlf w ++ crlf cs) =
      closingFrom q multiline (m + (crlf w).length) (crlf cs)) :
    ClosesAlike q multiline n (w ++ cs) := by
  intro m
  obtain ⟨hnone, hsome⟩ := h (m + (crlf w).length)
  rw [hpass, crlf_append, hpass']
  refine ⟨hnone, fun k hk hline => ?_⟩
  obtain ⟨j, rfl⟩ : ∃ j, k = w.length + j := by
    have := lt_of_closingFrom hk
    exact ⟨k - w.length, by omega⟩
  rw [List.take_length_add_append] at hline ⊢
  rw [← Nat.add_assoc] at hk
  rw [hsome j hk fun hm hmem => hline hm (List.mem_append_right w hmem), crlf_append,
    List.length_append, Nat.add_assoc]

/-- To look for a closing delimiter comes to the same with carriage returns. -/
theorem closingFrom_crlf (hq : Delimits q) (multiline : Bool) (n : Nat) (cs : List Char) :
    ClosesAlike q multiline n cs := by
  fun_induction closingFrom q multiline n cs with
  | case1 => exact fun m => ⟨fun _ => rfl, fun k h => by cases h⟩
  | case2 n => exact closesAlike_self hq multiline n []
  | case3 n c hc =>
    intro m
    rw [closingFrom, if_neg hc]
    refine ⟨fun _ => ?_, fun k h => (by cases h)⟩
    by_cases hbreak : c = '\n'
    · subst hbreak
      rw [crlf_break, closingFrom_return hq.lineBreak hq.carriageReturn]
      split <;> rfl
    · rw [crlf_cons hbreak, crlf_nil, closingFrom, if_neg hc]
  | case4 n d cs => exact closesAlike_self hq multiline n (d :: cs)
  | case5 n d cs hne ih =>
    by_cases hd : d = '\n'
    · subst hd
      -- the backslash takes the carriage return, and then the line break is still there
      have hpass' (m : Nat) : closingFrom q multiline m (crlf ['\\', '\n'] ++ crlf cs) =
          if multiline then closingFrom q multiline (m + 2 + 1) (crlf cs) else none := by
        rw [← closingFrom_break hq.lineBreak, ← closingFrom_escape hq.backslash]
        rfl
      cases multiline with
      | true => exact ih.append (w := ['\\', '\n']) (closingFrom_escape hq.backslash ..) hpass'
      | false =>
        intro m
        refine ⟨fun _ => hpass' m, fun k h hline => ?_⟩
        obtain ⟨j, rfl⟩ : ∃ j, k = j + 2 := by
          rw [closingFrom_escape hq.backslash] at h
          have := lt_of_closingFrom h
          exact ⟨k - 2, by omega⟩
        exact absurd (by simp) (hline rfl)
    · refine ih.append (w := ['\\', d]) (closingFrom_escape hq.backslash ..) fun m => ?_
      rw [crlf_of_not_mem (by simp [Ne.symm hd])]
      exact closingFrom_escape hq.backslash ..
  | case6 n c d cs hne hbackslash hbreak =>
    intro m
    rw [closingFrom, if_neg hne, if_neg hbackslash, if_pos hbreak]
    refine ⟨fun _ => ?_, fun k h => (by cases h)⟩
    obtain ⟨rfl, hm⟩ := hbreak
    rw [crlf_break, closingFrom_return hq.lineBreak hq.carriageReturn, if_neg (by simpa using hm)]
  | case7 n c d cs hne hbackslash hbreak ih =>
    have hline : c = '\n' → multiline = true := fun hc => by simpa [hc] using hbreak
    refine ih.append (w := [c]) (closingFrom_pass hne hbackslash hline n _) fun m => ?_
    by_cases hc : c = '\n'
    · subst hc
      have hpass := closingFrom_return hq.lineBreak hq.carriageReturn multiline m (crlf (d :: cs))
      rwa [if_pos (hline rfl)] at hpass
    · rw [crlf_of_not_mem (by simp [Ne.symm hc])]
      exact closingFrom_pass hne hbackslash hline m _

/-! ## String literals -/

/-- Whether a text begins like a string literal that can go on over several lines. -/
def Quote.OpensAcross : Quote → List Char → Prop
  | .onLine _, _ => False
  | .acrossLines q, cs => [q] <+: cs
  | .tripled q, cs => [q, q, q] <+: cs

instance (quote : Quote) (cs : List Char) : Decidable (quote.OpensAcross cs) :=
  match quote with
  | .onLine _ => inferInstanceAs (Decidable False)
  | .acrossLines q => inferInstanceAs (Decidable ([q] <+: cs))
  | .tripled q => inferInstanceAs (Decidable ([q, q, q] <+: cs))

/-- A text that begins with a character other than a carriage return begins with it without the carriage
returns as well. -/
theorem crlf_eq_cons {c : Char} {cs ds : List Char} (hc : c ≠ '\r') (h : crlf cs = c :: ds) :
    ∃ cs', cs = c :: cs' ∧ ds = crlf cs' := by
  cases cs with
  | nil => cases h
  | cons d cs =>
    by_cases hd : d = '\n'
    · subst hd
      exact absurd (List.cons.inj h).1.symm hc
    · rw [crlf_cons hd] at h
      obtain ⟨rfl, rfl⟩ := List.cons.inj h
      exact ⟨cs, rfl, rfl⟩

/-- A string literal that begins and ends with one delimiter takes what it took, unless it is on one line
and goes on after a line break. -/
theorem delimited_crlf (hq : Delimits q) (rule : List Char → Option Nat) {multiline : Bool}
    (hnil : rule [] = none)
    (hrule : ∀ c cs, rule (c :: cs) = if c = q then closingFrom q multiline 1 cs else none)
    (cs : List Char) :
    (rule cs = none → rule (crlf cs) = none) ∧
      ∀ n, rule cs = some n → (multiline = false → '\n' ∉ cs.take n) →
        2 ≤ (cs.take n).length ∧ rule (crlf cs) = some (crlf (cs.take n)).length := by
  cases cs with
  | nil => exact ⟨fun _ => hnil, fun n h => by rw [hnil] at h; cases h⟩
  | cons c cs =>
    by_cases hc : c = q
    · subst hc
      obtain ⟨hnone, hsome⟩ := closingFrom_crlf hq multiline 1 cs 1
      rw [crlf_cons hq.lineBreak, hrule, hrule, if_pos rfl, if_pos rfl]
      refine ⟨hnone, fun n h hline => ?_⟩
      have hlt := lt_of_closingFrom h
      obtain ⟨k, rfl⟩ : ∃ k, n = 1 + k := ⟨n - 1, by omega⟩
      rw [Nat.add_comm 1 k, List.take_succ_cons] at hline ⊢
      refine ⟨?_, ?_⟩
      · cases cs with
        | nil => cases h
        | cons d cs =>
          rw [List.length_cons, List.length_take, List.length_cons]
          omega
      · rw [hsome k h fun hm hmem => hline hm (List.mem_cons_of_mem _ hmem),
          crlf_cons hq.lineBreak, List.length_cons, Nat.add_comm]
    · have hnone : rule (crlf (c :: cs)) = none := by
        by_cases hbreak : c = '\n'
        · rw [hbreak, crlf_break, hrule, if_neg hq.carriageReturn.symm]
        · rw [crlf_cons hbreak, hrule, if_neg hc]
      rw [hrule, if_neg hc]
      exact ⟨fun _ => hnone, fun n h => by cases h⟩

/-- A string literal between triple delimiters takes what it took. -/
theorem tripled_crlf (hq : Delimits q) (cs : List Char) :
    ((Quote.tripled q).length? cs = none → (Quote.tripled q).length? (crlf cs) = none) ∧
      ∀ n, (Quote.tripled q).length? cs = some n →
        2 ≤ (cs.take n).length ∧
          (Quote.tripled q).length? (crlf cs) = some (crlf (cs.take n)).length := by
  have hbreak : '\n' ∉ [q, q, q] := by simp [hq.lineBreak.symm]
  have hreturn : '\r' ∉ [q, q, q] := by simp [hq.carriageReturn.symm]
  simp only [Quote.length?, isPrefixOf_crlf hbreak hreturn]
  split
  · rename_i hstarts
    obtain ⟨cs, rfl⟩ := List.isPrefixOf_iff_prefix.1 hstarts
    obtain ⟨hnone, hsome⟩ := endOfFrom_crlf hbreak hreturn (by simp) 3 3 cs
    rw [crlf_append, crlf_of_not_mem hbreak]
    refine ⟨hnone, fun n h => ?_⟩
    obtain ⟨k, rfl⟩ : ∃ k, n = 3 + k := by
      have := le_of_endOfFrom h
      exact ⟨n - 3, by omega⟩
    have htake : ([q, q, q] ++ cs).take (3 + k) = [q, q, q] ++ cs.take k := by
      rw [Nat.add_comm]
      rfl
    rw [htake, crlf_append, crlf_of_not_mem hbreak, List.length_append, List.length_append]
    exact ⟨Nat.le_trans (by decide) (Nat.le_add_right 3 _), hsome k h⟩
  · exact ⟨fun _ => rfl, fun n h => by cases h⟩

/-- A string literal in one of the forms takes what it took, unless it is on one line and goes on after a
line break. -/
theorem quote_crlf {quote : Quote} (hq : Delimits quote.delimiter) (cs : List Char) :
    (quote.length? cs = none → quote.length? (crlf cs) = none) ∧
      ∀ n, quote.length? cs = some n → (quote = .onLine quote.delimiter → '\n' ∉ cs.take n) →
        2 ≤ (cs.take n).length ∧ quote.length? (crlf cs) = some (crlf (cs.take n)).length := by
  cases quote with
  | onLine q =>
    obtain ⟨hnone, hsome⟩ := delimited_crlf hq (Quote.onLine q).length? rfl (fun _ _ => rfl) cs
    exact ⟨hnone, fun n h hline => hsome n h fun _ => hline rfl⟩
  | acrossLines q =>
    obtain ⟨hnone, hsome⟩ := delimited_crlf hq (Quote.acrossLines q).length? rfl (fun _ _ => rfl) cs
    exact ⟨hnone, fun n h _ => hsome n h fun hm => by cases hm⟩
  | tripled q =>
    obtain ⟨hnone, hsome⟩ := tripled_crlf hq cs
    exact ⟨hnone, fun n h _ => hsome n h⟩

namespace Lexicon

variable {x : Lexicon}

/-- What tells the string literals of a lexicon on one line from those over several, and keeps carriage
returns out of its operators. -/
structure Apart (x : Lexicon) : Prop where
  quotes : ∀ quote ∈ x.quotes,
    .acrossLines quote.delimiter ∈ x.quotes → quote = .acrossLines quote.delimiter
  symbols : ∀ symbol ∈ x.symbols, '\r' ∉ symbol.toList.tail

theorem apart_of (language : Option Language) : (Lexicon.of language).Apart := by
  rcases language with _ | language
  · exact ⟨by decide, by decide⟩
  · cases language <;> exact ⟨by decide, by decide⟩

theorem Plain.delimits (hx : x.Plain) : ∀ quote ∈ x.quotes, Delimits quote.delimiter := by
  intro quote hquote
  rcases hx.delimiters quote hquote with hq | hq | hq
  · rw [hq]
    exact ⟨by decide, by decide, by decide⟩
  · rw [hq]
    exact ⟨by decide, by decide, by decide⟩
  · rw [hq]
    exact ⟨by decide, by decide, by decide⟩

/-- A string literal on one line does not begin like one over several lines. -/
theorem not_opensAcross (hx : x.Apart) {q : Char} (hq : .onLine q ∈ x.quotes) {cs : List Char} {n : Nat}
    (h : (Quote.onLine q).length? cs = some n) {quote : Quote} (hquote : quote ∈ x.quotes) :
    ¬quote.OpensAcross (cs.take n) := by
  intro hopens
  cases cs with
  | nil => cases h
  | cons c cs =>
    rw [Quote.length?] at h
    split at h
    · rename_i hc
      subst hc
      obtain ⟨k, rfl⟩ : ∃ k, n = k + 1 := by
        have := lt_of_closingFrom h
        exact ⟨n - 1, by omega⟩
      cases quote with
      | onLine p => exact hopens
      | acrossLines p =>
        obtain rfl : p = c := (List.cons_prefix_cons.1 hopens).1
        cases hx.quotes _ hq hquote
      | tripled p =>
        obtain ⟨rfl, hlater⟩ := List.cons_prefix_cons.1 hopens
        -- the literal would be empty, and then there is no third delimiter
        obtain ⟨rest, hrest⟩ := hlater.trans (List.take_prefix k cs)
        have hlength := hlater.length_le
        rw [← hrest, List.cons_append, closingFrom_self] at h
        obtain rfl : k = 1 := by
          have := Option.some.inj h
          omega
        rw [List.length_take] at hlength
        simp only [List.length_cons, List.length_nil] at hlength
        omega
    · cases h

/-- Whether a text that goes on after a line break begins like a string literal over several lines. -/
def StaysOpen (x : Lexicon) (cs : List Char) : Prop :=
  '\n' ∈ cs → ∃ quote ∈ x.quotes, quote.OpensAcross cs

/-- String literals take what they took. -/
theorem stringLength?_crlf (hx : x.Plain) (hx' : x.Apart) (cs : List Char) :
    (x.stringLength? cs = none → x.stringLength? (crlf cs) = none) ∧
      ∀ n, x.stringLength? cs = some n → x.StaysOpen (cs.take n) →
        2 ≤ (cs.take n).length ∧ x.stringLength? (crlf cs) = some (crlf (cs.take n)).length := by
  have hnone {quote : Quote} (hquote : quote ∈ x.quotes) (h : quote.length? cs = none) :
      quote.length? (crlf cs) = none :=
    (quote_crlf (hx.delimits quote hquote) cs).1 h
  constructor
  · intro h
    rw [stringLength?, List.findSome?_eq_none_iff] at h ⊢
    exact fun quote hquote => hnone hquote (h quote hquote)
  · intro n h hopen
    obtain ⟨before, quote, after, hquotes, hsome, hbefore⟩ := List.findSome?_eq_some_iff.1 h
    have hquote : quote ∈ x.quotes := by
      rw [hquotes]
      simp
    have hline : quote = .onLine quote.delimiter → '\n' ∉ cs.take n := by
      intro hq hmem
      obtain ⟨quote', hquote', hopens⟩ := hopen hmem
      rw [hq] at hquote hsome
      exact not_opensAcross hx' hquote hsome hquote' hopens
    obtain ⟨hn, hcrlf⟩ := (quote_crlf (hx.delimits quote hquote) cs).2 n hsome hline
    refine ⟨hn, List.findSome?_eq_some_iff.2 ⟨before, quote, after, hquotes, hcrlf, ?_⟩⟩
    intro other hother
    refine hnone ?_ (hbefore other hother)
    rw [hquotes]
    exact List.mem_append_left _ hother

/-! ## Comments, blanks and code -/

/-- Block comments take what they took. -/
theorem blockCommentLength?_crlf (x : Lexicon) (cs : List Char) :
    (x.blockCommentLength? cs = none → x.blockCommentLength? (crlf cs) = none) ∧
      ∀ n, x.blockCommentLength? cs = some n →
        x.blockCommentLength? (crlf cs) = some (crlf (cs.take n)).length := by
  by_cases hopens : ∃ ds, cs = '/' :: '*' :: ds
  · obtain ⟨ds, rfl⟩ := hopens
    obtain ⟨hnone, hsome⟩ := endOfFrom_crlf (show '\n' ∉ ['*', '/'] by decide) (by decide) (by decide)
      2 2 ds
    rw [crlf_cons (by decide), crlf_cons (by decide)]
    simp only [blockCommentLength?]
    split
    · refine ⟨hnone, fun n h => ?_⟩
      obtain ⟨k, rfl⟩ : ∃ k, n = 2 + k := by
        have := le_of_endOfFrom h
        exact ⟨n - 2, by omega⟩
      rw [hsome k h, Nat.add_comm 2 k, List.take_succ_cons, List.take_succ_cons,
        crlf_cons (by decide), crlf_cons (by decide), List.length_cons, List.length_cons]
      congr 1
      omega
    · exact ⟨fun _ => rfl, fun n h => by cases h⟩
  · have hnone {ds : List Char} (h : ∀ es, ds ≠ '/' :: '*' :: es) : x.blockCommentLength? ds = none := by
      unfold blockCommentLength?
      split
      · rename_i es
        exact absurd rfl (h es)
      · rfl
    rw [not_exists] at hopens
    refine ⟨fun _ => hnone fun es hes => ?_, fun n h => ?_⟩
    · obtain ⟨ds, rfl, hds⟩ := crlf_eq_cons (by decide) hes
      obtain ⟨es, rfl, _⟩ := crlf_eq_cons (by decide) hds.symm
      exact hopens es rfl
    · rw [hnone hopens] at h
      cases h

/-- What a rule takes that does not go on after the end of a line: with carriage returns it takes the one
at the end of the line as well. -/
theorem takeWhile_crlf {p : Char → Bool} (hbreak : p '\n' = false) (hreturn : p '\r' = true)
    (cs : List Char) :
    ((crlf cs).takeWhile p).length = (crlf (cs.take (cs.takeWhile p).length)).length ∨
      (∃ v, cs.drop (cs.takeWhile p).length = '\n' :: v) ∧
        ((crlf cs).takeWhile p).length = (crlf (cs.take (cs.takeWhile p).length)).length + 1 := by
  induction cs with
  | nil => exact .inl rfl
  | cons c cs ih =>
    by_cases hc : c = '\n'
    · subst hc
      rw [crlf_break, List.takeWhile_cons, List.takeWhile_cons, List.takeWhile_cons, if_pos hreturn,
        if_neg (by simp [hbreak]), if_neg (by simp [hbreak])]
      exact .inr ⟨⟨cs, rfl⟩, rfl⟩
    · rw [crlf_cons hc, List.takeWhile_cons, List.takeWhile_cons]
      split
      · rw [List.length_cons, List.length_cons, List.take_succ_cons, List.drop_succ_cons, crlf_cons hc,
          List.length_cons]
        refine ih.imp (congrArg (· + 1)) fun ⟨hdrop, hlength⟩ => ⟨hdrop, ?_⟩
        rw [hlength]
      · exact .inl rfl

/-- Code takes what it took, and it is on one line. -/
theorem codeLength_crlf (hone : x.OneLine) (hx : x.Apart) {c : Char} (hc : c ≠ '\n') (cs : List Char) :
    x.codeLength (crlf (c :: cs)) = x.codeLength (c :: cs) := by
  have hreturn : Stops '\r' := ⟨by decide, by decide, by decide, by decide, by decide⟩
  by_cases hmem : '\n' ∈ c :: cs
  · obtain ⟨u, v, huv, hu⟩ := List.eq_append_cons_of_mem hmem
    have hne : u ≠ [] := by
      rintro rfl
      exact hc (List.cons.inj huv).1
    rw [huv, crlf_append, crlf_of_not_mem hu, crlf_break, codeLength_stop hreturn hx.symbols hne,
      codeLength_stop stops_lineBreak hone.tail_symbols hne]
  · rw [crlf_of_not_mem hmem]

/-! ## Lexemes -/

/-- What becomes of the class and the length of the first lexeme of a text: it has the carriage returns in
it, and a run of blanks or a comment at the end of a line the one after it as well. -/
inductive Carried (cs : List Char) : TokenKind × Nat → TokenKind × Nat → Prop where
  | same (kind : TokenKind) (n : Nat) : Carried cs (kind, n) (kind, (crlf (cs.take n)).length)
  | more {kind : TokenKind} {n : Nat} {v : List Char} (hkind : kind = .whitespace ∨ kind = .comment)
      (hdrop : cs.drop n = '\n' :: v) : Carried cs (kind, n) (kind, (crlf (cs.take n)).length + 1)

/-- A rule that takes a run of characters of a line makes such a lexeme. -/
theorem carried_takeWhile {p : Char → Bool} (hbreak : p '\n' = false) (hreturn : p '\r' = true)
    {kind : TokenKind} (hkind : kind = .whitespace ∨ kind = .comment) (cs : List Char) :
    Carried cs (kind, (cs.takeWhile p).length) (kind, ((crlf cs).takeWhile p).length) := by
  rcases takeWhile_crlf hbreak hreturn cs with hlength | ⟨⟨v, hdrop⟩, hlength⟩
  · rw [hlength]
    exact .same kind _
  · rw [hlength]
    exact .more hkind hdrop

/-- Comments take what they took, and a line comment the carriage return after it. -/
theorem commentLength?_crlf (hx : x.Plain) (cs : List Char) :
    (x.commentLength? cs = none → x.commentLength? (crlf cs) = none) ∧
      ∀ n, x.commentLength? cs = some n →
        ∃ m, x.commentLength? (crlf cs) = some m ∧ Carried cs (.comment, n) (.comment, m) := by
  obtain ⟨hblock, hblock'⟩ := x.blockCommentLength?_crlf cs
  have hmarks : x.lineComments.any (·.toList.isPrefixOf (crlf cs)) =
      x.lineComments.any (·.toList.isPrefixOf cs) := by
    rw [Bool.eq_iff_iff, List.any_eq_true, List.any_eq_true]
    have hmark (marker : String) (hmarker : marker ∈ x.lineComments) :
        marker.toList.isPrefixOf (crlf cs) = marker.toList.isPrefixOf cs := by
      rcases hx.lineComments marker hmarker with rfl | rfl
      · exact isPrefixOf_crlf (by decide) (by decide) cs
      · exact isPrefixOf_crlf (by decide) (by decide) cs
    constructor
    · rintro ⟨marker, hmarker, hstarts⟩
      exact ⟨marker, hmarker, by rwa [hmark marker hmarker] at hstarts⟩
    · rintro ⟨marker, hmarker, hstarts⟩
      exact ⟨marker, hmarker, by rwa [hmark marker hmarker]⟩
  unfold commentLength? lineCommentLength?
  rw [hmarks]
  cases hb : x.blockCommentLength? cs with
  | some k =>
    refine ⟨fun h => (by cases h), fun n h => ?_⟩
    obtain rfl := Option.some.inj h
    exact ⟨_, by rw [hblock' k hb]; rfl, .same .comment k⟩
  | none =>
    rw [hblock hb]
    split
    · refine ⟨fun h => (by cases h), fun n h => ?_⟩
      obtain rfl := Option.some.inj h
      exact ⟨_, rfl, carried_takeWhile (by decide) (by decide) (.inr rfl) cs⟩
    · exact ⟨fun _ => rfl, fun n h => by cases h⟩

/-- A backslash that is before no line break is before none with carriage returns either. -/
theorem continuationLength?_crlf {c : Char} {cs : List Char} (hreturn : '\r' ∉ cs)
    (h : ¬(c = '\\' ∧ ∃ v, cs = '\n' :: v)) :
    continuationLength? (c :: cs) = none ∧ continuationLength? (c :: crlf cs) = none := by
  by_cases hc : c = '\\'
  · subst hc
    have hnext : ¬∃ v, cs = '\n' :: v := fun hv => h ⟨rfl, hv⟩
    cases cs with
    | nil => exact ⟨rfl, rfl⟩
    | cons d cs =>
      obtain ⟨hd, _⟩ := not_or.1 (fun h => hreturn (List.mem_cons.2 h))
      have hbreak : d ≠ '\n' := fun h => hnext ⟨cs, by rw [h]⟩
      rw [crlf_cons hbreak]
      simp [continuationLength?, newlineLength?, hbreak, Ne.symm hd]
  · simp [continuationLength?, hc]

theorem blankLength_cons (c : Char) (cs : List Char) :
    blankLength (c :: cs) = if isBlank c && c != '\n' then
      (cs.takeWhile fun d => isBlank d && d != '\n').length + 1 else 0 := by
  rw [blankLength, List.takeWhile_cons]
  split <;> rfl

/-- With carriage returns the first lexeme of a text that does not begin with a line break is what it was,
but for them. -/
theorem classify_crlf (hone : x.OneLine) (hx : x.Plain) (hx' : x.Apart) {c : Char} {cs : List Char}
    (hc : c ≠ '\n') (hreturn : '\r' ∉ c :: cs)
    (hstring : (x.classify (c :: cs)).1 = .string →
      x.StaysOpen ((c :: cs).take (x.classify (c :: cs)).2)) :
    Carried (c :: cs) (x.classify (c :: cs)) (x.classify (crlf (c :: cs))) ∧
      ((x.classify (c :: cs)).1 = .string →
        2 ≤ ((c :: cs).take (x.classify (c :: cs)).2).length) := by
  obtain ⟨hcr, hrest⟩ := not_or.1 (fun h => hreturn (List.mem_cons.2 h))
  have hnewline (ds : List Char) : newlineLength? (c :: ds) = none := by
    simp [newlineLength?, hc, Ne.symm hcr]
  by_cases hcontinued : c = '\\' ∧ ∃ v, cs = '\n' :: v
  · obtain ⟨rfl, v, rfl⟩ := hcontinued
    -- a continued line: the backslash takes the line break along either way
    exact ⟨.same .whitespace 2, fun h => by cases h⟩
  · have hcontinuation := continuationLength?_crlf hrest hcontinued
    have hcomment := commentLength?_crlf hx (c :: cs)
    have hquote := stringLength?_crlf hx hx' (c :: cs)
    have hcode := codeLength_crlf hone hx' hc cs
    have hline := not_mem_take_codeLength hone c cs hc
    have hblank : Carried (c :: cs) (.whitespace, blankLength (c :: cs))
        (.whitespace, blankLength (crlf (c :: cs))) :=
      carried_takeWhile (by decide) (by decide) (.inl rfl) (c :: cs)
    rw [crlf_cons hc] at hcomment hquote hcode hblank ⊢
    rw [blankLength_cons, blankLength_cons] at hblank
    unfold classify at hstring ⊢
    rw [hnewline, hcontinuation.1, blankLength_cons] at hstring ⊢
    rw [hnewline, hcontinuation.2, blankLength_cons]
    dsimp only at hstring ⊢
    cases hp : isBlank c && c != '\n' with
    | true =>
      rw [hp] at hblank
      exact ⟨hblank, fun h => by cases h⟩
    | false =>
      rw [hp] at hstring
      simp only [Bool.false_eq_true, if_false] at hstring ⊢
      cases hcom : x.commentLength? (c :: cs) with
      | some n =>
        obtain ⟨m, hm, hcarried⟩ := hcomment.2 n hcom
        rw [hm]
        exact ⟨hcarried, fun h => by cases h⟩
      | none =>
        rw [hcomment.1 hcom]
        rw [hcom] at hstring
        dsimp only at hstring ⊢
        cases hstr : x.stringLength? (c :: cs) with
        | some n =>
          rw [hstr] at hstring
          obtain ⟨htwo, hm⟩ := hquote.2 n hstr (hstring rfl)
          rw [hm]
          exact ⟨.same .string n, fun _ => htwo⟩
        | none =>
          rw [hquote.1 hstr, hcode]
          refine ⟨?_, fun h => by cases h⟩
          -- code stops before a line break, so no carriage return has got into it
          have hsame : Carried (c :: cs) _ _ := .same .code (x.codeLength (c :: cs))
          rw [crlf_of_not_mem hline, List.length_take, Nat.min_eq_left (x.codeLength_le (by simp))]
            at hsame
          exact hsame

/-- With carriage returns the first lexeme of a line holds those inside it, and the rest of the text is
what it was, with carriage returns, unless the lexeme has taken the next one along. -/
theorem lexemes_crlf (hone : x.OneLine) (hx : x.Plain) (hx' : x.Apart) {c : Char} {cs : List Char}
    (hc : c ≠ '\n') (hreturn : '\r' ∉ c :: cs)
    (hstring : ∀ l ∈ x.lexemes (c :: cs), l.kind = .string → x.StaysOpen l.text) :
    ∃ l b, c :: cs = l.text ++ b ∧ x.lexemes (c :: cs) = l :: x.lexemes b ∧ b.length ≤ cs.length ∧
      (l.kind = .string → 2 ≤ l.text.length) ∧
      (x.lexemes (crlf (c :: cs)) = ⟨l.kind, crlf l.text⟩ :: x.lexemes (crlf b) ∨
        (l.kind = .whitespace ∨ l.kind = .comment) ∧ ∃ v, b = '\n' :: v ∧
          x.lexemes (crlf (c :: cs)) = ⟨l.kind, crlf l.text ++ ['\r']⟩ :: x.lexemes ('\n' :: crlf v)) := by
  have hfirst := x.lexemes_cons c cs
  obtain ⟨hcarried, htwo⟩ := classify_crlf hone hx hx' hc hreturn fun hkind => by
    -- a lexeme has at least the first letter
    have hopen := hstring _ (by rw [hfirst]; exact List.mem_cons_self) hkind
    cases hn : (x.classify (c :: cs)).2 with
    | zero => exact fun hmem => by cases hmem
    | succ n =>
      rw [hn] at hopen
      exact hopen
  have hlater := x.lexemes_cons c (crlf cs)
  rw [crlf_cons hc] at hcarried ⊢
  generalize x.classify (c :: cs) = old at hfirst hcarried htwo
  generalize x.classify (c :: crlf cs) = new at hlater hcarried
  refine ⟨_, _, ?_, hfirst, ?_, ?_, ?_⟩
  · rw [List.cons_append, List.take_append_drop]
  · rw [List.length_drop]
    omega
  · intro hkind
    have hlength := htwo hkind
    cases hn : old.2 with
    | zero =>
      rw [hn] at hlength
      cases hlength
    | succ n =>
      rw [hn] at hlength
      exact hlength
  · -- the rest of the text is cut where the lexeme ends
    have hcut (k : Nat) : crlf cs = crlf (cs.take k) ++ crlf (cs.drop k) := by
      rw [← crlf_append, List.take_append_drop]
    cases hcarried with
    | same kind n =>
      left
      cases n with
      | zero =>
        rw [hlater, List.take_zero, crlf_nil, List.length_nil, Nat.zero_sub, List.take_zero,
          List.take_zero, crlf_cons hc]
        rfl
      | succ n =>
        rw [hlater, List.take_succ_cons, crlf_cons hc, List.length_cons, Nat.add_sub_cancel,
          Nat.add_sub_cancel, crlf_cons hc]
        rw [hcut n, List.take_left, List.drop_left]
    | more hkind hdrop =>
      rename_i kind n v
      right
      cases n with
      | zero => exact absurd (List.cons.inj hdrop).1 hc
      | succ n =>
        rw [List.drop_succ_cons] at hdrop
        refine ⟨hkind, v, hdrop, ?_⟩
        rw [hlater, List.take_succ_cons, crlf_cons hc, List.length_cons, Nat.add_sub_cancel,
          Nat.add_sub_cancel, crlf_cons hc]
        rw [hcut n, hdrop, crlf_break, List.take_length_add_append, List.drop_length_add_append]
        rfl

end Lexicon

end Cyclomatic
