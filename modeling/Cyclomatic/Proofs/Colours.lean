import Mathlib
import Cyclomatic.Number
import Cyclomatic.Report.Page

/-!
# Texts without their colours

Colours are control sequences in a text: an escape character, a bracket, numbers with semicolons between
them, and the letter m. Taking away all of them (`uncoloured`) changes nothing in a text without escape
characters, and takes away just the sequences that a style puts around such a text.
-/

namespace Cyclomatic

/-! ## Control sequences -/

/-- What follows a control sequence for colours, given what follows its escape character. -/
def afterSequence? : List Char → Option (List Char)
  | '[' :: cs =>
    match cs.dropWhile fun c => c.isDigit || c == ';' with
    | 'm' :: after => some after
    | _ => none
  | _ => none

/-- Something follows an escape character before what follows its sequence. -/
theorem afterSequence?_length {cs after : List Char} (h : afterSequence? cs = some after) :
    after.length < cs.length := by
  rw [afterSequence?.eq_def] at h
  split at h
  case h_2 => cases h
  case h_1 cs =>
    have hle := (List.dropWhile_suffix (l := cs) fun c => c.isDigit || c == ';').length_le
    split at h
    case h_2 => cases h
    case h_1 rest hdrop =>
      rw [Option.some_inj] at h
      rw [hdrop, h] at hle
      rw [List.length_cons] at hle ⊢
      omega

/-- A text without its control sequences for colours. -/
def uncoloured : List Char → List Char
  | [] => []
  | c :: cs =>
    if c = '\x1b' then
      match _h : afterSequence? cs with
      | some after => uncoloured after
      | none => c :: uncoloured cs
    else c :: uncoloured cs
termination_by cs => cs.length
decreasing_by
  · exact Nat.lt_succ_of_lt (afterSequence?_length _h)
  · exact Nat.lt_succ_self _
  · exact Nat.lt_succ_self _

@[simp] theorem uncoloured_nil : uncoloured [] = [] := by
  rw [uncoloured]

/-- A character that is no escape character stays. -/
theorem uncoloured_cons_of_ne {c : Char} (h : c ≠ '\x1b') (cs : List Char) :
    uncoloured (c :: cs) = c :: uncoloured cs := by
  rw [uncoloured, if_neg h]

/-- A control sequence for colours goes as a whole. -/
theorem uncoloured_escape {cs after : List Char} (h : afterSequence? cs = some after) :
    uncoloured ('\x1b' :: cs) = uncoloured after := by
  rw [uncoloured, if_pos rfl]
  split
  · next h' => rw [Option.some_inj.1 (h'.symm.trans h)]
  · next h' => cases h'.symm.trans h

/-! ## Texts without escape characters -/

/-- A text without escape characters. -/
def EscapeFree (s : String) : Prop :=
  '\x1b' ∉ s.toList

instance (s : String) : Decidable (EscapeFree s) :=
  inferInstanceAs (Decidable (¬_))

namespace EscapeFree

variable {s t : String}

/-- Escape characters do not come from joining texts. -/
theorem append (hs : EscapeFree s) (ht : EscapeFree t) : EscapeFree (s ++ t) := by
  rw [EscapeFree, String.toList_append, List.mem_append, not_or]
  exact ⟨hs, ht⟩

/-- A run of another character is free of escape characters. -/
theorem replicate {c : Char} (hc : c ≠ '\x1b') (n : Nat) :
    EscapeFree (String.ofList (List.replicate n c)) := by
  rw [EscapeFree, String.toList_ofList]
  exact fun h => hc (List.eq_of_mem_replicate h).symm

/-- Padding on the right adds blanks only. -/
theorem padRight (hs : EscapeFree s) (width : Nat) : EscapeFree (Text.padRight width s) :=
  hs.append (replicate (by decide) _)

/-- Padding on the left adds blanks only. -/
theorem padLeft (hs : EscapeFree s) (width : Nat) : EscapeFree (Text.padLeft width s) :=
  (replicate (by decide) _).append hs

/-- A text that is cut keeps some of its characters and gains those of the mark at the end. -/
theorem truncated (hs : EscapeFree s) (ht : EscapeFree t) (maxLength : Int) :
    EscapeFree (Text.truncated s maxLength t) := by
  rw [Text.truncated]
  split
  · exact hs
  · refine append ?_ ht
    rw [EscapeFree, String.toList_ofList]
    exact fun h => hs (List.take_subset _ _ h)

/-- Texts joined with a separator have the characters of the texts and of the separator. -/
theorem intercalate {sep : String} (hsep : EscapeFree sep) {texts : List String}
    (h : ∀ s ∈ texts, EscapeFree s) : EscapeFree (sep.intercalate texts) := by
  induction texts with
  | nil =>
    rw [String.intercalate_nil]
    decide
  | cons s texts ih =>
    rw [List.forall_mem_cons] at h
    cases texts with
    | nil =>
      rw [String.intercalate_singleton]
      exact h.1
    | cons t texts =>
      rw [String.intercalate_cons_cons]
      exact (h.1.append hsep).append (ih h.2)

/-- The numeral of a natural number consists of digits. -/
theorem nat (n : Nat) : EscapeFree (toString n) := by
  rw [EscapeFree, Nat.toString_eq_ofList_toDigits, String.toList_ofList]
  intro h
  exact absurd (Nat.isDigit_of_mem_toDigits (by decide) (by decide) h) (by decide)

/-- The numeral of an integer consists of digits and perhaps a sign. -/
theorem int (n : Int) : EscapeFree (toString n) := by
  rw [Int.toString_eq_repr, Int.repr_eq_if]
  split
  · exact nat _
  · exact append (by decide) (nat _)

/-- The names of levels are free of escape characters. -/
theorem levelName (l : Level) : EscapeFree l.name := by
  cases l <;> decide

/-- A number with a fixed number of places consists of digits, a point and perhaps a sign, or is a name. -/
theorem fixed (places : Nat) (x : Float) : EscapeFree (Decimal.fixed places x) := by
  rw [Decimal.fixed.eq_def]
  split
  · decide
  · split <;> decide
  · refine ((?_ : EscapeFree _).append (nat _)).append ?_
    · split <;> decide
    · split
      · decide
      · exact (append (by decide) (replicate (by decide) _)).append (nat _)

/-- The same holds of any number that can be written with a fixed number of places. -/
theorem number {n : Number} {places : Nat} (h : n.fixed places = .ok s) : EscapeFree s := by
  rw [Number.fixed] at h
  cases hx : n.toFloat with
  | error e =>
    rw [hx] at h
    cases h
  | ok x =>
    rw [hx] at h
    cases h
    exact fixed places x

/-- Taking the colours away leaves a text without escape characters as it is. -/
theorem uncoloured_append (hs : EscapeFree s) (after : List Char) :
    uncoloured (s.toList ++ after) = s.toList ++ uncoloured after := by
  rw [EscapeFree] at hs
  generalize s.toList = cs at hs ⊢
  induction cs with
  | nil => rfl
  | cons c cs ih =>
    rw [List.mem_cons, not_or] at hs
    rw [List.cons_append, uncoloured_cons_of_ne (Ne.symm hs.1), ih hs.2, List.cons_append]

end EscapeFree

/-- Taking the colours away takes the control sequence of a style away. -/
theorem uncoloured_sequence (n : Nat) (after : List Char) :
    uncoloured ((Style.sequence n).toList ++ after) = uncoloured after := by
  have hdigits : ∀ c ∈ (toString n).toList, (c.isDigit || c == ';') = true := by
    intro c hc
    rw [Nat.toString_eq_ofList_toDigits, String.toList_ofList] at hc
    rw [Nat.isDigit_of_mem_toDigits (by decide) (by decide) hc, Bool.true_or]
  have htext : (Style.sequence n).toList ++ after =
      '\x1b' :: '[' :: ((toString n).toList ++ 'm' :: after) := by
    simp [Style.sequence]
  rw [htext]
  refine uncoloured_escape ?_
  rw [afterSequence?, List.dropWhile_append_of_pos hdigits, List.dropWhile_cons_of_neg (by decide)]
  rfl

end Cyclomatic
