/-!
# Sets of lines

The code lines of a function or a file. A set of lines is a list without repetition, newest line
first: tokens arrive line by line, so a line that is already there is found at the front.
-/

namespace Cyclomatic

/-- A finite set of line numbers. -/
structure LineSet where
  lines : List Int
  nodup : lines.Nodup

namespace LineSet

/-- The set without lines. -/
def empty : LineSet :=
  ⟨[], .nil⟩

instance : Inhabited LineSet := ⟨empty⟩

instance : Membership Int LineSet := ⟨fun s l => l ∈ s.lines⟩

instance (l : Int) (s : LineSet) : Decidable (l ∈ s) :=
  inferInstanceAs (Decidable (l ∈ s.lines))

/-- The number of lines in a set. -/
def size (s : LineSet) : Nat :=
  s.lines.length

/-- A set with one line more, unless it is there already. -/
def insert (s : LineSet) (l : Int) : LineSet :=
  if h : l ∈ s.lines then s else ⟨l :: s.lines, List.nodup_cons.2 ⟨h, s.nodup⟩⟩

/-- A set with `count` consecutive lines more, from `first` on. -/
def insertRun (s : LineSet) (first : Int) (count : Nat) : LineSet :=
  (List.range count).foldl (fun s (i : Nat) => s.insert (first + i)) s

/-- The lines of a set from `first` to `last`. -/
def within (s : LineSet) (first last : Int) : LineSet :=
  ⟨s.lines.filter fun l => decide (first ≤ l) && decide (l ≤ last), s.nodup.filter _⟩

/-! ## Membership -/

@[simp] theorem not_mem_empty (l : Int) : l ∉ empty :=
  List.not_mem_nil

@[simp] theorem size_empty : empty.size = 0 := rfl

@[simp] theorem mem_insert {s : LineSet} {l m : Int} : m ∈ s.insert l ↔ m = l ∨ m ∈ s := by
  simp only [insert]
  split
  · rename_i h
    exact ⟨Or.inr, fun hm => hm.elim (fun e => e ▸ h) id⟩
  · exact List.mem_cons

@[simp] theorem mem_within {s : LineSet} {first last m : Int} :
    m ∈ s.within first last ↔ m ∈ s ∧ first ≤ m ∧ m ≤ last := by
  show m ∈ List.filter _ s.lines ↔ m ∈ s.lines ∧ _
  simp

theorem mem_insertRun {s : LineSet} {first m : Int} {count : Nat} :
    m ∈ s.insertRun first count ↔ m ∈ s ∨ (first ≤ m ∧ m < first + count) := by
  induction count with
  | zero =>
    simp only [insertRun, List.range_zero, List.foldl_nil]
    constructor
    · exact Or.inl
    · rintro (h | h)
      · exact h
      · omega
  | succ n ih =>
    have step : s.insertRun first (n + 1) = (s.insertRun first n).insert (first + n) := by
      simp [insertRun, List.range_succ]
    rw [step, mem_insert, ih]
    constructor
    · rintro (h | h | h)
      · right; omega
      · exact .inl h
      · right; omega
    · rintro (h | h)
      · exact .inr (.inl h)
      · by_cases e : m = first + n
        · exact .inl e
        · right; right; omega

end LineSet

end Cyclomatic
