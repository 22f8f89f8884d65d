import Mathlib
import Cyclomatic.Value

/-!
# Lookups

What a mapping holds under a name does not depend on entries with other keys (`Value.get?_filter`) and, if no
key is there twice, not on the order of the entries (`Value.get?_perm`). What is found in a mapping that a text
of a data format without links stands for is a value that such a text stands for (`Value.isJson_of_get?`).
-/

namespace Cyclomatic

/-- Only a text is the same key as a text. -/
theorem Scalar.same_text_iff {key : Scalar} {name : String} :
    key.same (.text name) = true ↔ key = .text name := by
  cases key <;> simp [same, number?]

namespace Value

/-! ## Lookups -/

variable {α : Type} {entries entries' : List (Scalar × α)} {name : String} {a : α}

theorem get?_cons (e : Scalar × α) (entries : List (Scalar × α)) (name : String) :
    get? (e :: entries) name = if e.1.same (.text name) = true then some e.2 else get? entries name := by
  rw [get?, List.find?_cons]
  cases e.1.same (.text name) <;> rfl

/-- Where no key is there twice, what is found under a name is what stands there. -/
theorem get?_eq_some_iff (hkeys : (entries.map Prod.fst).Nodup) :
    get? entries name = some a ↔ (Scalar.text name, a) ∈ entries := by
  induction entries with
  | nil => simp [get?]
  | cons e entries ih =>
    obtain ⟨key, b⟩ := e
    rw [List.map_cons, List.nodup_cons] at hkeys
    rw [get?_cons, List.mem_cons, Prod.mk.injEq]
    split
    · rename_i hsame
      obtain rfl := Scalar.same_text_iff.1 hsame
      -- the key does not come again
      have hrest : (Scalar.text name, a) ∉ entries := fun h => hkeys.1 (List.mem_map.2 ⟨_, h, rfl⟩)
      simp [hrest, eq_comm]
    · rename_i hother
      rw [ih hkeys.2]
      constructor
      · exact .inr
      · rintro (⟨hkey, -⟩ | hmem)
        · exact absurd (Scalar.same_text_iff.2 hkey.symm) hother
        · exact hmem

/-- The order of entries does not matter to what is found among them. -/
theorem get?_perm (hkeys : (entries.map Prod.fst).Nodup) (h : entries'.Perm entries) (name : String) :
    get? entries' name = get? entries name := by
  have hkeys' : (entries'.map Prod.fst).Nodup := (h.map Prod.fst).nodup_iff.2 hkeys
  apply Option.ext
  intro a
  rw [get?_eq_some_iff hkeys', get?_eq_some_iff hkeys, h.mem_iff]

/-- Entries with other keys do not matter to what is found under a name. -/
theorem get?_filter {keep : Scalar → Bool} (hkeep : keep (.text name) = true)
    (entries : List (Scalar × α)) : get? (entries.filter (keep ·.1)) name = get? entries name := by
  induction entries with
  | nil => rfl
  | cons e entries ih =>
    rw [List.filter_cons]
    by_cases hsame : e.1.same (.text name) = true
    · have hkept : keep e.1 = true := by
        rw [Scalar.same_text_iff.1 hsame]
        exact hkeep
      rw [if_pos hkept, get?_cons, get?_cons, if_pos hsame, if_pos hsame]
    · rw [get?_cons e entries, if_neg hsame]
      split
      · rw [get?_cons, if_neg hsame, ih]
      · exact ih

/-- What is found among entries whose values are changed is what was found before, changed. -/
theorem get?_map (f : Scalar → α → α) (entries : List (Scalar × α)) (name : String) :
    get? (entries.map fun e => (e.1, f e.1 e.2)) name = (get? entries name).map (f (.text name)) := by
  induction entries with
  | nil => rfl
  | cons e entries ih =>
    rw [List.map_cons, get?_cons, get?_cons, ih]
    by_cases hsame : e.1.same (.text name) = true
    · rw [if_pos hsame, if_pos hsame, Scalar.same_text_iff.1 hsame]
      rfl
    · rw [if_neg hsame, if_neg hsame]

/-! ## Values without links -/

/-- Whether a scalar is a text. -/
def isText : Scalar → Bool
  | .text _ => true
  | _ => false

mutual

/-- Whether a value is made of null, truth values, numbers and texts by lists and by mappings that have texts
as keys, each of them once. -/
def isJson : Value → Bool
  | scalar s =>
    match s with
    | .null | .bool _ | .int _ | .real _ | .text _ => true
    | .date _ | .moment _ | .bytes _ => false
  | list items => allJson items
  | dict entries => entriesJson entries
  | pair _ _ | set _ | linked _ _ => false

/-- Whether all items of a list are such values. -/
def allJson : List Value → Bool
  | [] => true
  | v :: vs => v.isJson && allJson vs

/-- Whether a mapping is such a value. -/
def entriesJson : Entries → Bool
  | [] => true
  | (key, v) :: es => isText key && !es.any (·.1.same key) && v.isJson && entriesJson es

end

theorem allJson_iff {items : List Value} : allJson items = true ↔ ∀ v ∈ items, v.isJson = true := by
  induction items with
  | nil => simp [allJson]
  | cons v items ih => rw [allJson, Bool.and_eq_true, ih, List.forall_mem_cons]

/-- The keys of such a mapping are texts, each is there once, and its values are such values. -/
theorem entriesJson_iff {es : Entries} :
    entriesJson es = true ↔
      (∀ e ∈ es, ∃ name, e.1 = .text name) ∧ (es.map Prod.fst).Nodup ∧ ∀ e ∈ es, e.2.isJson = true := by
  induction es with
  | nil => simp [entriesJson]
  | cons e es ih =>
    obtain ⟨key, v⟩ := e
    rw [entriesJson, Bool.and_eq_true, Bool.and_eq_true, Bool.and_eq_true, ih, List.forall_mem_cons,
      List.map_cons, List.nodup_cons, List.forall_mem_cons, Bool.not_eq_true', List.any_eq_false]
    cases key with
    | text name =>
      have hkey : (∀ e ∈ es, ¬e.1.same (.text name) = true) ↔ Scalar.text name ∉ es.map Prod.fst := by
        simp only [Scalar.same_text_iff, List.mem_map, not_exists, not_and]
      rw [hkey]
      simp only [isText, Scalar.text.injEq, exists_eq', true_and]
      tauto
    | _ => simp [isText]

/-- A mapping whose keys are some names, each once. -/
theorem entriesJson_of_names {es : Entries} {names : List String}
    (hkeys : es.map Prod.fst = names.map Scalar.text) (hnames : names.Nodup)
    (hvalues : ∀ e ∈ es, e.2.isJson = true) : entriesJson es = true := by
  rw [entriesJson_iff]
  refine ⟨?_, ?_, hvalues⟩
  · intro e he
    have hkey : e.1 ∈ names.map Scalar.text := by
      rw [← hkeys]
      exact List.mem_map_of_mem he
    obtain ⟨name, -, hname⟩ := List.mem_map.1 hkey
    exact ⟨name, hname.symm⟩
  · rw [hkeys]
    apply hnames.map
    intro a b hab
    exact Scalar.text.inj hab

/-- What is found in such a mapping is such a value. -/
theorem isJson_of_get? {es : Entries} {name : String} {v : Value} (hjson : entriesJson es = true)
    (h : get? es name = some v) : v.isJson = true := by
  obtain ⟨-, hkeys, hvalues⟩ := entriesJson_iff.1 hjson
  exact hvalues _ ((get?_eq_some_iff hkeys).1 h)

end Value

end Cyclomatic
