import Mathlib
import Cyclomatic.Path

/-!
# Paths below a path

The path of a place below another path is made by putting one name after the other to that path. Names are
not empty and have no slashes, so the names can be told from the path: different places have different paths
(`Path.below_inj`).
-/

namespace Cyclomatic.Path

/-- A text that can be the name of an entry: it is not empty and has no slash. -/
structure IsName (name : String) : Prop where
  ne_nil : name.toList ≠ []
  slash_notMem : '/' ∉ name.toList

/-- The path of a place that is given by the names that lead to it. -/
def below (path : String) (place : List String) : String :=
  place.foldl join path

/-! ## The text of a path -/

/-- A path ends in a slash exactly if that is its last character. -/
theorem endsWith_slash_iff {path : String} : path.endsWith "/" = true ↔ ['/'] <:+ path.toList := by
  rw [String.endsWith_eq_endsWith_toSlice, String.Slice.endsWith_string_iff, String.copy_toSlice]
  rfl

/-- A path with the slash that a name is put after. -/
def stem (path : String) : String :=
  if path.isEmpty || path.endsWith "/" then path else path ++ "/"

/-- What the names after the first add to a path. -/
def tail (names : List String) : List Char :=
  names.flatMap fun name => '/' :: name.toList

variable {path name : String} {names : List String}

/-- A name is a relative path. -/
theorem isAbsolute_eq_false (h : IsName name) : isAbsolute name = false := by
  rw [Bool.eq_false_iff]
  intro habsolute
  have hslash : "/".toList <+: name.toList := String.startsWith_string_iff.1 habsolute
  exact h.slash_notMem (hslash.subset List.mem_cons_self)

/-- A name is put to a path behind a slash, where the path does not end in one. -/
theorem join_eq (h : IsName name) : join path name = stem path ++ name := by
  rw [join, stem, isAbsolute_eq_false h, if_neg Bool.false_ne_true]
  split <;> rfl

/-- A path that ends in a name has no slash at its end, so a slash goes before the next name. -/
theorem stem_append (h : IsName name) : stem (path ++ name) = path ++ name ++ "/" := by
  have hempty : (path ++ name).isEmpty = false := by
    rw [Bool.eq_false_iff, Ne, String.isEmpty_iff, ← String.toList_eq_nil_iff, String.toList_append,
      List.append_eq_nil_iff]
    exact fun hnil => h.ne_nil hnil.2
  have hend : (path ++ name).endsWith "/" = false := by
    rw [Bool.eq_false_iff, Ne, endsWith_slash_iff, String.toList_append]
    intro hsuf
    have hlast : ['/'] <:+ name.toList := List.suffix_of_suffix_length_le hsuf
      (List.suffix_append _ _) (List.length_pos_iff.2 h.ne_nil)
    exact h.slash_notMem (hlast.subset List.mem_cons_self)
  rw [stem, hempty, hend]
  rfl

/-- The characters of the path of a place. -/
theorem toList_below_cons (h : ∀ n ∈ name :: names, IsName n) :
    (below path (name :: names)).toList = (stem path).toList ++ name.toList ++ tail names := by
  induction names generalizing path name with
  | nil =>
    rw [below, List.foldl_cons, List.foldl_nil, join_eq (h name List.mem_cons_self),
      String.toList_append, tail, List.flatMap_nil, List.append_nil]
  | cons next names ih =>
    have hname := h name List.mem_cons_self
    rw [below, List.foldl_cons, ← below, ih fun n hn => h n (List.mem_cons_of_mem _ hn), join_eq hname,
      stem_append hname]
    simp [tail]

/-- The path of a place is not empty. -/
theorem below_ne_empty {place : List String} (hplace : place ≠ []) (h : ∀ n ∈ place, IsName n) :
    (below path place).isEmpty = false := by
  obtain ⟨name, names, rfl⟩ := List.exists_cons_of_ne_nil hplace
  rw [Bool.eq_false_iff, Ne, String.isEmpty_iff, ← String.toList_eq_nil_iff, toList_below_cons h,
    List.append_assoc, List.append_eq_nil_iff, List.append_eq_nil_iff]
  exact fun hnil => (h name List.mem_cons_self).ne_nil hnil.2.1

/-! ## Telling names apart -/

/-- A name goes as far as the next slash. -/
theorem takeWhile_name (h : IsName name) (names : List String) :
    (name.toList ++ tail names).takeWhile (· != '/') = name.toList := by
  have hname : ∀ c ∈ name.toList, (c != '/') = true := fun c hc => by
    simpa using ne_of_mem_of_not_mem hc h.slash_notMem
  rw [List.takeWhile_append_of_pos hname]
  cases names with
  | nil => simp [tail]
  | cons next names => simp [tail]

/-- The first of some names can be told from the others. -/
theorem append_tail_inj {name' : String} {names' : List String} (h : IsName name) (h' : IsName name')
    (heq : name.toList ++ tail names = name'.toList ++ tail names') :
    name = name' ∧ tail names = tail names' := by
  have hname : name.toList = name'.toList := by
    rw [← takeWhile_name h names, heq, takeWhile_name h' names']
  rw [hname] at heq
  exact ⟨String.toList_inj.1 hname, List.append_cancel_left heq⟩

/-- So the names can all be told from the path that they make. -/
theorem tail_inj {names' : List String} (h : ∀ n ∈ names, IsName n) (h' : ∀ n ∈ names', IsName n)
    (heq : tail names = tail names') : names = names' := by
  induction names generalizing names' with
  | nil =>
    cases names' with
    | nil => rfl
    | cons name' names' => simp [tail] at heq
  | cons name names ih =>
    cases names' with
    | nil => simp [tail] at heq
    | cons name' names' =>
      have hcons : '/' :: (name.toList ++ tail names) = '/' :: (name'.toList ++ tail names') := heq
      obtain ⟨rfl, hrest⟩ := append_tail_inj (h name List.mem_cons_self) (h' name' List.mem_cons_self)
        (List.cons_inj_right '/' |>.1 hcons)
      rw [ih (fun n hn => h n (List.mem_cons_of_mem _ hn)) (fun n hn => h' n (List.mem_cons_of_mem _ hn))
        hrest]

/-- Different places below a path have different paths. -/
theorem below_inj {place place' : List String} (hplace : place ≠ []) (hplace' : place' ≠ [])
    (h : ∀ n ∈ place, IsName n) (h' : ∀ n ∈ place', IsName n)
    (heq : below path place = below path place') : place = place' := by
  obtain ⟨name, names, rfl⟩ := List.exists_cons_of_ne_nil hplace
  obtain ⟨name', names', rfl⟩ := List.exists_cons_of_ne_nil hplace'
  have hlist := congrArg String.toList heq
  rw [toList_below_cons h, toList_below_cons h', List.append_assoc, List.append_assoc] at hlist
  obtain ⟨rfl, hrest⟩ := append_tail_inj (h name List.mem_cons_self) (h' name' List.mem_cons_self)
    (List.append_cancel_left hlist)
  rw [tail_inj (fun n hn => h n (List.mem_cons_of_mem _ hn))
    (fun n hn => h' n (List.mem_cons_of_mem _ hn)) hrest]

end Cyclomatic.Path
