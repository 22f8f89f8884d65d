import Mathlib
import Cyclomatic.FileTree
import Cyclomatic.Proofs.Path.Below

/-!
# Trees of directories and files

A tree (`Node.IsTree`) has no links, and the entries of each of its directories have different names. A
place in a directory leads through exactly one entry (`Node.at?_directory_cons`).
-/

namespace Cyclomatic.Node

mutual

/-- A node with no links in it, where the entries of a directory have names of their own. -/
def IsTree : Node → Prop
  | .file _ => True
  | .link _ => False
  | .directory entries => (entries.map (·.1)).Nodup ∧ AreTrees entries

/-- Entries with proper names that hold trees. -/
def AreTrees : List (String × Node) → Prop
  | [] => True
  | (name, node) :: rest => Path.IsName name ∧ IsTree node ∧ AreTrees rest

end

variable {entries : List (String × Node)} {name : String} {node : Node}

theorem areTrees_iff : AreTrees entries ↔ ∀ e ∈ entries, Path.IsName e.1 ∧ e.2.IsTree := by
  induction entries with
  | nil => simp [AreTrees]
  | cons e entries ih =>
    obtain ⟨name, node⟩ := e
    rw [AreTrees, ih, List.forall_mem_cons, and_assoc]

theorem lookup_eq_some_iff (h : (entries.map (·.1)).Nodup) :
    entries.lookup name = some node ↔ (name, node) ∈ entries := by
  induction entries with
  | nil => simp
  | cons e entries ih =>
    obtain ⟨other, n⟩ := e
    rw [List.map_cons, List.nodup_cons] at h
    rw [List.lookup_cons, List.mem_cons]
    by_cases hname : name = other
    · subst hname
      have hmem : (name, node) ∉ entries := fun hmem =>
        h.1 (List.mem_map.2 ⟨(name, node), hmem, rfl⟩)
      simp [hmem, eq_comm]
    · have hother : (name == other) = false := beq_eq_false_iff_ne.2 hname
      rw [hother]
      simp [hname, ih h.2]

/-- A place in a directory leads through the entry with its first name. -/
theorem at?_directory_cons (h : (directory entries).IsTree) {place : List String} {n : Node} :
    at? (name :: place) (directory entries) = some n ↔
      ∃ child, (name, child) ∈ entries ∧ child.at? place = some n := by
  rw [IsTree] at h
  rw [at?, Option.bind_eq_some_iff]
  simp only [lookup_eq_some_iff h.1]

/-- A file in a directory stands at a place that has a name. -/
theorem ne_nil_of_at?_directory {place : List String} {bytes : List UInt8}
    (h : (directory entries).at? place = some (.file bytes)) : place ≠ [] := by
  rintro rfl
  simp [at?] at h

/-- The names that lead to a place in a tree are proper ones. -/
theorem IsTree.isName_of_at? (h : node.IsTree) {place : List String} {n : Node}
    (hplace : node.at? place = some n) : ∀ name ∈ place, Path.IsName name := by
  induction place generalizing node with
  | nil => simp
  | cons first place ih =>
    cases node with
    | file bytes => simp [at?] at hplace
    | link target => simp [at?] at hplace
    | directory entries =>
      obtain ⟨child, hmem, hchild⟩ := (at?_directory_cons h).1 hplace
      rw [IsTree, areTrees_iff] at h
      obtain ⟨hname, hchildTree⟩ := h.2 _ hmem
      exact List.forall_mem_cons.2 ⟨hname, ih hchildTree hchild⟩

end Cyclomatic.Node
