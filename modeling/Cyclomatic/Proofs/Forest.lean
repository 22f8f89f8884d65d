import Mathlib

/-!
# Forests in post-order

An ordered forest lists its nodes in post-order: the nodes of its trees from left to right, and each root
after the nodes under it. A node is listed before the node it stands under, and what lies between them is at
least as deep as itself (`Forest.split_of_isParent`). So the list and the depths in it tell the forest: the
parent of a node is the next later one that is less deep by one (`Forest.isParent_iff`).
-/

namespace Cyclomatic

/-- An ordered forest: no tree, or a last tree, which is a root over a forest, after the trees before it. -/
inductive Forest (α : Type) where
  | empty
  | snoc (before inside : Forest α) (root : α)

namespace Forest

variable {α : Type}

/-- The nodes of a forest, each root after the nodes under it. -/
def postorder : Forest α → List α
  | empty => []
  | snoc before inside root => before.postorder ++ (inside.postorder ++ [root])

/-- The roots of a forest. -/
def roots : Forest α → List α
  | empty => []
  | snoc before _ root => before.roots ++ [root]

/-- Whether a node is a root of the forest right under another node. -/
def IsParent (parent child : α) : Forest α → Prop
  | empty => False
  | snoc before inside root =>
    before.IsParent parent child ∨ inside.IsParent parent child ∨
      (root = parent ∧ child ∈ inside.roots)

/-- Whether nodes have the depths that they have in the forest, if `d` is that of the roots. -/
def HasDepths (depth : α → Int) (d : Int) : Forest α → Prop
  | empty => True
  | snoc before inside root =>
    before.HasDepths depth d ∧ inside.HasDepths depth (d + 1) ∧ depth root = d

variable {F : Forest α} {depth : α → Int} {d : Int} {parent child x : α}

/-! ## Depths -/

theorem mem_postorder_of_mem_roots (h : x ∈ F.roots) : x ∈ F.postorder := by
  induction F with
  | empty => cases h
  | snoc before inside root ihbefore ihinside =>
    rw [postorder]
    rcases List.mem_append.1 h with h | h
    · exact List.mem_append_left _ (ihbefore h)
    · exact List.mem_append_right _ (List.mem_append_right _ h)

theorem depth_of_mem_roots (hF : F.HasDepths depth d) (h : x ∈ F.roots) : depth x = d := by
  induction F with
  | empty => cases h
  | snoc before inside root ihbefore ihinside =>
    obtain ⟨hbefore, _, hroot⟩ := hF
    rcases List.mem_append.1 h with h | h
    · exact ihbefore hbefore h
    · rw [List.mem_singleton.1 h, hroot]

/-- No node is less deep than the roots. -/
theorem le_depth (hF : F.HasDepths depth d) (h : x ∈ F.postorder) : d ≤ depth x := by
  induction F generalizing d with
  | empty => cases h
  | snoc before inside root ihbefore ihinside =>
    obtain ⟨hbefore, hinside, hroot⟩ := hF
    rcases List.mem_append.1 h with h | h
    · exact ihbefore hbefore h
    · rcases List.mem_append.1 h with h | h
      · have := ihinside hinside h
        omega
      · rw [List.mem_singleton.1 h, hroot]

/-- The last node of a forest is a root. -/
theorem depth_getLast? (hF : F.HasDepths depth d) : ∀ x ∈ F.postorder.getLast?, depth x = d := by
  cases F with
  | empty => simp [postorder]
  | snoc before inside root =>
    intro x hx
    rw [postorder, ← List.append_assoc, List.getLast?_concat] at hx
    obtain rfl := Option.some.inj hx
    exact hF.2.2

/-- From a node to the next, the depth falls by one at most. -/
theorem isChain_postorder (hF : F.HasDepths depth d) :
    F.postorder.IsChain fun x y => depth x - 1 ≤ depth y := by
  induction F generalizing d with
  | empty => exact .nil
  | snoc before inside root ihbefore ihinside =>
    obtain ⟨hbefore, hinside, hroot⟩ := hF
    rw [postorder, List.isChain_append, List.isChain_append]
    refine ⟨ihbefore hbefore, ⟨ihinside hinside, List.isChain_singleton _, ?_⟩, ?_⟩
    · -- the last node under a root is one deeper than the root
      intro x hx y hy
      obtain rfl := Option.some.inj hy
      rw [depth_getLast? hinside x hx, hroot]
      omega
    · -- a tree ends as deep as the next one may end at least
      intro x hx y hy
      rw [depth_getLast? hbefore x hx]
      rcases List.mem_append.1 (List.mem_of_mem_head? hy) with hy | hy
      · have := le_depth hinside hy
        omega
      · rw [List.mem_singleton.1 hy, hroot]
        omega

/-! ## Parents -/

/-- A node is a root or stands under another node. -/
theorem mem_roots_or_isParent (h : x ∈ F.postorder) :
    x ∈ F.roots ∨ ∃ parent, F.IsParent parent x := by
  induction F with
  | empty => cases h
  | snoc before inside root ihbefore ihinside =>
    rcases List.mem_append.1 h with h | h
    · rcases ihbefore h with h | ⟨parent, h⟩
      · exact .inl (List.mem_append_left _ h)
      · exact .inr ⟨parent, .inl h⟩
    · rcases List.mem_append.1 h with h | h
      · rcases ihinside h with h | ⟨parent, h⟩
        · exact .inr ⟨root, .inr (.inr ⟨rfl, h⟩)⟩
        · exact .inr ⟨parent, .inr (.inl h)⟩
      · exact .inl (List.mem_append_right _ h)

/-- The parent of a node is listed after it, is less deep by one, and no node in between is less deep than
the node itself. -/
theorem split_of_isParent (hF : F.HasDepths depth d) (h : F.IsParent parent child) :
    ∃ xs ys zs, F.postorder = xs ++ child :: (ys ++ parent :: zs) ∧
      depth parent = depth child - 1 ∧ ∀ y ∈ ys, depth child ≤ depth y := by
  induction F generalizing d with
  | empty => cases h
  | snoc before inside root ihbefore ihinside =>
    obtain ⟨hbefore, hinside, hroot⟩ := hF
    rw [postorder]
    rcases h with h | h | ⟨rfl, h⟩
    · obtain ⟨xs, ys, zs, hlist, hdepths⟩ := ihbefore hbefore h
      exact ⟨xs, ys, zs ++ (inside.postorder ++ [root]), by rw [hlist]; simp, hdepths⟩
    · obtain ⟨xs, ys, zs, hlist, hdepths⟩ := ihinside hinside h
      exact ⟨before.postorder ++ xs, ys, zs ++ [root], by rw [hlist]; simp, hdepths⟩
    · obtain ⟨xs, ys, hlist⟩ := List.append_of_mem (mem_postorder_of_mem_roots h)
      have hchild := depth_of_mem_roots hinside h
      refine ⟨before.postorder ++ xs, ys, [], by rw [hlist]; simp, by rw [hchild, hroot]; omega, ?_⟩
      intro y hy
      rw [hchild]
      exact le_depth hinside (by rw [hlist]; simp [hy])

/-- In a forest whose nodes are all different, the parent of a node that is no root is the next later node
that is less deep by one. -/
theorem isParent_iff (hF : F.HasDepths depth d) (hnodup : F.postorder.Nodup) {before after : List α}
    (hsplit : F.postorder = before ++ x :: after) (hx : d < depth x) :
    ∃ parent, after.find? (fun y => depth y == depth x - 1) = some parent ∧
      ∀ y, F.IsParent y x ↔ y = parent := by
  have hnext {y : α} (h : F.IsParent y x) :
      after.find? (fun y => depth y == depth x - 1) = some y := by
    obtain ⟨xs, ys, zs, hlist, hdepth, hbetween⟩ := split_of_isParent hF h
    -- the node stands in one place of the list only
    have hfirst {us vs : List α} (hlist : F.postorder = us ++ x :: vs) : x ∉ us ∧ x ∉ vs := by
      rw [hlist, List.nodup_middle, List.nodup_cons, List.mem_append, not_or] at hnodup
      exact hnodup.1
    obtain ⟨rfl, _, rfl⟩ := (List.append_cons_inj_of_notMem (hfirst hsplit).1 (hfirst hsplit).2).1
      (hsplit.symm.trans hlist)
    have hnone : ys.find? (fun y => depth y == depth x - 1) = none := by
      rw [List.find?_eq_none]
      intro z hz
      have := hbetween z hz
      simp only [beq_iff_eq]
      omega
    rw [List.find?_append, hnone, Option.none_or, List.find?_cons_of_pos (by simpa using hdepth)]
  have hmem : x ∈ F.postorder := by rw [hsplit]; simp
  rcases mem_roots_or_isParent hmem with hroot | ⟨parent, hparent⟩
  · have := depth_of_mem_roots hF hroot
    omega
  · refine ⟨parent, hnext hparent, fun y => ⟨fun h => ?_, fun h => h ▸ hparent⟩⟩
    exact Option.some.inj ((hnext h).symm.trans (hnext hparent))

end Forest

end Cyclomatic
