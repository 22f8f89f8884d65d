import Mathlib
import Cyclomatic.Proofs.Value

/-!
# Values without links

A collection that is part of itself, directly or by way of others, has no end. Every other value has one
(`Value.Ends`), and then it has a form without links, which is found within the depth of its nesting: the
depth limits nothing else (`Value.unlinked?_isSome_iff`). A value that has no links is its own form without
them (`Value.unlinked?_of_isJson`).
-/

namespace Cyclomatic

namespace Collection

/-! ## What collections hold -/

variable {α β : Type}

/-- What a collection holds besides scalars: its items, or the values of a mapping. -/
def members : Collection α → List α
  | list items => items
  | pair first second => [first, second]
  | set _ => []
  | dict entries => entries.map (·.2)

theorem members_map (f : α → β) (c : Collection α) : (c.map f).members = c.members.map f := by
  cases c <;> simp [map, members]

end Collection

/-- An action on a list succeeds if it does on every item. -/
theorem mapM_isSome_iff {α β : Type} {f : α → Option β} {xs : List α} :
    (xs.mapM f).isSome = true ↔ ∀ a ∈ xs, (f a).isSome = true := by
  induction xs with
  | nil => simp
  | cons a xs ih =>
    rw [List.mapM_cons, List.forall_mem_cons, ← ih]
    cases f a with
    | none => simp
    | some b => cases xs.mapM f <;> simp

/-- Only what an action does with the items of a list matters. -/
theorem mapM_congr {α β : Type} {f g : α → Option β} {xs : List α} (h : ∀ a ∈ xs, f a = g a) :
    xs.mapM f = xs.mapM g := by
  induction xs with
  | nil => rfl
  | cons a xs ih =>
    obtain ⟨ha, hxs⟩ := List.forall_mem_cons.1 h
    rw [List.mapM_cons, List.mapM_cons, ha, ih hxs]

namespace Collection

variable {α β : Type} {f g : α → Option β} {c : Collection α}

/-- A collection can be converted exactly if all its members can. -/
theorem mapM_isSome_iff :
    (c.mapM f).isSome = true ↔ ∀ a ∈ c.members, (f a).isSome = true := by
  cases c with
  | list items =>
    rw [members, ← Cyclomatic.mapM_isSome_iff, mapM]
    cases items.mapM f <;> rfl
  | pair first second =>
    rw [members, List.forall_mem_cons, List.forall_mem_singleton, mapM]
    cases hfirst : f first with
    | none => simp
    | some a => cases hsecond : f second <;> simp
  | set keys => simp [mapM, members]
  | dict entries =>
    let action (e : Scalar × α) : Option (Scalar × β) := do return (e.1, ← f e.2)
    have haction (e : Scalar × α) : (action e).isSome = (f e.2).isSome := by
      dsimp only [action]
      cases f e.2 <;> rfl
    have hentries : (entries.mapM action).isSome = true ↔ ∀ e ∈ entries, (f e.2).isSome = true := by
      simp only [Cyclomatic.mapM_isSome_iff, haction]
    rw [members, List.forall_mem_map, ← hentries]
    show (entries.mapM action >>= fun es => pure (dict es)).isSome = true ↔ _
    cases entries.mapM action <;> rfl

theorem mapM_congr (h : ∀ a ∈ c.members, f a = g a) : c.mapM f = c.mapM g := by
  cases c with
  | list items =>
    have hitems : ∀ a ∈ items, f a = g a := h
    rw [mapM, mapM, Cyclomatic.mapM_congr hitems]
  | pair first second =>
    rw [mapM, mapM, h first (by simp [members]), h second (by simp [members])]
  | set keys => rfl
  | dict entries =>
    rw [mapM, mapM, Cyclomatic.mapM_congr]
    intro e he
    rw [h e.2 (List.mem_map_of_mem he)]

theorem mapM_some (c : Collection α) : c.mapM some = some c := by
  have hlist {γ : Type} (xs : List γ) : xs.mapM some = some xs := by
    have hpure := List.mapM_pure (m := Option) (f := id) (l := xs)
    rwa [List.map_id] at hpure
  cases c <;> simp [mapM, hlist]

end Collection

namespace Value

variable {n m : Nat} {v w : Value}

/-! ## Ends -/

/-- A value has an end if everything that it holds has one. So a collection that is part of itself has
none. -/
inductive Ends : Value → Prop
  | of_members {v : Value} (h : ∀ c, v.collection? = some c → ∀ a ∈ c.members, Ends a) : Ends v

/-! ## Depths -/

/-- A collection has a form without links within one step more than its members. -/
theorem unlinkedWithin_succ (n : Nat) (v : Value) : v.unlinkedWithin (n + 1) =
    match v.collection? with
    | some c => (c.mapM (unlinkedWithin n)).map ofCollection
    | none => some v := by
  cases v <;> rfl

/-- A depth suffices for a collection if one less suffices for what it holds. -/
theorem unlinkedWithin_succ_isSome_iff : (v.unlinkedWithin (n + 1)).isSome = true ↔
    ∀ c, v.collection? = some c → ∀ a ∈ c.members, (a.unlinkedWithin n).isSome = true := by
  rw [unlinkedWithin_succ]
  cases v.collection? with
  | none => simp
  | some c => simp [Collection.mapM_isSome_iff]

/-- Depth zero suffices for what is no collection. -/
theorem unlinkedWithin_zero_isSome_iff :
    (v.unlinkedWithin 0).isSome = true ↔ v.collection? = none := by
  cases v <;> simp [unlinkedWithin, collection?]

/-- A greater depth changes nothing. -/
theorem unlinkedWithin_mono (h : v.unlinkedWithin n = some w) (hle : n ≤ m) :
    v.unlinkedWithin m = some w := by
  induction n generalizing v w m with
  | zero =>
    cases v with
    | scalar s => cases m <;> exact h
    | _ => cases h
  | succ n ih =>
    obtain ⟨m, rfl⟩ : ∃ k, m = k + 1 := ⟨m - 1, by omega⟩
    rw [unlinkedWithin_succ] at h ⊢
    cases hcollection : v.collection? with
    | none => rwa [hcollection] at h
    | some c =>
      rw [hcollection] at h
      -- what the collection holds succeeds with the lesser depth, so both depths agree about it
      have hmembers : ∀ a ∈ c.members, a.unlinkedWithin n = a.unlinkedWithin m := by
        have hsome : (c.mapM (unlinkedWithin n)).isSome = true := by
          cases hc : c.mapM (unlinkedWithin n) with
          | none => simp [hc] at h
          | some d => rfl
        intro a ha
        obtain ⟨b, hb⟩ := Option.isSome_iff_exists.1 (Collection.mapM_isSome_iff.1 hsome a ha)
        rw [hb, ih hb (by omega)]
      dsimp only
      rwa [← Collection.mapM_congr hmembers]

/-- What ends within a depth ends within any greater one. -/
theorem unlinkedWithin_isSome_mono (h : (v.unlinkedWithin n).isSome = true) (hle : n ≤ m) :
    (v.unlinkedWithin m).isSome = true := by
  obtain ⟨w, hw⟩ := Option.isSome_iff_exists.1 h
  rw [unlinkedWithin_mono hw hle]
  rfl

/-- Some depth suffices for all values of a list, if one suffices for each. -/
theorem exists_depth {vs : List Value} (h : ∀ v ∈ vs, ∃ n, (v.unlinkedWithin n).isSome = true) :
    ∃ n, ∀ v ∈ vs, (v.unlinkedWithin n).isSome = true := by
  induction vs with
  | nil => exact ⟨0, by simp⟩
  | cons v vs ih =>
    obtain ⟨⟨n, hn⟩, hrest⟩ := List.forall_mem_cons.1 h
    obtain ⟨m, hm⟩ := ih hrest
    refine ⟨max n m, List.forall_mem_cons.2 ⟨?_, fun v hv => ?_⟩⟩
    · exact unlinkedWithin_isSome_mono hn (le_max_left n m)
    · exact unlinkedWithin_isSome_mono (hm v hv) (le_max_right n m)

/-- A depth suffices for a value exactly if it has an end. -/
theorem ends_iff_exists_depth : v.Ends ↔ ∃ n, (v.unlinkedWithin n).isSome = true := by
  constructor
  · intro h
    induction h with
    | @of_members v _ ih =>
      cases hcollection : v.collection? with
      | none => exact ⟨0, unlinkedWithin_zero_isSome_iff.2 hcollection⟩
      | some c =>
        obtain ⟨n, hn⟩ := exists_depth (ih c hcollection)
        refine ⟨n + 1, unlinkedWithin_succ_isSome_iff.2 fun d hd => ?_⟩
        obtain rfl := Option.some.inj (hcollection.symm.trans hd)
        exact hn
  · rintro ⟨n, hn⟩
    induction n generalizing v with
    | zero =>
      refine .of_members fun c hc => ?_
      rw [unlinkedWithin_zero_isSome_iff.1 hn] at hc
      cases hc
    | succ n ih =>
      exact .of_members fun c hc a ha => ih (unlinkedWithin_succ_isSome_iff.1 hn c hc a ha)

/-! ## Webs -/

section Webs

variable {web : Web} {place : Nat}

/-- The places of a web for which a depth suffices after the first step. -/
def ended (web : Web) (n : Nat) : Finset Nat :=
  (Finset.range web.size).filter fun place => ((linked web place).unlinkedWithin (n + 1)).isSome

theorem mem_ended : place ∈ ended web n ↔
    place < web.size ∧ ((linked web place).unlinkedWithin (n + 1)).isSome = true := by
  rw [ended, Finset.mem_filter, Finset.mem_range]

/-- Where there is nothing in a web, there is an end. -/
theorem unlinkedWithin_linked_of_size_le (h : web.size ≤ place) (n : Nat) :
    ((linked web place).unlinkedWithin (n + 1)).isSome = true := by
  refine unlinkedWithin_succ_isSome_iff.2 fun c hc => ?_
  rw [collection?, Web.cell, Array.getElem?_eq_none h] at hc
  obtain rfl := Option.some.inj hc
  exact List.forall_mem_nil _

/-- The deeper the look, the more collections have ended. -/
theorem ended_mono (web : Web) : Monotone (ended web) := by
  intro n m hle place hplace
  rw [mem_ended] at hplace ⊢
  exact ⟨hplace.1, unlinkedWithin_isSome_mono hplace.2 (Nat.succ_le_succ hle)⟩

/-- If one more step leads to no more places, neither does another. -/
theorem ended_succ (h : ended web n = ended web (n + 1)) : ended web (n + 1) = ended web (n + 2) := by
  have hpart (part : Part) : ((ofPart web part).unlinkedWithin (n + 1)).isSome = true ↔
      ((ofPart web part).unlinkedWithin (n + 2)).isSome = true := by
    cases part with
    | scalar s => exact iff_of_true rfl rfl
    | link place =>
      by_cases hplace : place < web.size
      · have hmem : place ∈ ended web n ↔ place ∈ ended web (n + 1) := by rw [h]
        simp only [mem_ended, hplace, true_and] at hmem
        exact hmem
      · have hbeyond := unlinkedWithin_linked_of_size_le (not_lt.1 hplace)
        exact iff_of_true (hbeyond n) (hbeyond (n + 1))
  ext place
  rw [mem_ended, mem_ended, unlinkedWithin_succ_isSome_iff (n := n + 1),
    unlinkedWithin_succ_isSome_iff (n := n + 2)]
  simp only [collection?, Option.some.injEq, forall_eq', Collection.members_map, List.forall_mem_map, hpart]

/-- A way through a web that comes to an end meets no place twice, so it takes no more steps than there are
places, and perhaps one to where there is nothing. -/
theorem unlinkedWithin_linked_size (h : ((linked web place).unlinkedWithin n).isSome = true) :
    ((linked web place).unlinkedWithin (web.size + 1)).isSome = true := by
  by_cases hplace : place < web.size
  · -- the places that have been reached grow until they stay the same, after as many steps as there are
    -- places at the latest
    have hcard (n : Nat) : (ended web n).card ≤ web.size := by
      have hfilter := Finset.card_filter_le (Finset.range web.size)
        fun place => ((linked web place).unlinkedWithin (n + 1)).isSome
      rwa [Finset.card_range] at hfilter
    have hgrows : Monotone fun n => (ended web n).card :=
      fun n m hle => Finset.card_le_card (ended_mono web hle)
    have hstays (n : Nat) (hn : (ended web n).card = (ended web (n + 1)).card) :
        (ended web (n + 1)).card = (ended web (n + 2)).card := by
      rw [ended_succ (Finset.eq_of_subset_of_card_le (ended_mono web (Nat.le_succ n)) hn.ge)]
    have hstable := Nat.stabilises_of_monotone hgrows hcard hstays (le_max_right n web.size)
    have hsame := Finset.eq_of_subset_of_card_le (ended_mono web (le_max_right n web.size)) hstable.le
    have hmem : place ∈ ended web (max n web.size) :=
      mem_ended.2 ⟨hplace, unlinkedWithin_isSome_mono h (by omega)⟩
    rw [← hsame] at hmem
    exact (mem_ended.1 hmem).2
  · exact unlinkedWithin_linked_of_size_le (not_lt.1 hplace) web.size

end Webs

/-! ## Nesting -/

/-- Items are nested as deep as the deepest of them. -/
theorem nestingOfAll_le_iff {items : List Value} :
    nestingOfAll items ≤ n ↔ ∀ v ∈ items, v.nesting ≤ n := by
  induction items with
  | nil => simp [nestingOfAll]
  | cons v items ih => rw [nestingOfAll, max_le_iff, ih, List.forall_mem_cons]

/-- So are the values of a mapping. -/
theorem nestingOfEntries_le_iff {es : Entries} :
    nestingOfEntries es ≤ n ↔ ∀ e ∈ es, e.2.nesting ≤ n := by
  induction es with
  | nil => simp [nestingOfEntries]
  | cons e es ih => rw [nestingOfEntries, max_le_iff, ih, List.forall_mem_cons]

/-- If any depth suffices for a value, its nesting does. -/
theorem unlinkedWithin_nesting (h : (v.unlinkedWithin n).isSome = true) :
    (v.unlinkedWithin v.nesting).isSome = true := by
  induction n generalizing v with
  | zero =>
    exact unlinkedWithin_isSome_mono h (Nat.zero_le _)
  | succ n ih =>
    -- what a collection holds is nested less deeply than the collection, links apart
    have hinside {d : Nat} {c : Collection Value} (hc : v.collection? = some c)
        (hle : ∀ a ∈ c.members, a.nesting ≤ d) : (v.unlinkedWithin (d + 1)).isSome = true := by
      refine unlinkedWithin_succ_isSome_iff.2 fun e he a ha => ?_
      obtain rfl := Option.some.inj (hc.symm.trans he)
      exact unlinkedWithin_isSome_mono (ih (unlinkedWithin_succ_isSome_iff.1 h c hc a ha)) (hle a ha)
    cases v with
    | scalar s => rfl
    | list items => exact hinside rfl (nestingOfAll_le_iff.1 le_rfl)
    | pair first second =>
      refine hinside rfl (List.forall_mem_cons.2 ⟨le_max_left _ _, ?_⟩)
      exact List.forall_mem_singleton.2 (le_max_right _ _)
    | set keys => exact hinside rfl (List.forall_mem_nil _)
    | dict es =>
      refine hinside rfl fun a ha => ?_
      obtain ⟨e, he, rfl⟩ := List.mem_map.1 ha
      exact nestingOfEntries_le_iff.1 le_rfl e he
    | linked web place => exact unlinkedWithin_linked_size h

/-- A value has a form without links exactly if it has an end. -/
theorem unlinked?_isSome_iff : v.unlinked?.isSome = true ↔ v.Ends := by
  rw [ends_iff_exists_depth]
  constructor
  · exact fun h => ⟨v.nesting, h⟩
  · rintro ⟨n, hn⟩
    exact unlinkedWithin_nesting hn

/-- A list that is its own only item has no end. One that holds another list twice has. -/
example : (linked #[.list [.link 0]] 0).unlinked? = none ∧
    (linked #[.list [.link 1, .link 1], .list []] 0).unlinked? = some (.list [.list [], .list []]) :=
  ⟨rfl, rfl⟩

/-! ## Values that have no links -/

/-- A collection whose members are their own forms without links is so too. -/
theorem unlinkedWithin_ofCollection {c : Collection Value}
    (h : ∀ a ∈ c.members, a.unlinkedWithin n = some a) :
    (ofCollection c).unlinkedWithin (n + 1) = some (ofCollection c) := by
  have hcollection : (ofCollection c).collection? = some c := by cases c <;> rfl
  rw [unlinkedWithin_succ, hcollection]
  dsimp only
  rw [Collection.mapM_congr h, Collection.mapM_some]
  rfl

/-- Within the depth of its nesting a value that has no links is its own form. -/
theorem unlinkedWithin_of_isJson (h : v.isJson = true) (hn : v.nesting ≤ n) :
    v.unlinkedWithin n = some v := by
  -- the induction is on the levels that are left: what a collection holds has one less than it
  induction n generalizing v with
  | zero =>
    cases v with
    | scalar s => rfl
    | list | dict => cases hn
    | pair | set | linked => cases h
  | succ n ih =>
    cases v with
    | scalar s => rfl
    | list items =>
      have hitems := nestingOfAll_le_iff.1 (Nat.le_of_succ_le_succ hn)
      exact unlinkedWithin_ofCollection (c := .list items) fun a ha =>
        ih (allJson_iff.1 h a ha) (hitems a ha)
    | dict es =>
      have hentries := nestingOfEntries_le_iff.1 (Nat.le_of_succ_le_succ hn)
      refine unlinkedWithin_ofCollection (c := .dict es) fun a ha => ?_
      obtain ⟨e, he, rfl⟩ := List.mem_map.1 ha
      exact ih ((entriesJson_iff.1 h).2.2 e he) (hentries e he)
    | pair | set | linked => cases h

/-- A value that a text of a data format without links stands for is its own form without links. -/
theorem unlinked?_of_isJson (h : v.isJson = true) : v.unlinked? = some v :=
  unlinkedWithin_of_isJson h le_rfl

end Value

end Cyclomatic
