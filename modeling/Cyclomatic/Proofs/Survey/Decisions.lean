import Mathlib
import Cyclomatic.Proofs.DecisionBalance
import Cyclomatic.Proofs.Survey.Order

/-!
# The decisions of extents

A decision belongs to the innermost function around it. For a function that has closed these are the
decisions strictly inside its extent that are inside no other extent within it (`Analysis.ownDecisions`).
While a function is open, a decision is its own if it comes after the opening and lies neither in a
function inside that has closed nor in one that is open (`Analysis.Owns`); when the function closes the
two agree (`Analysis.ownDecisions_close`).
-/

namespace Cyclomatic

open Recognizer

/-! ## Surveys of one step -/

namespace Survey

/-- The places where the open functions opened, innermost first. -/
def openings (v : Survey) : List Nat :=
  v.running.map (·.opening)

variable {table : DecisionTable} {v : Survey} {t : Token}

theorem openings_step (v : Survey) (table : DecisionTable) (t : Token) :
    (v.step table t).openings =
      (if v.pass.opens table t then v.place :: v.openings else v.openings).drop
        (v.pass.closedBy table t).length := by
  rw [openings, step, List.map_drop, map_opening_row]
  rfl

/-- A token that closes nothing adds no extent. -/
theorem extents_step_of_nil (hclosed : v.pass.closedBy table t = []) :
    (v.step table t).extents = v.extents := by
  simp [step, hclosed]

/-- A token that closes one function adds its extent. -/
theorem extents_step_of_singleton {f : FunctionMeasure} (hclosed : v.pass.closedBy table t = [f])
    (hopens : v.pass.opens table t = false) {opening : Nat} {rest : List Nat}
    (hopenings : v.openings = opening :: rest) :
    ∃ e : Extent, (v.step table t).extents = v.extents ++ [e] ∧ e.opening = opening ∧
      e.closing = v.place := by
  have hrow := map_opening_row v table t
  rw [hopens, if_neg (by simp), ← openings, hopenings] at hrow
  cases hcourses : v.row table t with
  | nil =>
    rw [hcourses] at hrow
    cases hrow
  | cons c courses =>
    rw [hcourses] at hrow
    refine ⟨c.until v.place, ?_, (List.cons.inj hrow).1, rfl⟩
    simp [step, hclosed, hcourses]

/-- The openings of a survey in order lie before its place, the outer ones before the inner ones. -/
theorem Ordered.openings (h : v.Ordered) :
    (∀ o ∈ v.openings, o < v.place) ∧ v.openings.Pairwise fun inner outer => outer < inner := by
  constructor
  · intro o ho
    obtain ⟨c, hc, rfl⟩ := List.mem_map.1 ho
    exact h.opened c hc
  · exact List.pairwise_map.2 h.nested

end Survey

/-! ## The decisions of an extent -/

/-- Whether a place lies strictly between the two ends of an extent. -/
def Extent.Inside (e : Extent) (place : Nat) : Prop :=
  e.opening < place ∧ place < e.closing

instance (e : Extent) (place : Nat) : Decidable (e.Inside place) :=
  inferInstanceAs (Decidable (_ ∧ _))

/-- Whether an extent lies strictly inside another. -/
def Extent.Within (inner outer : Extent) : Prop :=
  outer.opening < inner.opening ∧ inner.closing < outer.closing

instance (inner outer : Extent) : Decidable (inner.Within outer) :=
  inferInstanceAs (Decidable (_ ∧ _))

namespace Analysis

/-- Whether the token at a place is a decision. -/
def decidesAt (table : DecisionTable) (tokens : List Token) (place : Nat) : Bool :=
  tokens[place]?.any (isDecision table)

/-- The number of decisions strictly inside an extent that are not inside another extent within it. -/
def ownDecisions (table : DecisionTable) (tokens : List Token) (extents : List Extent) (e : Extent) : Nat :=
  (List.range e.closing).countP fun place =>
    decidesAt table tokens place && decide (e.Inside place ∧
      ∀ inner ∈ extents, inner.Within e → ¬ inner.Inside place)

/-- Extents that close no earlier have no part in the decisions of an extent. -/
theorem ownDecisions_append (table : DecisionTable) (tokens : List Token) {extents more : List Extent} {e : Extent}
    (h : ∀ f ∈ more, e.closing ≤ f.closing) :
    ownDecisions table tokens (extents ++ more) e = ownDecisions table tokens extents e := by
  unfold ownDecisions
  congr 1
  funext place
  congr 2
  rw [eq_iff_iff, and_congr_right_iff]
  intro _
  constructor
  · exact fun hall inner hinner => hall inner (List.mem_append_left _ hinner)
  · intro hall inner hinner hwithin
    rcases List.mem_append.1 hinner with hinner | hinner
    · exact hall inner hinner hwithin
    · have := h inner hinner
      have := hwithin.2
      omega

/-- Whether a place belongs to the open function with the given opening: it lies neither in a function
inside that has closed nor in one that is open. -/
def Owns (extents : List Extent) (openings : List Nat) (opening place : Nat) : Prop :=
  opening < place ∧ (∀ e ∈ extents, opening < e.opening → ¬ e.Inside place) ∧
    ∀ inner ∈ openings, opening < inner → ¬ inner < place

instance (extents : List Extent) (openings : List Nat) (opening place : Nat) :
    Decidable (Owns extents openings opening place) :=
  inferInstanceAs (Decidable (_ ∧ _ ∧ _))

/-- The decisions so far of the open function with the given opening. -/
def decisionsSoFar (table : DecisionTable) (tokens : List Token) (v : Survey) (opening : Nat) : Nat :=
  (List.range v.place).countP fun place =>
    decidesAt table tokens place && decide (Owns v.extents v.openings opening place)

variable {table : DecisionTable} {tokens : List Token} {v v' : Survey} {opening : Nat}

/-- One token more is one decision more, if it is one and belongs to the function. -/
theorem decisionsSoFar_succ (hplace : v'.place = v.place + 1)
    (hsame : ∀ place < v.place, Owns v'.extents v'.openings opening place ↔
      Owns v.extents v.openings opening place) :
    decisionsSoFar table tokens v' opening = decisionsSoFar table tokens v opening +
      (decidesAt table tokens v.place &&
        decide (Owns v'.extents v'.openings opening v.place)).toNat := by
  unfold decisionsSoFar
  rw [hplace, List.range_succ, List.countP_append]
  congr 1
  apply List.countP_congr
  intro place hmem
  rw [decide_eq_decide.2 (hsame place (List.mem_range.1 hmem))]

/-- Of the open functions only the innermost owns the next place. -/
theorem owns_place_iff (h : v.Ordered) {o : Nat} {rest : List Nat} (hv : v.openings = o :: rest) :
    Owns v.extents v.openings o v.place ∧
      ∀ outer ∈ rest, ¬ Owns v.extents v.openings outer v.place := by
  obtain ⟨hopened, hnested⟩ := h.openings
  rw [hv] at hopened hnested ⊢
  obtain ⟨hinner, _⟩ := List.pairwise_cons.1 hnested
  constructor
  · refine ⟨hopened o List.mem_cons_self, ?_, ?_⟩
    · intro e he _ hinside
      have := (h.closed e he).2
      have := hinside.2
      omega
    · intro inner hmem hlt
      rcases List.mem_cons.1 hmem with rfl | hmem
      · exact absurd hlt (lt_irrefl _)
      · have := hinner inner hmem
        omega
  · intro outer houter howns
    exact howns.2.2 o List.mem_cons_self (hinner outer houter) (hopened o List.mem_cons_self)

/-- Where nothing opens or closes, a decision belongs to the innermost open function. -/
theorem decisionsSoFar_stay (h : v.Ordered) (hplace : v'.place = v.place + 1)
    (hopenings : v'.openings = v.openings) (hextents : v'.extents = v.extents) :
    (v'.openings.map fun o => (decisionsSoFar table tokens v' o : Int)) =
      (v.openings.map fun o => (decisionsSoFar table tokens v o : Int)).modify 0
        (· + ((decidesAt table tokens v.place).toNat : Int)) := by
  have hcount (opening : Nat) : decisionsSoFar table tokens v' opening = decisionsSoFar table tokens v opening +
      (decidesAt table tokens v.place && decide (Owns v.extents v.openings opening v.place)).toNat := by
    rw [decisionsSoFar_succ hplace (by simp [hextents, hopenings]), hextents, hopenings]
  rw [hopenings]
  cases hv : v.openings with
  | nil => rfl
  | cons o rest =>
    obtain ⟨hfirst, hothers⟩ := owns_place_iff h hv
    simp only [List.map_cons, List.modify_zero_cons, List.cons.injEq]
    refine ⟨?_, ?_⟩
    · rw [hcount, decide_eq_true hfirst, Bool.and_true]
      push_cast
      rfl
    · apply List.map_congr_left
      intro outer houter
      rw [hcount, decide_eq_false (hothers outer houter), Bool.and_false]
      rfl

/-- A function that opens has no decisions yet, and takes none from the others. -/
theorem decisionsSoFar_open (hplace : v'.place = v.place + 1)
    (hopenings : v'.openings = v.place :: v.openings) (hextents : v'.extents = v.extents)
    (hnone : decidesAt table tokens v.place = false) :
    (v'.openings.map fun o => (decisionsSoFar table tokens v' o : Int)) =
      0 :: v.openings.map fun o => (decisionsSoFar table tokens v o : Int) := by
  rw [hopenings, List.map_cons]
  congr 1
  · -- no place so far lies after the opening
    have hzero : decisionsSoFar table tokens v' v.place = 0 := by
      rw [decisionsSoFar, List.countP_eq_zero]
      intro place hmem
      rw [List.mem_range, hplace] at hmem
      have hno : ¬ Owns v'.extents v'.openings v.place place := by
        intro howns
        have := howns.1
        omega
      simp [hno]
    rw [hzero]
    rfl
  · apply List.map_congr_left
    intro o _
    rw [decisionsSoFar_succ hplace, hnone]
    · rfl
    · intro place hlt
      rw [hextents, hopenings]
      unfold Owns
      rw [List.forall_mem_cons]
      constructor
      · rintro ⟨hopen, hclosed, _, hinner⟩
        exact ⟨hopen, hclosed, hinner⟩
      · rintro ⟨hopen, hclosed, hinner⟩
        exact ⟨hopen, hclosed, fun _ => by omega, hinner⟩

variable {e : Extent} {rest : List Nat}

/-- A function that closes keeps its decisions from those around it, as it did while it was open. -/
theorem decisionsSoFar_close (hplace : v'.place = v.place + 1) (hv : v.openings = e.opening :: rest)
    (hopenings : v'.openings = rest) (hextents : v'.extents = v.extents ++ [e])
    (hclosing : e.closing = v.place) (hnone : decidesAt table tokens v.place = false) :
    (v'.openings.map fun o => (decisionsSoFar table tokens v' o : Int)) =
      rest.map fun o => (decisionsSoFar table tokens v o : Int) := by
  rw [hopenings]
  apply List.map_congr_left
  intro o _
  rw [decisionsSoFar_succ hplace, hnone]
  · rfl
  · intro place hlt
    -- inside the extent is after its opening, as long as it is open
    have hsame : (o < e.opening → ¬ e.Inside place) ↔ (o < e.opening → ¬ e.opening < place) := by
      rw [Extent.Inside, hclosing]
      constructor
      · exact fun hno ho hplace => hno ho ⟨hplace, hlt⟩
      · exact fun hno ho hinside => hno ho hinside.1
    rw [hextents, hopenings, hv]
    unfold Owns
    rw [List.forall_mem_append, List.forall_mem_singleton, List.forall_mem_cons, hsame]
    tauto

/-- The decisions of a function that closes are those of its extent. -/
theorem ownDecisions_close (h : v.Ordered) (hv : v.openings = e.opening :: rest)
    (hextents : v'.extents = v.extents ++ [e]) (hclosing : e.closing = v.place) :
    ownDecisions table tokens v'.extents e = decisionsSoFar table tokens v e.opening := by
  obtain ⟨_, hnested⟩ := h.openings
  rw [hv] at hnested
  obtain ⟨hinner, _⟩ := List.pairwise_cons.1 hnested
  unfold decisionsSoFar ownDecisions
  rw [hclosing]
  apply List.countP_congr
  intro place hmem
  rw [List.mem_range] at hmem
  have hiff : (e.Inside place ∧ ∀ inner ∈ v'.extents, inner.Within e → ¬ inner.Inside place) ↔
      Owns v.extents v.openings e.opening place := by
    constructor
    · rintro ⟨⟨hopen, _⟩, hall⟩
      refine ⟨hopen, ?_, ?_⟩
      · intro f hf hlt
        refine hall f (by rw [hextents]; exact List.mem_append_left _ hf) ⟨hlt, ?_⟩
        rw [hclosing]
        exact (h.closed f hf).2
      · intro o ho hlt
        rw [hv] at ho
        rcases List.mem_cons.1 ho with rfl | ho
        · exact absurd hlt (lt_irrefl _)
        · have := hinner o ho
          omega
    · rintro ⟨hopen, hclosed, _⟩
      refine ⟨⟨hopen, by rw [hclosing]; exact hmem⟩, ?_⟩
      intro inner hmem hwithin
      rw [hextents] at hmem
      rcases List.mem_append.1 hmem with hmem | hmem
      · exact hclosed inner hmem hwithin.1
      · obtain rfl := List.mem_singleton.1 hmem
        exact absurd hwithin.2 (lt_irrefl _)
  rw [decide_eq_decide.2 hiff]

end Analysis

end Cyclomatic
