import Mathlib
import Cyclomatic.Score

/-!
# Scores on the rational numbers

On the rational numbers, the scores of a complexity and of a size are grades of one kind
(`Bands.grade`): a number of steps up to the first threshold, one step and then a number of further steps
in each of the next two bands, and one step at each of the last two thresholds. A grade is at most the
last score of a band exactly if the number is at most the threshold where the band ends, so the bands fit
together, and grades are monotone (`Bands.grade_mono`). The weighted, rounded and clamped sum of two
grades is monotone with them (`ScoringSettings.scores_banded`).
-/

namespace Cyclomatic

/-! ## Exact readings -/

/-- The rational number that a number is; none for infinity and for what is no number. -/
def Number.rational? : Number → Option Rat
  | int n => some n
  | real x =>
    match Binary64.view x with
    | .finite negative mantissa exponent =>
      some ((if negative then -1 else 1) * mantissa * 2 ^ exponent)
    | _ => none

/-- The rational number that a value is, if any. -/
def Value.rational? (v : Value) : Option Rat :=
  v.number?.bind Number.rational?

namespace Bands

variable {α β : Type}

/-- The bands with each threshold changed. -/
def map (f : α → β) (b : Bands α) : Bands β :=
  ⟨f b.low, f b.moderate, f b.high, f b.veryHigh⟩

/-- The bands with each threshold changed, if that can be done. -/
def mapM? (f : α → Option β) (b : Bands α) : Option (Bands β) := do
  return ⟨← f b.low, ← f b.moderate, ← f b.high, ← f b.veryHigh⟩

/-- Bands whose numbers can all be converted can be converted. -/
theorem mapM?_map {γ : Type} {f : α → β} {g : β → Option γ} {k : α → γ}
    (h : ∀ a, g (f a) = some (k a)) (b : Bands α) : (b.map f).mapM? g = some (b.map k) := by
  simp [map, mapM?, h]

/-- Thresholds above zero, each above the one before it. -/
structure Rising {α : Type} [LT α] [Zero α] (b : Bands α) : Prop where
  low_pos : 0 < b.low
  low_lt : b.low < b.moderate
  moderate_lt : b.moderate < b.high
  high_lt : b.high < b.veryHigh

/-- The thresholds as rational numbers. -/
def rational (b : Bands Int) : Bands Rat :=
  b.map (↑)

/-- Rising thresholds rise on the rational numbers. -/
theorem Rising.rational {b : Bands Int} (h : b.Rising) : b.rational.Rising where
  low_pos := Int.cast_pos.2 h.low_pos
  low_lt := Int.cast_lt.2 h.low_lt
  moderate_lt := Int.cast_lt.2 h.moderate_lt
  high_lt := Int.cast_lt.2 h.high_lt

end Bands

/-- The rubric of scoring settings on the rational numbers, if the thresholds and weights have places
there. -/
def ScoringSettings.exactRubric? (s : ScoringSettings) : Option (Rubric Rat) := do
  let ccnBands ← s.rubric.ccnBands.toOption.bind (Bands.mapM? Value.rational?)
  let sizeBands ← s.rubric.sizeBands.toOption.bind (Bands.mapM? Value.rational?)
  return ⟨.ok ccnBands, .ok sizeBands, ← s.ccnWeight.rational?, ← s.sizeWeight.rational?⟩

/-! ## Grades -/

theorem ratCeil_eq (x : Rat) : x.ceil = ⌈x⌉ :=
  eq_of_forall_ge_iff fun k => by rw [Rat.ceil_le_iff, Int.ceil_le]

/-- Where a rational number lies between two others: 0 at the lower and 1 at the upper. -/
def position (lower upper n : Rat) : Rat :=
  (n - lower) / (upper - lower)

section Position

variable {lower upper m n : Rat}

/-- The position between two thresholds grows with the number. -/
theorem position_mono (h : lower < upper) (hmn : m ≤ n) :
    position lower upper m ≤ position lower upper n :=
  div_le_div_of_nonneg_right (sub_le_sub_right hmn lower) (sub_pos.2 h).le

/-- It is not negative from the lower threshold on. -/
theorem position_nonneg (h : lower < upper) (hn : lower ≤ n) : 0 ≤ position lower upper n :=
  div_nonneg (sub_nonneg.2 hn) (sub_pos.2 h).le

/-- It is at most 1 up to the upper threshold. -/
theorem position_le_one (h : lower < upper) (hn : n ≤ upper) : position lower upper n ≤ 1 :=
  (div_le_one (sub_pos.2 h)).2 (sub_le_sub_right hn lower)

/-- Within a band no step is below the first and none above the last. -/
theorem floor_position_mem (h : lower < upper) (hlow : lower ≤ n) (hup : n ≤ upper) (steps : Nat) :
    0 ≤ ⌊position lower upper n * steps⌋ ∧ ⌊position lower upper n * steps⌋ ≤ steps := by
  have hsteps : (0 : Rat) ≤ steps := Nat.cast_nonneg steps
  constructor
  · exact Int.floor_nonneg.2 (mul_nonneg (position_nonneg h hlow) hsteps)
  · refine Int.floor_le_iff.2 (lt_of_le_of_lt ?_ (lt_add_one _))
    exact mul_le_of_le_one_left hsteps (position_le_one h hup)

/-- The number of whole steps grows with the number. -/
theorem floor_position_mono (h : lower < upper) (hmn : m ≤ n) (steps : Nat) :
    ⌊position lower upper m * steps⌋ ≤ ⌊position lower upper n * steps⌋ :=
  Int.floor_le_floor (mul_le_mul_of_nonneg_right (position_mono h hmn) (Nat.cast_nonneg steps))

end Position

namespace Bands

/-- A grade: up to `p` in the first band, `q` steps above that in the second, `r` in the third, and one
score for each of the last two. -/
def grade (b : Bands Rat) (p q r : Nat) (n : Rat) : Int :=
  if n ≤ b.low then ⌈n / b.low * p⌉
  else if n ≤ b.moderate then p + 1 + ⌊position b.low b.moderate n * q⌋
  else if n ≤ b.high then p + q + 2 + ⌊position b.moderate b.high n * r⌋
  else if n ≤ b.veryHigh then p + q + r + 3
  else p + q + r + 4

variable {b : Bands Rat} {m n : Rat}

/-- On rational numbers a part of a band is the position in it. -/
theorem partOf_eq {lower upper : Rat} (h : lower < upper) (n : Rat) :
    partOf lower upper n = .ok (position lower upper n) := by
  have hdiv : Scale.div (n - lower) (upper - lower) = .ok (position lower upper n) :=
    if_neg (sub_pos.2 h).ne'
  exact hdiv

/-- The score of a complexity is a grade. -/
theorem Rising.ccnScore_eq (h : b.Rising) (n : Rat) : b.ccnScore n = .ok (b.grade 3 2 1 n) := by
  have hdiv : Scale.div n b.low = .ok (n / b.low) := if_neg h.low_pos.ne'
  rw [ccnScore, grade, partOf_eq h.low_lt, partOf_eq h.moderate_lt, hdiv]
  change (if decide (n ≤ b.low) then _ else if decide (n ≤ b.moderate) then _ else
    if decide (n ≤ b.high) then _ else if decide (n ≤ b.veryHigh) then _ else _) = _
  simp only [decide_eq_true_eq]
  split_ifs
  · exact congrArg _ (ratCeil_eq _)
  · rfl
  · rw [Nat.cast_one, mul_one]
    rfl
  · rfl
  · rfl

/-- The score of a size is a grade. -/
theorem Rising.sizeScore_eq (h : b.Rising) (n : Rat) : b.sizeScore n = .ok (b.grade 2 2 2 n) := by
  have hdiv : Scale.div n b.low = .ok (n / b.low) := if_neg h.low_pos.ne'
  rw [sizeScore, grade, partOf_eq h.low_lt, partOf_eq h.moderate_lt, hdiv]
  change (if decide (n ≤ b.low) then _ else if decide (n ≤ b.moderate) then _ else
    if decide (n ≤ b.high) then _ else if decide (n ≤ b.veryHigh) then _ else _) = _
  simp only [decide_eq_true_eq]
  split_ifs
  · exact congrArg _ (ratCeil_eq _)
  · rfl
  · rfl
  · rfl
  · rfl

/-! ### Grades at the thresholds -/

variable {p q r : Nat}

/-- Up to the first threshold, the first steps are not passed. -/
theorem Rising.ceil_le (h : b.Rising) (hn : n ≤ b.low) (p : Nat) : ⌈n / b.low * p⌉ ≤ p := by
  refine Int.ceil_le.2 ?_
  exact mul_le_of_le_one_left (Nat.cast_nonneg p) ((div_le_one h.low_pos).2 hn)

/-- The bands fit together: a grade is at most the last score of a band exactly if the number is at most the
threshold where the band ends. -/
theorem Rising.grade_le_iff (h : b.Rising) (p q r : Nat) (n : Rat) :
    (b.grade p q r n ≤ p ↔ n ≤ b.low) ∧ (b.grade p q r n ≤ p + q + 1 ↔ n ≤ b.moderate) ∧
      (b.grade p q r n ≤ p + q + r + 2 ↔ n ≤ b.high) ∧
      (b.grade p q r n ≤ p + q + r + 3 ↔ n ≤ b.veryHigh) := by
  have hlow_lt := h.low_lt
  have hmoderate_lt := h.moderate_lt
  have hhigh_lt := h.high_lt
  rw [grade]
  split_ifs with hlow hmoderate hhigh hveryHigh
  · have hceil := h.ceil_le hlow p
    have hn : n ≤ b.moderate ∧ n ≤ b.high ∧ n ≤ b.veryHigh :=
      ⟨by linarith, by linarith, by linarith⟩
    simp only [hlow, hn, iff_true]
    omega
  · have hfloor := floor_position_mem h.low_lt (not_le.1 hlow).le hmoderate q
    have hn : n ≤ b.high ∧ n ≤ b.veryHigh := ⟨by linarith, by linarith⟩
    simp only [hlow, hmoderate, hn, iff_true, iff_false]
    omega
  · have hfloor := floor_position_mem h.moderate_lt (not_le.1 hmoderate).le hhigh r
    have hn : n ≤ b.veryHigh := by linarith
    simp only [hlow, hmoderate, hhigh, hn, iff_true, iff_false]
    omega
  · simp only [hlow, hmoderate, hhigh, hveryHigh, iff_true, iff_false]
    omega
  · simp only [hlow, hmoderate, hhigh, hveryHigh, iff_false]
    omega

/-- No grade is above the last. -/
theorem Rising.grade_le (h : b.Rising) (p q r : Nat) (n : Rat) :
    b.grade p q r n ≤ p + q + r + 4 := by
  by_cases hn : n ≤ b.veryHigh
  · have := (h.grade_le_iff p q r n).2.2.2.2 hn
    omega
  · have hlow : ¬n ≤ b.low := by linarith [h.low_lt, h.moderate_lt, h.high_lt]
    have hmoderate : ¬n ≤ b.moderate := by linarith [h.moderate_lt, h.high_lt]
    have hhigh : ¬n ≤ b.high := by linarith [h.high_lt]
    rw [grade, if_neg hlow, if_neg hmoderate, if_neg hhigh, if_neg hn]

/-- A grade of what is not negative is not negative, and that of what is positive is positive. -/
theorem Rising.grade_pos (h : b.Rising) (hp : 0 < p) (hn : 0 < n) : 0 < b.grade p q r n := by
  by_cases hlow : n ≤ b.low
  · rw [grade, if_pos hlow]
    exact Int.ceil_pos.2 (mul_pos (div_pos hn h.low_pos) (Nat.cast_pos.2 hp))
  · have := (h.grade_le_iff p q r n).1.not.2 hlow
    omega

/-- Grades are not negative. -/
theorem Rising.grade_nonneg (h : b.Rising) (hn : 0 ≤ n) : 0 ≤ b.grade p q r n := by
  by_cases hlow : n ≤ b.low
  · rw [grade, if_pos hlow]
    exact Int.ceil_nonneg (mul_nonneg (div_nonneg hn h.low_pos.le) (Nat.cast_nonneg p))
  · have := (h.grade_le_iff p q r n).1.not.2 hlow
    omega

/-- If a threshold lies between two numbers, it lies between their grades. -/
theorem lt_of_separated {α : Type} [Preorder α] {f : α → Int} {t m n : α} {last : Int}
    (hm : f m ≤ last ↔ m ≤ t) (hn : f n ≤ last ↔ n ≤ t) (hmn : m ≤ n) (h : ¬(m ≤ t ↔ n ≤ t)) :
    f m < f n := by
  have hmt : m ≤ t := by
    by_contra hmt
    exact h (iff_of_false hmt fun hnt => hmt (hmn.trans hnt))
  have hnt : ¬n ≤ t := fun hnt => h (iff_of_true hmt hnt)
  exact lt_of_le_of_lt (hm.2 hmt) (not_le.1 (hn.not.2 hnt))

/-- Grades are monotone: numbers of one band have the same formula, and between numbers of different bands
lies a threshold. -/
theorem Rising.grade_mono (h : b.Rising) (p q r : Nat) : Monotone (b.grade p q r) := by
  intro m n hmn
  obtain ⟨hlow, hmoderate, hhigh, hveryHigh⟩ := h.grade_le_iff p q r m
  obtain ⟨hlow', hmoderate', hhigh', hveryHigh'⟩ := h.grade_le_iff p q r n
  by_cases h₁ : m ≤ b.low ↔ n ≤ b.low
  case neg => exact (lt_of_separated hlow hlow' hmn h₁).le
  by_cases h₂ : m ≤ b.moderate ↔ n ≤ b.moderate
  case neg => exact (lt_of_separated hmoderate hmoderate' hmn h₂).le
  by_cases h₃ : m ≤ b.high ↔ n ≤ b.high
  case neg => exact (lt_of_separated hhigh hhigh' hmn h₃).le
  by_cases h₄ : m ≤ b.veryHigh ↔ n ≤ b.veryHigh
  case neg => exact (lt_of_separated hveryHigh hveryHigh' hmn h₄).le
  simp only [grade, h₁, h₂, h₃, h₄]
  split_ifs
  · refine Int.ceil_le_ceil (mul_le_mul_of_nonneg_right ?_ (Nat.cast_nonneg p))
    exact div_le_div_of_nonneg_right hmn h.low_pos.le
  · exact add_le_add_right (floor_position_mono h.low_lt hmn q) _
  · exact add_le_add_right (floor_position_mono h.moderate_lt hmn r) _
  · exact le_rfl
  · exact le_rfl

/-- The score `k` of a number `n` lies in the range of its band. The last two bands have one score each. -/
structure Places (b : Bands Int) (low moderate high : Set Int) (n k : Int) : Prop where
  low : n ≤ b.low → k ∈ low
  moderate : b.low < n → n ≤ b.moderate → k ∈ moderate
  high : b.moderate < n → n ≤ b.high → k ∈ high
  veryHigh : b.high < n → n ≤ b.veryHigh → k = 9
  above : b.veryHigh < n → k = 10

/-- Where grades lie, if the last is 10. -/
theorem Rising.places {b : Bands Int} (h : b.Rising) {p q r : Nat} (hsteps : p + q + r = 6)
    {n first : Int} (hfirst : first ≤ b.rational.grade p q r n) :
    b.Places (Set.Icc first p) (Set.Icc (p + 1) (p + q + 1)) (Set.Icc (p + q + 2) 8) n
      (b.rational.grade p q r n) := by
  have hle := h.rational.grade_le p q r n
  obtain ⟨hlow, hmoderate, hhigh, hveryHigh⟩ := h.rational.grade_le_iff p q r n
  change _ ↔ (n : Rat) ≤ (b.low : Rat) at hlow
  change _ ↔ (n : Rat) ≤ (b.moderate : Rat) at hmoderate
  change _ ↔ (n : Rat) ≤ (b.high : Rat) at hhigh
  change _ ↔ (n : Rat) ≤ (b.veryHigh : Rat) at hveryHigh
  rw [Int.cast_le] at hlow hmoderate hhigh hveryHigh
  exact ⟨fun hn => ⟨hfirst, hlow.2 hn⟩, fun hn hn' => ⟨by omega, hmoderate.2 hn'⟩,
    fun hn hn' => ⟨by omega, by omega⟩, fun hn hn' => by omega, fun hn => by omega⟩

end Bands

/-! ## Scores -/

/-- The score of two grades with their weights. -/
def weighted (v w : Rat) (k l : Int) : Int :=
  max 1 (min 10 ⌊k * v + l * w + 1 / 2⌋)

/-- A weighted score lies between 1 and 10. -/
theorem weighted_mem (v w : Rat) (k l : Int) : weighted v w k l ∈ Set.Icc 1 10 :=
  ⟨le_max_left _ _, max_le (by decide) (min_le_left _ _)⟩

/-- A weighted score grows with both of its parts. -/
theorem weighted_mono {v w : Rat} (hv : 0 ≤ v) (hw : 0 ≤ w) {k k' l l' : Int} (hk : k ≤ k')
    (hl : l ≤ l') : weighted v w k l ≤ weighted v w k' l' := by
  refine max_le_max le_rfl (min_le_min le_rfl (Int.floor_le_floor ?_))
  have hk' : (k : Rat) ≤ k' := Int.cast_le.2 hk
  have hl' : (l : Rat) ≤ l' := Int.cast_le.2 hl
  gcongr

/-- Rating rounds the weighted sum of the two scores. -/
theorem Rubric.rate_eq {r : Rubric Rat} {ccn nloc k l : Int} (hk : r.scoreCcn ccn = .ok k)
    (hl : r.scoreSize nloc = .ok l) (functionCount : Int) :
    r.rate ccn nloc functionCount = .ok
      { score := weighted r.ccnWeight r.sizeWeight k l, ccn, nloc, functionCount, ccnScore := k,
        sizeScore := l } := by
  change (r.scoreCcn ccn >>= fun k => r.scoreSize nloc >>= fun l => _) = _
  rw [hk, hl]
  rfl

namespace ScoringSettings

variable {s : ScoringSettings} {c z : Bands Int} {v w : Rat}

/-- A rubric can be read on the rational numbers if its thresholds and weights can. -/
theorem exactRubric?_eq (hccn : s.rubric.ccnBands = .ok (c.map Value.int))
    (hsize : s.rubric.sizeBands = .ok (z.map Value.int)) (hv : s.ccnWeight.rational? = some v)
    (hw : s.sizeWeight.rational? = some w) :
    s.exactRubric? = some ⟨.ok c.rational, .ok z.rational, v, w⟩ := by
  have hint (b : Bands Int) : (b.map Value.int).mapM? Value.rational? = some b.rational :=
    Bands.mapM?_map (fun _ => rfl) b
  simp [exactRubric?, hccn, hsize, hv, hw, hint, Except.toOption]

/-- For rising integer thresholds and weights that are not negative, every score lies in the range of the
band of its number, and scores never decrease as the numbers increase; a score of code lies between 1 and
10. -/
theorem scores_banded (hccn : s.rubric.ccnBands = .ok (c.map Value.int)) (hc : c.Rising)
    (hsize : s.rubric.sizeBands = .ok (z.map Value.int)) (hz : z.Rising)
    (hv : s.ccnWeight.rational? = some v) (hv0 : 0 ≤ v)
    (hw : s.sizeWeight.rational? = some w) (hw0 : 0 ≤ w) :
    ∃ (r : Rubric Rat) (ccnScore sizeScore : Int → Int) (score : Analysis → Score),
      s.exactRubric? = some r ∧
      (∀ n : Int, r.scoreCcn n = .ok (ccnScore n)) ∧ (∀ n : Int, r.scoreSize n = .ok (sizeScore n)) ∧
      (∀ a, r.score a = .ok (score a)) ∧
      (∀ n, 1 ≤ n → c.Places (Set.Icc 1 3) (Set.Icc 4 6) (Set.Icc 7 8) n (ccnScore n)) ∧
      (∀ n, 0 ≤ n → z.Places (Set.Icc 0 2) (Set.Icc 3 5) (Set.Icc 6 8) n (sizeScore n)) ∧
      Monotone ccnScore ∧ Monotone sizeScore ∧
      (∀ a, (score a).score ∈ Set.Icc 1 10) ∧
      ∀ a b : Analysis, a.totalCcn ≤ b.totalCcn → a.nloc ≤ b.nloc →
        (score a).score ≤ (score b).score := by
  let r : Rubric Rat := ⟨.ok c.rational, .ok z.rational, v, w⟩
  let ccnScore (n : Int) : Int := c.rational.grade 3 2 1 n
  let sizeScore (n : Int) : Int := z.rational.grade 2 2 2 n
  have hccnMono : Monotone ccnScore := fun m n hmn => hc.rational.grade_mono 3 2 1 (Int.cast_le.2 hmn)
  have hsizeMono : Monotone sizeScore := fun m n hmn => hz.rational.grade_mono 2 2 2 (Int.cast_le.2 hmn)
  have hccnScore (n : Int) : r.scoreCcn n = .ok (ccnScore n) := hc.rational.ccnScore_eq n
  have hsizeScore (n : Int) : r.scoreSize n = .ok (sizeScore n) := hz.rational.sizeScore_eq n
  refine ⟨r, ccnScore, sizeScore, fun a =>
    { score := weighted v w (ccnScore a.totalCcn) (sizeScore a.nloc)
      ccn := a.totalCcn, nloc := a.nloc, functionCount := a.functionCount
      ccnScore := ccnScore a.totalCcn, sizeScore := sizeScore a.nloc },
    exactRubric?_eq hccn hsize hv hw, hccnScore, hsizeScore,
    fun a => Rubric.rate_eq (hccnScore a.totalCcn) (hsizeScore a.nloc) a.functionCount,
    fun n hn => ?_, fun n hn => ?_, hccnMono, hsizeMono, fun a => weighted_mem .., fun a b hccn hnloc => ?_⟩
  · refine hc.places (p := 3) (q := 2) (r := 1) rfl ?_
    exact hc.rational.grade_pos (by decide) (Int.cast_pos.2 hn)
  · refine hz.places (p := 2) (q := 2) (r := 2) rfl ?_
    exact hz.rational.grade_nonneg (Int.cast_nonneg hn)
  · exact weighted_mono hv0 hw0 (hccnMono hccn) (hsizeMono hnloc)

/-- The weight 0.7 is the nearest number with 53 binary digits. -/
theorem rational?_ccnWeight :
    ({} : ScoringSettings).ccnWeight.rational? = some (6305039478318694 / 2 ^ 53) := by
  have hview : Binary64.view 0.7 = .finite false 6305039478318694 (-53) := by decide +kernel
  simp [Value.rational?, Value.number?, Scalar.number?, Number.rational?, hview, div_eq_mul_inv]

/-- So is the weight 0.3. -/
theorem rational?_sizeWeight :
    ({} : ScoringSettings).sizeWeight.rational? = some (5404319552844595 / 2 ^ 54) := by
  have hview : Binary64.view 0.3 = .finite false 5404319552844595 (-54) := by decide +kernel
  simp [Value.rational?, Value.number?, Scalar.number?, Number.rational?, hview, div_eq_mul_inv]

/-- The default settings, with a complexity right above a threshold and a size right at one. -/
theorem scores_banded_default :
    (⟨5, 10, 15, 20⟩ : Bands Int).Rising ∧ (⟨20, 50, 100, 200⟩ : Bands Int).Rising ∧
      ∃ r : Rubric Rat, ({} : ScoringSettings).exactRubric? = some r ∧
        (∃ k ∈ Set.Icc 7 8, r.scoreCcn (11 : Int) = .ok k) ∧ r.scoreSize (200 : Int) = .ok 9 ∧
        ∃ score larger, r.score ⟨11, 200, 0, 10, [], none, "", .aggregate⟩ = .ok score ∧
          r.score ⟨12, 201, 0, 11, [], none, "", .aggregate⟩ = .ok larger ∧
          1 ≤ score.score ∧ score.score ≤ larger.score ∧ larger.score ≤ 10 := by
  have hc : (⟨5, 10, 15, 20⟩ : Bands Int).Rising := ⟨by decide, by decide, by decide, by decide⟩
  have hz : (⟨20, 50, 100, 200⟩ : Bands Int).Rising := ⟨by decide, by decide, by decide, by decide⟩
  obtain ⟨r, ccnScore, sizeScore, score, hr, hccn, hsize, hscore, hplaces, hplaces', -, -, hmem, hmono⟩ :=
    scores_banded (s := {}) rfl hc rfl hz rational?_ccnWeight (by positivity) rational?_sizeWeight
      (by positivity)
  refine ⟨hc, hz, r, hr, ⟨_, (hplaces 11 (by decide)).high (by decide) (by decide), hccn 11⟩, ?_,
    _, _, hscore _, hscore _, (hmem _).1, hmono _ _ (by decide) (by decide), (hmem _).2⟩
  rw [hsize, (hplaces' 200 (by decide)).veryHigh (by decide) (by decide)]

end ScoringSettings

end Cyclomatic
