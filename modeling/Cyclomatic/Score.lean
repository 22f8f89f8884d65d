import Cyclomatic.Settings
import Cyclomatic.Value.Arithmetic
import Cyclomatic.Analysis
import Cyclomatic.Language.Detection

/-!
# Scores

A score between 1 and 10 says how much review a piece of code needs. Complexity and size are each
placed in bands between four thresholds, and the weighted sum of the two is rounded. Scores are
computed on any scale, so that they can be studied on the rational numbers.
-/

namespace Cyclomatic

/-- Thresholds that divide a scale into five bands. -/
structure Bands (α : Type) where
  low : α
  moderate : α
  high : α
  veryHigh : α

namespace Bands

variable {α : Type}

/-- The bands of a list of four thresholds. -/
def ofList : List α → Except Fault (Bands α)
  | [low, moderate, high, veryHigh] => .ok ⟨low, moderate, high, veryHigh⟩
  | thresholds => .error (.thresholdCount thresholds.length)

variable [Scale α]

/-- Where a number lies between the ends of a band: 0 at the lower end and 1 at the upper. -/
def partOf (lower upper n : α) : Except Fault α := do
  Scale.div (← Scale.sub n lower) (← Scale.sub upper lower)

/-- The score of a complexity: up to 3 in the first band, 4 to 6 in the second, 7 or 8 in the third,
9 in the fourth and 10 above. -/
def ccnScore (b : Bands α) (n : α) : Except Fault Int := do
  if ← Scale.atMost n b.low then
    Scale.ceil (← Scale.mul (← Scale.div n b.low) (Scale.ofInt 3))
  else if ← Scale.atMost n b.moderate then
    return 4 + (← Scale.floor (← Scale.mul (← partOf b.low b.moderate n) (Scale.ofInt 2)))
  else if ← Scale.atMost n b.high then
    return 7 + (← Scale.floor (← partOf b.moderate b.high n))
  else if ← Scale.atMost n b.veryHigh then
    return 9
  else
    return 10

/-- The score of a size: up to 2 in the first band, 3 to 5 in the second, 6 to 8 in the third, 9 in
the fourth and 10 above. -/
def sizeScore (b : Bands α) (n : α) : Except Fault Int := do
  if ← Scale.atMost n b.low then
    Scale.ceil (← Scale.mul (← Scale.div n b.low) (Scale.ofInt 2))
  else if ← Scale.atMost n b.moderate then
    return 3 + (← Scale.floor (← Scale.mul (← partOf b.low b.moderate n) (Scale.ofInt 2)))
  else if ← Scale.atMost n b.high then
    return 6 + (← Scale.floor (← Scale.mul (← partOf b.moderate b.high n) (Scale.ofInt 2)))
  else if ← Scale.atMost n b.veryHigh then
    return 9
  else
    return 10

end Bands

/-! ## Scoring -/

/-- The rules of scoring. Thresholds that do not make bands are a fault, which arises when a score
needs them. -/
structure Rubric (α : Type) where
  ccnBands : Except Fault (Bands α)
  sizeBands : Except Fault (Bands α)
  ccnWeight : α
  sizeWeight : α

/-- A score with the measures behind it. -/
structure Score where
  score : Int
  ccn : Int
  nloc : Int
  functionCount : Int
  ccnScore : Int
  sizeScore : Int
deriving DecidableEq, Repr

/-- The nearest integer; a half goes up. -/
def roundHalfUp {α : Type} [Scale α] (x : α) : Except Fault Int := do
  Scale.floor (← Scale.add x Scale.half)

namespace Rubric

variable {α : Type} [Scale α]

/-- The score of a complexity. -/
def scoreCcn (r : Rubric α) (n : α) : Except Fault Int := do
  (← r.ccnBands).ccnScore n

/-- The score of a size. -/
def scoreSize (r : Rubric α) (n : α) : Except Fault Int := do
  (← r.sizeBands).sizeScore n

/-- The score of a number of functions with their total complexity and size. -/
def rate (r : Rubric α) (ccn nloc functionCount : Int) : Except Fault Score := do
  let ccnScore ← r.scoreCcn (Scale.ofInt ccn)
  let sizeScore ← r.scoreSize (Scale.ofInt nloc)
  let weighted ← Scale.add (← Scale.mul (Scale.ofInt ccnScore) r.ccnWeight)
    (← Scale.mul (Scale.ofInt sizeScore) r.sizeWeight)
  let score := max 1 (min 10 (← roundHalfUp weighted))
  return { score, ccn, nloc, functionCount, ccnScore, sizeScore }

/-- The score of an analysis. -/
def score (r : Rubric α) (a : Analysis) : Except Fault Score :=
  r.rate a.totalCcn a.nloc a.functionCount

end Rubric

/-! ## Scoring by settings -/

/-- The bands that a value describes. -/
def Bands.ofValue (v : Value) : Except Fault (Bands Value) :=
  match v.items? with
  | some items => ofList items
  | none => .error (.kind (.notUnpackable v))

namespace ScoringSettings

/-- The rubric of scoring settings. -/
def rubric (s : ScoringSettings) : Rubric Value :=
  { ccnBands := Bands.ofValue s.ccnThresholds
    sizeBands := Bands.ofValue s.nlocThresholds
    ccnWeight := s.ccnWeight
    sizeWeight := s.sizeWeight }

/-- The score of a source text in the language of its file name. -/
def scoreSource (s : ScoringSettings) (filename source : String) : Except Fault Score := do
  let language ← Language.ofFile [] filename
  s.rubric.score (Analysis.ofSource language filename source).1

/-- Whether a score reaches a threshold, by default that of the settings. -/
def reaches (s : ScoringSettings) (score : Value) (threshold : Option Value) :
    Except Fault Bool :=
  (threshold.getD s.showThreshold).atMost ">=" score

end ScoringSettings

/-- The scoring settings of a section. A value that counts as false stands for the defaults, and any
other value has no thresholds. -/
def Section.scoring : Section ScoringSettings → Except Fault ScoringSettings
  | known s => .ok s
  | raw v =>
    if v.isTruthy then .error (.kind (.noMember v "ccn_thresholds")) else .ok {}

/-! ## Levels -/

/-- A level of complexity. -/
inductive Level where
  | low
  | medium
  | high
  | veryHigh
deriving DecidableEq, Repr

namespace Level

/-- The name of a level. -/
def name : Level → String
  | low => "Low"
  | medium => "Medium"
  | high => "High"
  | veryHigh => "Very High"

/-- The level of a score. -/
def ofScore (score : Int) : Level :=
  if score ≤ 3 then low else if score ≤ 6 then medium else if score ≤ 8 then high else veryHigh

/-- The level of a score on any scale, which need not be a whole number. -/
def onScale {α : Type} [Scale α] (score : α) : Except Fault Level := do
  if ← Scale.atMost score (Scale.ofInt 3) then return low
  else if ← Scale.atMost score (Scale.ofInt 6) then return medium
  else if ← Scale.atMost score (Scale.ofInt 8) then return high
  else return veryHigh

end Level

end Cyclomatic
