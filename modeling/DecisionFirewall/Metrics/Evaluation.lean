import DecisionFirewall.Lib.Rounding

/-!
# Evaluation Metrics

`phase31/metrics.py`, and the ROC AUC of `metrics.py`: the numbers that are reported of a list
of labels and a list of scores. The arithmetic is that of a field with an order; the functions
of `math` and the rounding of the report are those of a library.

- §1 validation
- §2 ROC AUC
- §3 average precision
- §4 calibration
- §5 the report
- §6 the curve of selective risk
-/

namespace DecisionFirewall.Metrics

/-- The functions that are not arithmetic: `math.log`, `math.sqrt` and `round(float(_), 8)`. -/
structure MathLibrary (K : Type) where
  log : K → K
  sqrt : K → K
  round : K → K

/-- The library over the real numbers. -/
noncomputable def MathLibrary.real : MathLibrary ℝ where
  log := Real.log
  sqrt := Real.sqrt
  round x := Lib.roundHalfEven (x * 10 ^ 8) / 10 ^ 8

section Functions

variable {K : Type} [Field K] [LinearOrder K] [IsStrictOrderedRing K]

/-! ## §1 Validation -/

/-- `str(exc)` of a `ValueError`. -/
abbrev ValueError := String

/-- `_validate(labels, scores)`; a score of the field is finite. -/
def validate (labels : List Int) (scores : List K) : Except ValueError Unit :=
  if labels.length ≠ scores.length ∨ labels = [] then
    .error "Labels and scores must be non-empty and aligned."
  else if ∃ label ∈ labels, label ≠ 0 ∧ label ≠ 1 then
    .error "Labels must be exact binary integers."
  else if ∃ score ∈ scores, ¬ (0 ≤ score ∧ score ≤ 1) then
    .error "Scores must be finite probabilities in [0, 1]."
  else .ok ()

/-- `_safe_div(numerator, denominator)`. -/
def safeDiv (numerator denominator : K) : K :=
  if denominator = 0 then 0 else numerator / denominator

/-! ## §2 ROC AUC -/

/-- `sorted(zip(scores, labels), key=lambda row: row[0])`. -/
def ascending (rows : List (K × Int)) : List (K × Int) :=
  rows.mergeSort fun a b => decide (a.1 ≤ b.1)

/-- The sum of the labels of some rows. -/
def labelSum (rows : List (K × Int)) : Int := (rows.map Prod.snd).sum

/-- The loop over the groups of equal scores, with the rows from `index` on. -/
def rankLoop (index : Nat) (rankSum : K) : List (K × Int) → K
  | [] => rankSum
  | row :: rest =>
    let tied := rest.takeWhile fun other => other.1 = row.1
    let stop := index + 1 + tied.length
    let averageRank : K := (index + 1 + stop : Nat) / 2
    rankLoop stop (rankSum + averageRank * labelSum (row :: tied))
      (rest.dropWhile fun other => other.1 = row.1)
termination_by rows => rows.length
decreasing_by
  exact Nat.lt_succ_of_le (List.length_dropWhile_le _ _)

/-- The rows of both classes in one number. -/
def rankStatistic (labels : List Int) (scores : List K) : K :=
  let positives := labels.sum
  let negatives := labels.length - positives
  if positives = 0 ∨ negatives = 0 then 0
  else
    (rankLoop 0 0 (ascending (scores.zip labels)) - positives * (positives + 1) / 2) /
      (positives * negatives)

/-- `_roc_auc(labels, scores)` of `metrics.py`. -/
def rocAucUnchecked (labels : List Int) (scores : List K) : K := rankStatistic labels scores

/-- `roc_auc(labels, scores)` of `phase31/metrics.py`. -/
def rocAuc (labels : List Int) (scores : List K) : Except ValueError K := do
  validate labels scores
  return rankStatistic labels scores

/-! ## §3 Average precision -/

/-- `sorted(zip(scores, labels), key=lambda row: row[0], reverse=True)`: rows with one score
keep their order. -/
def descending (rows : List (K × Int)) : List (K × Int) :=
  rows.mergeSort fun a b => decide (b.1 ≤ a.1)

/-- The loop over the rows, of which `rank` have been looked at. -/
def precisionLoop (rank truePositives : Nat) (precisionSum : K) : List (K × Int) → K
  | [] => precisionSum
  | (_, label) :: rest =>
    if label = 1 then
      precisionLoop (rank + 1) (truePositives + 1)
        (precisionSum + (truePositives + 1 : Nat) / (rank + 1 : Nat)) rest
    else precisionLoop (rank + 1) truePositives precisionSum rest

/-- `average_precision(labels, scores)`. -/
def averagePrecision (labels : List Int) (scores : List K) : Except ValueError K := do
  validate labels scores
  return if labels.sum = 0 then 0
    else precisionLoop 0 0 0 (descending (scores.zip labels)) / (labels.sum : K)

/-! ## §4 Calibration -/

/-- The score belongs to a bin. -/
def InBin (bins binIndex : Nat) (score : K) : Prop :=
  ((binIndex : K) / bins ≤ score ∧ score < (binIndex + 1 : Nat) / bins) ∨
    (binIndex = bins - 1 ∧ score = 1)

instance decidableInBin (bins binIndex : Nat) (score : K) : Decidable (InBin bins binIndex score) :=
  inferInstanceAs (Decidable (_ ∨ _))

/-- What one bin adds to the error. -/
def binError (bins total binIndex : Nat) (rows : List (K × Int)) : K :=
  let members := rows.filter fun row => InBin bins binIndex row.1
  if members = [] then 0
  else
    let confidence := (members.map Prod.fst).sum / members.length
    let observed := (labelSum members : K) / members.length
    members.length / total * |confidence - observed|

/-- `expected_calibration_error(labels, scores, bins=…)`. -/
def expectedCalibrationError (labels : List Int) (scores : List K) (bins : Int) :
    Except ValueError K := do
  validate labels scores
  if bins < 2 then .error "Calibration bins must be at least two."
  else
    return ((List.range bins.toNat).map fun binIndex =>
      binError bins.toNat labels.length binIndex (scores.zip labels)).sum

/-! ## §5 The report -/

section Report

variable (lib : MathLibrary K)

/-- `wilson_interval(successes, total)`. -/
def wilsonInterval (successes total : Nat) : K × K :=
  if total = 0 then (0, 0)
  else
    let z : K := 1959963984540054 / 1000000000000000
    let proportion : K := successes / total
    let denominator := 1 + z * z / total
    let center := (proportion + z * z / (2 * total)) / denominator
    let margin := z * lib.sqrt (proportion * (1 - proportion) / total +
      z * z / (4 * total * total)) / denominator
    (lib.round (max 0 (center - margin)), lib.round (min 1 (center + margin)))

/-- `binary_metrics(…)`. -/
structure BinaryMetrics (K : Type) where
  count : Nat
  positives : Int
  negatives : Int
  threshold : K
  rocAuc : K
  averagePrecision : K
  brierScore : K
  logLoss : K
  expectedCalibrationError : K
  accuracy : K
  precision : K
  recallRate : K
  f1 : K
  falsePositiveRate : K
  tp : Nat
  tn : Nat
  fp : Nat
  fn : Nat
  precisionCi95Wilson : K × K
  recallCi95Wilson : K × K
  falsePositiveRateCi95Wilson : K × K

/-- How many rows have this truth and this prediction. -/
def outcomes (threshold : K) (rows : List (K × Int)) (truth prediction : Int) : Nat :=
  rows.countP fun row => row.2 = truth ∧ (if threshold ≤ row.1 then 1 else 0) = prediction

/-- The terms of the Brier score. -/
def squaredError (row : K × Int) : K := (row.1 - row.2) ^ 2

/-- The terms of the log loss. -/
def logTerm (row : K × Int) : K :=
  row.2 * lib.log (max row.1 (1 / 1000000000000)) +
    (1 - row.2) * lib.log (max (1 - row.1) (1 / 1000000000000))

/-- `binary_metrics(labels, scores, threshold=…, calibration_bins=…)`. -/
def binaryMetrics (labels : List Int) (scores : List K) (threshold : K) (calibrationBins : Int) :
    Except ValueError (BinaryMetrics K) := do
  validate labels scores
  let rows := scores.zip labels
  let tp := outcomes threshold rows 1 1
  let tn := outcomes threshold rows 0 0
  let fp := outcomes threshold rows 0 1
  let fn := outcomes threshold rows 1 0
  let precision : K := safeDiv tp (tp + fp)
  let recallRate : K := safeDiv tp (tp + fn)
  let falsePositiveRate : K := safeDiv fp (fp + tn)
  let brier := (rows.map squaredError).sum / labels.length
  let logLoss := -(rows.map (logTerm lib)).sum / labels.length
  let auc ← rocAuc labels scores
  let average ← averagePrecision labels scores
  let calibration ← expectedCalibrationError labels scores calibrationBins
  return {
    count := labels.length
    positives := labels.sum
    negatives := labels.length - labels.sum
    threshold := threshold
    rocAuc := lib.round auc
    averagePrecision := lib.round average
    brierScore := lib.round brier
    logLoss := lib.round logLoss
    expectedCalibrationError := lib.round calibration
    accuracy := lib.round (safeDiv (tp + tn) labels.length)
    precision := lib.round precision
    recallRate := lib.round recallRate
    f1 := lib.round (safeDiv (2 * precision * recallRate) (precision + recallRate))
    falsePositiveRate := lib.round falsePositiveRate
    tp := tp
    tn := tn
    fp := fp
    fn := fn
    precisionCi95Wilson := wilsonInterval lib tp (tp + fp)
    recallCi95Wilson := wilsonInterval lib tp (tp + fn)
    falsePositiveRateCi95Wilson := wilsonInterval lib fp (fp + tn) }

/-! ## §6 The curve of selective risk -/

/-- One point of the curve. -/
structure RiskPoint (K : Type) where
  abstentionMargin : K
  selectedCount : Nat
  coverage : K
  selectiveRisk : K

/-- The point at one margin. -/
def riskPoint (labels : List Int) (scores : List K) (margin : K) : RiskPoint K :=
  let selected := (scores.zip labels).filter fun row => margin ≤ |row.1 - 1 / 2|
  let errors := selected.countP fun row => (if 1 / 2 ≤ row.1 then 1 else 0) ≠ row.2
  { abstentionMargin := margin
    selectedCount := selected.length
    coverage := lib.round (safeDiv selected.length labels.length)
    selectiveRisk := lib.round (safeDiv errors selected.length) }

/-- `selective_risk_curve(labels, scores, margins=…)`. -/
def selectiveRiskCurve (labels : List Int) (scores margins : List K) :
    Except ValueError (List (RiskPoint K)) := do
  validate labels scores
  return margins.map (riskPoint lib labels scores)

end Report

end Functions

end DecisionFirewall.Metrics
