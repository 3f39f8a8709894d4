import DecisionFirewall.Engine.Evidence

/-!
# The Risk Model

`model.py`: a logistic regression over the features of a case. The engine uses what `assess`
returns and nothing else of a model.

- §1 parameters
- §2 assessments
- §3 documents

Training is left out.
-/

namespace DecisionFirewall.Engine

open EngineFloat (lit sub mul div add)

section Model

variable {F : Type} [EngineFloat F]

/-! ## §1 Parameters -/

/-- `LogisticRiskModel`, with one mean, scale and weight for each feature. -/
structure LogisticRiskModel (F : Type) where
  version : String
  means : List F
  scales : List F
  weights : List F
  intercept : F

/-- A factor of an assessment. -/
structure FactorRow (F : Type) where
  feature : String
  contribution : F
  value : F

/-- `ModelAssessment`. -/
structure ModelAssessment (F : Type) where
  compromiseProbability : F
  modelVersion : String
  topPositiveFactors : List (FactorRow F)
  topNegativeFactors : List (FactorRow F)
  featureValues : Values F
  featureTrace : Values (List String)

/-! ## §2 Assessments -/

/-- `np.clip(x, -30.0, 30.0)`. -/
def clip (x : F) : F :=
  if EngineFloat.lt x (lit (-30)) then lit (-30)
  else if EngineFloat.lt (lit 30) x then lit 30
  else x

/-- `_sigmoid(x)`. -/
def sigmoid (x : F) : F := div (lit 1) (add (lit 1) (EngineFloat.exp (EngineFloat.neg (clip x))))

/-- The standardized and weighted features. -/
def contributions (model : LogisticRiskModel F) (features : Values F) : List F :=
  let z := List.zipWith div (List.zipWith sub (vectorize features) model.means) model.scales
  List.zipWith mul z model.weights

/-- The probability of `predict_probability(features)`. -/
def predictProbability (model : LogisticRiskModel F) (features : Values F) : Checked F :=
  match EngineFloat.fsum (contributions model features) with
  | some total => .ok (sigmoid (add total model.intercept))
  | none => .error .overflowError

/-- The factors of a case, in the order of the features. -/
def factorRows (model : LogisticRiskModel F) (features : Values F) : List (FactorRow F) :=
  List.zipWith (fun name contribution =>
    ⟨name, EngineFloat.round6 contribution,
      EngineFloat.round6 ((features.lookup name).getD (lit 0))⟩)
    FEATURE_NAMES (contributions model features)

/-- The five largest contributions that are positive. -/
def topPositive (rows : List (FactorRow F)) : List (FactorRow F) :=
  ((rows.filter fun row => EngineFloat.lt (lit 0) row.contribution).mergeSort fun a b =>
    !EngineFloat.lt a.contribution b.contribution).take 5

/-- The five smallest contributions that are negative. -/
def topNegative (rows : List (FactorRow F)) : List (FactorRow F) :=
  ((rows.filter fun row => EngineFloat.lt row.contribution (lit 0)).mergeSort fun a b =>
    !EngineFloat.lt b.contribution a.contribution).take 5

/-- `assess(case)`. -/
def LogisticRiskModel.assess (lib : Library) (model : LogisticRiskModel F) (case : IdentityCase) :
    Checked (ModelAssessment F) := do
  let x : Extraction F ← extractFeatures lib case
  let probability ← predictProbability model x.values
  let rows := factorRows model x.values
  return {
    compromiseProbability := EngineFloat.round8 probability
    modelVersion := model.version
    topPositiveFactors := topPositive rows
    topNegativeFactors := topNegative rows
    featureValues := x.values.map fun entry => (entry.1, EngineFloat.round6 entry.2)
    featureTrace := x.trace }

/-! ## §3 Documents -/

def FactorRow.toJson (row : FactorRow F) : Json :=
  .obj [("feature", .str row.feature), ("contribution", EngineFloat.toJson row.contribution),
    ("value", EngineFloat.toJson row.value)]

/-- `to_dict()`. -/
def ModelAssessment.toDict (m : ModelAssessment F) : Dict :=
  [("compromise_probability", EngineFloat.toJson m.compromiseProbability),
    ("model_version", .str m.modelVersion),
    ("top_positive_factors", .arr (m.topPositiveFactors.map FactorRow.toJson)),
    ("top_negative_factors", .arr (m.topNegativeFactors.map FactorRow.toJson)),
    ("feature_values", .obj (m.featureValues.map fun entry =>
      (entry.1, EngineFloat.toJson entry.2))),
    ("feature_trace", .obj (m.featureTrace.map fun entry => (entry.1, texts entry.2)))]

end Model

end DecisionFirewall.Engine
