import DecisionFirewall.Phase3.Policy
import DecisionFirewall.Lib.Tally

/-!
# Consequence Assessment

`assess_consequence` of `phase3/consequence.py`: every input is read from the policy and
its inventory, none from the request but the requested parameters.

- §1 the score and the level
- §2 human approval
- §3 the assessment
- §4 no approval required
-/

namespace DecisionFirewall.Phase3

open Lib.Tally

variable {F : Type}

/-- What `assess_consequence` is given. -/
structure ConsequenceInputs (F : Type) where
  target : TargetRecord
  actionPolicy : ActionPolicy
  rules : ConsequencePolicy F
  parameters : ActionParameters

namespace ConsequenceInputs

variable [PyFloat F] (inputs : ConsequenceInputs F)

/-! ## §1 The score and the level -/

def effectiveDuration : Int :=
  min inputs.parameters.durationSeconds inputs.actionPolicy.maximumDurationSeconds

def downtime : Int :=
  max inputs.target.estimatedDowntimeMinutes
    (PyFloat.ceil (PyFloat.div (PyFloat.ofInt inputs.effectiveDuration)
      (PyFloat.ofInt 60 : F)))

def dependencyPressure : F :=
  PyFloat.min (PyFloat.ofInt 1)
    (PyFloat.ratio inputs.target.dependencies.length inputs.rules.dependencyReferenceCount)

def downtimePressure : F :=
  PyFloat.min (PyFloat.ofInt 1)
    (PyFloat.ratio inputs.downtime inputs.rules.downtimeReferenceMinutes)

/-- The weighted factors, added from the left. -/
def weightedSum : F :=
  let w := inputs.rules.factorWeights
  let t := inputs.target
  [PyFloat.mul w.blastRadius (inputs.rules.blastRadiusWeights t.blastRadius),
    PyFloat.mul w.downtime inputs.downtimePressure,
    PyFloat.mul w.missionImpact (inputs.rules.impactWeights t.missionImpact),
    PyFloat.mul w.safetyImpact (inputs.rules.impactWeights t.safetyImpact),
    PyFloat.mul w.availabilityImpact (inputs.rules.impactWeights t.availabilityImpact),
    PyFloat.mul w.dependency inputs.dependencyPressure,
    PyFloat.mul w.isolationConsequence
      (inputs.rules.impactWeights t.isolationConsequence)].foldl PyFloat.add
    (PyFloat.mul w.criticality (inputs.rules.criticalityWeights t.criticality))

def rawScore : F :=
  if inputs.actionPolicy.reversible then inputs.weightedSum
  else PyFloat.add inputs.weightedSum inputs.rules.irreversiblePenalty

def score : F :=
  PyFloat.round6 (PyFloat.min (PyFloat.ofInt 1) (PyFloat.max (PyFloat.ofInt 0) inputs.rawScore))

def level : ConsequenceLevel :=
  if PyFloat.ge inputs.score inputs.rules.criticalThreshold then .critical
  else if PyFloat.ge inputs.score inputs.rules.highThreshold then .high
  else if PyFloat.ge inputs.score (PyFloat.ratio 1 4) then .medium
  else .low

/-! ## §2 Human approval -/

/-- A cataloged dependency with service- or enterprise-scale blast radius can propagate
beyond the named target. -/
def cascading : Bool :=
  inputs.target.dependencies ≠ [] &&
    (inputs.target.blastRadius = .service || inputs.target.blastRadius = .enterprise)

/-- `human_approval`. -/
def HumanApproval : Prop :=
  inputs.target.humanApprovalRequired = true ∨
    inputs.target.criticality ∈ inputs.actionPolicy.humanApprovalCriticalities ∨
    inputs.level ∈ inputs.rules.approvalLevels ∨
    inputs.target.isolationConsequence ∈ inputs.rules.approvalIsolationConsequences ∨
    inputs.target.missionImpact ∈ inputs.rules.approvalMissionImpacts ∨
    inputs.target.safetyImpact ∈ inputs.rules.approvalSafetyImpacts ∨
    inputs.target.availabilityImpact ∈ inputs.rules.approvalAvailabilityImpacts ∨
    inputs.target.blastRadius ∈ inputs.rules.approvalBlastRadii ∨
    inputs.rules.approvalDowntimeMinutes ≤ inputs.downtime ∨
    inputs.cascading = true ∧ inputs.rules.cascadingRequiresApproval = true

instance decidableHumanApproval : Decidable inputs.HumanApproval :=
  inferInstanceAs (Decidable (_ ∨ _))

/-! ## §3 The assessment -/

def reasons : List String :=
  flag (inputs.target.criticality = .tier0) "PROTECTED_ASSET" ++
    flag ("AUTHENTICATION_SERVICE" ∈ inputs.target.dependencies)
      "AUTHENTICATION_SERVICE_DEPENDENCY" ++
    flag (inputs.cascading = true) "CASCADING_EFFECT_POSSIBLE" ++
    flag (inputs.level = .high ∨ inputs.level = .critical) "HIGH_OPERATIONAL_CONSEQUENCE" ++
    flag (inputs.target.isolationConsequence = .high ∨
      inputs.target.isolationConsequence = .critical) "HIGH_ISOLATION_CONSEQUENCE" ++
    flag inputs.HumanApproval "HUMAN_APPROVAL_REQUIRED" ++
    [if inputs.actionPolicy.reversible then "REVERSIBLE_ACTION" else "IRREVERSIBLE_ACTION"]

end ConsequenceInputs

/-- `assess_consequence(…)`. -/
def assessConsequence [PyFloat F] (inputs : ConsequenceInputs F) : ConsequenceAssessment F where
  score := inputs.score
  level := inputs.level
  reversible := inputs.actionPolicy.reversible
  blastRadius := inputs.target.blastRadius
  downtimeMinutes := inputs.downtime
  privilegeImpact := if inputs.target.criticality = .high ∨ inputs.target.criticality = .tier0
    then "HIGH" else "MEDIUM"
  missionImpact := inputs.target.missionImpact
  safetyImpact := inputs.target.safetyImpact
  availabilityImpact := inputs.target.availabilityImpact
  dependencyCount := inputs.target.dependencies.length
  cascadingEffectPossible := inputs.cascading
  humanApprovalRequired := inputs.HumanApproval
  reasonCodes := inputs.reasons

/-! ## §4 No approval required -/

/-- What an action has that needs no human approval under an accepted policy. -/
structure Unattended [PyFloat F] (inputs : ConsequenceInputs F) : Prop where
  criticality : inputs.target.criticality ≠ .high ∧ inputs.target.criticality ≠ .tier0
  level : inputs.level ≠ .high ∧ inputs.level ≠ .critical
  isolation : inputs.target.isolationConsequence ≠ .high ∧
    inputs.target.isolationConsequence ≠ .critical
  mission : inputs.target.missionImpact ≠ .critical
  safety : inputs.target.safetyImpact ≠ .high
  availability : inputs.target.availabilityImpact ≠ .critical
  blast : inputs.target.blastRadius ≠ .enterprise
  downtime : inputs.downtime < inputs.rules.approvalDowntimeMinutes
  cascading : inputs.cascading = false

theorem unattended_of_not_humanApproval [PyFloat F] (inputs : ConsequenceInputs F)
    (hrules : inputs.rules.Accepted) (haction : inputs.actionPolicy.Accepted)
    (h : ¬ inputs.HumanApproval) : Unattended inputs := by
  simp only [ConsequenceInputs.HumanApproval, not_or, not_and, not_le] at h
  obtain ⟨-, hcriticality, hlevel, hisolation, hmission, hsafety, havailability, hblast, hdowntime,
    hcascading⟩ := h
  -- a value of an approval list is not the value at hand
  have hne : ∀ {α : Type} {l : List α} {x y : α}, x ∉ l → y ∈ l → x ≠ y := by
    intro α l x y hx hy hxy
    exact hx (hxy ▸ hy)
  obtain ⟨hhigh, htier0, -⟩ := haction.approvalCriticalities
  exact {
    criticality := ⟨hne hcriticality hhigh, hne hcriticality htier0⟩
    level := ⟨hne hlevel hrules.approvalLevels.1, hne hlevel hrules.approvalLevels.2⟩
    isolation := ⟨hne hisolation hrules.approvalIsolation.1,
      hne hisolation hrules.approvalIsolation.2⟩
    mission := hne hmission hrules.approvalMission
    safety := hne hsafety hrules.approvalSafety
    availability := hne havailability hrules.approvalAvailability
    blast := hne hblast hrules.approvalBlast
    downtime := hdowntime
    cascading := by
      by_contra hcascade
      exact hcascading (Bool.not_eq_false _ |>.mp hcascade) hrules.cascading }

end DecisionFirewall.Phase3
