import DecisionFirewall.Engine.Policy

/-!
# The Independent Verifier

`verifier.py`: the checks that a proposal has to pass, each on its own, without a look at how the
proposal came about.

- §1 checks
- §2 verification
- §3 what a proposal that passes satisfies
-/

namespace DecisionFirewall.Engine

open Lib (bind_eq_ok map_eq_ok)

/-! ## §1 Checks -/

/-- An entry of `checks`. -/
structure Check where
  check : String
  passed : Bool
  detail : String
  deriving DecidableEq, Repr

/-- `VerificationResult`. -/
structure VerificationResult where
  passed : Bool
  checks : List Check
  blockingReasons : List String
  deriving DecidableEq, Repr

def Check.toJson (c : Check) : Json :=
  .obj [("check", .str c.check), ("passed", .bool c.passed), ("detail", .str c.detail)]

/-- `to_dict()`. -/
def VerificationResult.toDict (v : VerificationResult) : Dict :=
  [("passed", .bool v.passed), ("checks", .arr (v.checks.map Check.toJson)),
    ("blocking_reasons", texts v.blockingReasons)]

/-- The result of these checks. -/
def VerificationResult.ofChecks (checks : List Check) : VerificationResult where
  passed := checks.all Check.passed
  checks := checks
  blockingReasons := (checks.filter fun c => !c.passed).map fun c => c.check ++ ": " ++ c.detail

theorem VerificationResult.passed_append {xs ys : List Check} :
    (VerificationResult.ofChecks (xs ++ ys)).passed = true ↔
      xs.all Check.passed = true ∧ ys.all Check.passed = true := by
  rw [VerificationResult.ofChecks, List.all_append, Bool.and_eq_true]

/-! ## §2 Verification -/

section Verification

variable (lib : Library) {F : Type} [EngineFloat F] (config : PolicyConfig)
variable (case : IdentityCase) (model : ModelAssessment F) (evidence : EvidenceAssessment F)
variable (proposal : DecisionProposal)

/-- The events that the trace of the model names. -/
def tracedIds : List String := model.featureTrace.flatMap Prod.snd

/-- The checks of every proposal. -/
def generalChecks (F : Type) [EngineFloat F] (case : IdentityCase) (probability : F)
    (traced : List String) (proposal : DecisionProposal) (autonomous humanOnly : List Json) :
    List Check :=
  [⟨"MODEL-PROBABILITY-RANGE",
      EngineFloat.le (EngineFloat.lit 0) probability && EngineFloat.le probability (EngineFloat.lit 1),
      "Probability must be within [0,1]."⟩,
    ⟨"TRACE-EVENTS-EXIST", proposal.evidenceEventIds.all (case.eventIds.contains ·),
      "All cited evidence IDs must exist in the case."⟩,
    ⟨"MODEL-FEATURE-TRACE", traced.all (case.eventIds.contains ·),
      "Every model feature trace must resolve to a case event."⟩,
    ⟨"NO-HUMAN-ONLY-EXECUTION", !meets F proposal.executableActions humanOnly,
      "Human-only actions cannot appear in the executable action set."⟩,
    ⟨"EXECUTABLE-ACTIONS-ALLOWLISTED", subsetOf F proposal.executableActions autonomous,
      "Executable actions must be on the autonomous allowlist."⟩]

/-- The action has an entry in the plan. -/
def hasRollback (plan : List (String × String)) (action : Json) : Bool :=
  match action with
  | .str name => (plan.map Prod.fst).contains name
  | _ => false

/-- The checks of a containment. -/
def containChecks : Checked (List Check) := do
  let threshold : F ← item config.thresholds "autonomous_containment_min_probability" >>= floatOf F
  let quality ← atLeast config.evidence "minimum_quality" evidence.evidenceQuality
  let provenance ← atLeast config.evidence "minimum_provenance_ratio" evidence.provenanceValidRatio
  let integrity ←
    atLeast config.evidence "minimum_integrity_verified_ratio" evidence.integrityVerifiedRatio
  let corroboration ← countAtLeast lib F config.evidence "minimum_independent_supporting_sources"
    evidence.independentSupportingSources
  let agreement ←
    countAtMost lib F config.evidence "maximum_conflicts_for_automation" evidence.conflictCount
  let boundary ← withinCriticality F config case
  return [
    ⟨"CONTAIN-RISK-THRESHOLD", EngineFloat.le threshold model.compromiseProbability,
      "Containment requires probability >= " ++ EngineFloat.format2 threshold ++ "."⟩,
    ⟨"CONTAIN-EVIDENCE-QUALITY", quality, "Evidence quality must meet the automation threshold."⟩,
    ⟨"CONTAIN-PROVENANCE", provenance, "Evidence provenance ratio is insufficient."⟩,
    ⟨"CONTAIN-INTEGRITY", integrity, "Evidence integrity ratio is insufficient."⟩,
    ⟨"CONTAIN-CORROBORATION", corroboration, "Independent source corroboration is insufficient."⟩,
    ⟨"CONTAIN-NO-CONFLICT", agreement, "Conflicting sources prohibit automation."⟩,
    ⟨"CONTAIN-NO-POISON", !evidence.poisonedEvidence,
      "Instructional or poisoned evidence prohibits automation."⟩,
    ⟨"CONTAIN-NOT-BREAK-GLASS", !case.breakGlass,
      "Break-glass identities require human authorization."⟩,
    ⟨"CONTAIN-ASSET-BOUNDARY", boundary, "Asset criticality exceeds the autonomous boundary."⟩,
    ⟨"CONTAIN-ROLLBACK", proposal.executableActions.all (hasRollback proposal.rollbackPlan),
      "Every autonomous action requires a rollback plan."⟩,
    ⟨"CONTAIN-ACTIONS-PRESENT", !proposal.executableActions.isEmpty,
      "Containment disposition requires at least one executable action."⟩]

/-- The check of any other proposal. -/
def executionCheck : Check :=
  ⟨"NON-CONTAIN-NO-EXECUTION", proposal.executableActions.isEmpty,
    "Non-containment dispositions cannot execute production actions."⟩

/-- The checks that depend on the disposition. -/
def specialChecks : Checked (List Check) :=
  if proposal.disposition = .containReversible
  then containChecks lib config case model evidence proposal
  else .ok [executionCheck proposal]

/-- `verify(case, model, evidence, proposal)`. -/
def verify : Checked VerificationResult := do
  let autonomous ← item config.authority "autonomous_actions" >>= listOf >>= setOf
  let humanOnly ← item config.authority "human_only_actions" >>= listOf >>= setOf
  let _ ← setOf proposal.executableActions
  let special ← specialChecks lib config case model evidence proposal
  return .ofChecks (generalChecks F case model.compromiseProbability (tracedIds model) proposal
    autonomous humanOnly ++ special)

end Verification

/-! ## §3 What a proposal that passes satisfies -/

section Passed

variable {lib : Library} {F : Type} [EngineFloat F] {config : PolicyConfig}
variable {case : IdentityCase} {model : ModelAssessment F} {evidence : EvidenceAssessment F}
variable {proposal : DecisionProposal} {verification : VerificationResult}

/-- An action that the engine may execute under a policy: it can be taken back, it is on the
autonomous list, and it is not reserved for humans. -/
structure Reversible (config : PolicyConfig) (action : Json) : Prop where
  rollback : ∃ name ∈ ROLLBACK_PLAN.map Prod.fst, action = .str name
  autonomous : ∃ actions, actionList config "autonomous_actions" = .ok actions ∧ action ∈ actions
  notReserved : ∃ actions, actionList config "human_only_actions" = .ok actions ∧ action ∉ actions

theorem setOf_eq_ok {values set : List Json} :
    setOf values = .ok set ↔ values.all hashable = true ∧ set = values := by
  unfold setOf
  split
  · rename_i h
    rw [Except.ok.injEq, eq_comm]
    exact ⟨fun heq => ⟨h, heq⟩, fun heq => heq.2⟩
  · rename_i h
    exact ⟨fun heq => (by cases heq), fun heq => absurd heq.1 h⟩

theorem hasRollback_iff {plan : List (String × String)} {action : Json} :
    hasRollback plan action = true ↔ ∃ name ∈ plan.map Prod.fst, action = .str name := by
  cases action with
  | str name =>
    show (plan.map Prod.fst).contains name = true ↔ _
    rw [List.contains_iff_mem]
    constructor
    · exact fun h => ⟨name, h, rfl⟩
    · rintro ⟨name', h, heq⟩
      cases heq
      exact h
  | null | bool | int | float | arr | obj =>
    exact ⟨fun h => (by cases h), fun ⟨_, _, h⟩ => (by cases h)⟩

/-- The lists that a verification reads. -/
theorem verify_eq_ok (h : verify lib config case model evidence proposal = .ok verification) :
    ∃ autonomous humanOnly special,
      actionList config "autonomous_actions" = .ok autonomous ∧ autonomous.all hashable = true ∧
      actionList config "human_only_actions" = .ok humanOnly ∧
      specialChecks lib config case model evidence proposal = .ok special ∧
      verification = .ofChecks (generalChecks F case model.compromiseProbability (tracedIds model)
        proposal autonomous humanOnly ++ special) := by
  obtain ⟨autonomous, hautonomous, h⟩ := bind_eq_ok.mp h
  obtain ⟨humanOnly, hhumanOnly, h⟩ := bind_eq_ok.mp h
  obtain ⟨-, -, h⟩ := bind_eq_ok.mp h
  obtain ⟨special, hspecial, h⟩ := bind_eq_ok.mp h
  obtain ⟨list, hlist, hset⟩ := bind_eq_ok.mp hautonomous
  obtain ⟨hhashable, rfl⟩ := setOf_eq_ok.mp hset
  obtain ⟨list', hlist', hset'⟩ := bind_eq_ok.mp hhumanOnly
  obtain ⟨-, rfl⟩ := setOf_eq_ok.mp hset'
  cases h
  exact ⟨_, _, special, hlist, hhashable, hlist', hspecial, rfl⟩

/-- What the checks of a containment read. -/
structure ContainReads (lib : Library) {F : Type} [EngineFloat F] (config : PolicyConfig)
    (case : IdentityCase) (model : ModelAssessment F) (evidence : EvidenceAssessment F)
    (proposal : DecisionProposal) (passed : Bool) : Prop where
  reads : ∃ risk quality provenance integrity corroboration agreement boundary : Bool,
    atLeast config.thresholds "autonomous_containment_min_probability"
      model.compromiseProbability = .ok risk ∧
    atLeast config.evidence "minimum_quality" evidence.evidenceQuality = .ok quality ∧
    atLeast config.evidence "minimum_provenance_ratio" evidence.provenanceValidRatio =
      .ok provenance ∧
    atLeast config.evidence "minimum_integrity_verified_ratio" evidence.integrityVerifiedRatio =
      .ok integrity ∧
    countAtLeast lib F config.evidence "minimum_independent_supporting_sources"
      evidence.independentSupportingSources = .ok corroboration ∧
    countAtMost lib F config.evidence "maximum_conflicts_for_automation" evidence.conflictCount =
      .ok agreement ∧
    withinCriticality F config case = .ok boundary ∧
    passed = (risk && quality && provenance && integrity && corroboration && agreement &&
      !evidence.poisonedEvidence && !case.breakGlass && boundary &&
        proposal.executableActions.all (hasRollback proposal.rollbackPlan) &&
          !proposal.executableActions.isEmpty)

theorem containReads_of_checks {checks : List Check}
    (h : containChecks lib config case model evidence proposal = .ok checks) :
    ContainReads lib config case model evidence proposal (checks.all Check.passed) := by
  obtain ⟨threshold, hthreshold, h⟩ := bind_eq_ok.mp h
  obtain ⟨quality, hquality, h⟩ := bind_eq_ok.mp h
  obtain ⟨provenance, hprovenance, h⟩ := bind_eq_ok.mp h
  obtain ⟨integrity, hintegrity, h⟩ := bind_eq_ok.mp h
  obtain ⟨corroboration, hcorroboration, h⟩ := bind_eq_ok.mp h
  obtain ⟨agreement, hagreement, h⟩ := bind_eq_ok.mp h
  obtain ⟨boundary, hboundary, h⟩ := bind_eq_ok.mp h
  cases h
  have hrisk : atLeast config.thresholds "autonomous_containment_min_probability"
      model.compromiseProbability = .ok (EngineFloat.le threshold model.compromiseProbability) :=
    map_eq_ok.mpr ⟨threshold, hthreshold, rfl⟩
  refine ⟨_, quality, provenance, integrity, corroboration, agreement, boundary, hrisk, hquality,
    hprovenance, hintegrity, hcorroboration, hagreement, hboundary, ?_⟩
  simp only [List.all_cons, List.all_nil, Bool.and_true, Bool.and_assoc]

end Passed

end DecisionFirewall.Engine
