import DecisionFirewall.Engine.RiskModel
import DecisionFirewall.Lib.Prog

/-!
# The Policy Engine

`policy.py`: what a case, a model assessment and the evidence lead to under a policy. The policy
is a document that is read member by member when it is needed; nobody has checked it.

- §1 policies and proposals
- §2 conditions
- §3 proposals
- §4 what a proposal says about its case
-/

namespace DecisionFirewall.Engine

open Lib (sortBy bind_eq_ok map_eq_ok)

/-! ## §1 Policies and proposals -/

inductive Disposition where
  | noAction
  | investigate
  | containReversible
  | escalateHuman
  deriving DecidableEq, Repr

def Disposition.value : Disposition → String
  | .noAction => "NO_ACTION"
  | .investigate => "INVESTIGATE"
  | .containReversible => "CONTAIN_REVERSIBLE"
  | .escalateHuman => "ESCALATE_HUMAN"

/-- `PolicyConfig`. -/
structure PolicyConfig where
  policyId : Json
  version : Json
  thresholds : Dict
  evidence : Dict
  authority : Dict
  safety : Dict

/-- `DecisionProposal`. -/
structure DecisionProposal where
  disposition : Disposition
  executableActions : List Json
  recommendedHumanActions : List String
  investigationActions : List String
  rationale : List String
  policyRulesApplied : List String
  evidenceEventIds : List String
  requiredAuthority : String
  rollbackPlan : List (String × String)

/-- `to_dict()`. -/
def DecisionProposal.toDict (p : DecisionProposal) : Dict :=
  [("disposition", .str p.disposition.value),
    ("executable_actions", .arr p.executableActions),
    ("recommended_human_actions", texts p.recommendedHumanActions),
    ("investigation_actions", texts p.investigationActions),
    ("rationale", texts p.rationale),
    ("policy_rules_applied", texts p.policyRulesApplied),
    ("evidence_event_ids", texts p.evidenceEventIds),
    ("required_authority", .str p.requiredAuthority),
    ("rollback_plan", .obj (p.rollbackPlan.map fun entry => (entry.1, .str entry.2)))]

/-- `_investigate(rationale, rules, evidence_ids)`. -/
def investigate (rationale rules evidenceIds : List String) : DecisionProposal where
  disposition := .investigate
  executableActions := []
  recommendedHumanActions := []
  investigationActions :=
    ["query_identity_history", "query_endpoint_telemetry", "validate_change_and_travel_context"]
  rationale := rationale
  policyRulesApplied := rules
  evidenceEventIds := evidenceIds
  requiredAuthority := "read_only_automation"
  rollbackPlan := []

/-- The rollback plan of a containment. -/
def ROLLBACK_PLAN : List (String × String) :=
  [("revoke_active_sessions",
      "restore only through normal reauthentication; no session token is reinstated"),
    ("force_step_up_auth", "remove temporary step-up requirement after analyst review"),
    ("increase_monitoring", "return telemetry policy to baseline after closure")]

/-! ## §2 Conditions -/

section Conditions

variable (lib : Library) {F : Type} [EngineFloat F] (config : PolicyConfig)
variable (case : IdentityCase) (model : ModelAssessment F) (evidence : EvidenceAssessment F)

/-- `value >= float(mapping[name])`. -/
def atLeast (mapping : Dict) (name : String) (value : F) : Checked Bool :=
  (item mapping name >>= floatOf F).map fun bound => EngineFloat.le bound value

/-- `value <= float(mapping[name])`. -/
def atMost (mapping : Dict) (name : String) (value : F) : Checked Bool :=
  (item mapping name >>= floatOf F).map fun bound => EngineFloat.le value bound

/-- `value <= int(mapping[name])`. -/
def countAtMost (F : Type) [EngineFloat F] (mapping : Dict) (name : String) (value : Nat) :
    Checked Bool :=
  (item mapping name >>= intOf F lib).map fun bound => decide ((value : Int) ≤ bound)

/-- `value >= int(mapping[name])`. -/
def countAtLeast (F : Type) [EngineFloat F] (mapping : Dict) (name : String) (value : Nat) :
    Checked Bool :=
  (item mapping name >>= intOf F lib).map fun bound => decide (bound ≤ (value : Int))

/-- `bool(mapping[name])`. -/
def switch (F : Type) [EngineFloat F] (mapping : Dict) (name : String) : Checked Bool :=
  (item mapping name).map (truth F)

/-- `severe`. -/
def severe : Bool :=
  ["credential_dumping", "lateral_movement", "token_reuse", "oauth_grant"].any fun name =>
    EngineFloat.le (EngineFloat.lit 1) ((model.featureValues.lookup name).getD (EngineFloat.lit 0))

/-- `evidence_is_decision_grade`. -/
def evidenceIsDecisionGrade : Checked Bool :=
  andThen (atLeast config.evidence "minimum_quality" evidence.evidenceQuality) <|
  andThen (atLeast config.evidence "minimum_provenance_ratio" evidence.provenanceValidRatio) <|
  andThen (atLeast config.evidence "minimum_integrity_verified_ratio"
    evidence.integrityVerifiedRatio) <|
  andThen (countAtMost lib F config.evidence "maximum_conflicts_for_automation"
    evidence.conflictCount) <|
  andThen (countAtMost lib F config.evidence "maximum_missing_expected_sources_for_decision"
    evidence.missingExpectedSources.length) <|
  (switch F config.safety "poisoned_evidence_blocks_automation").map fun blocks =>
    !(blocks && evidence.poisonedEvidence)

/-- `evidence_is_automation_grade`. -/
def evidenceIsAutomationGrade (decisionGrade : Bool) : Checked Bool :=
  andThen (.ok decisionGrade) (countAtLeast lib F config.evidence
    "minimum_independent_supporting_sources" evidence.independentSupportingSources)

/-- `evidence.poisoned_evidence and bool(s["poisoned_evidence_blocks_automation"])`. -/
def poisonBlocks : Checked Bool :=
  andThen (.ok evidence.poisonedEvidence)
    (switch F config.safety "poisoned_evidence_blocks_automation")

variable (F) in
/-- `case.break_glass and bool(a["break_glass_requires_human"])`. -/
def breakGlassBlocks : Checked Bool :=
  andThen (.ok case.breakGlass) (switch F config.authority "break_glass_requires_human")

/-- The risk is too low for an action. -/
def belowNoAction : Checked Bool :=
  (atMost config.thresholds "no_action_max_probability" model.compromiseProbability).map fun low =>
    low && !severe model

variable (F) in
/-- `case.asset_criticality <= float(a["maximum_asset_criticality_for_automation"])`. -/
def withinCriticality : Checked Bool :=
  floatOf F case.assetCriticality >>= fun criticality =>
    atMost config.authority "maximum_asset_criticality_for_automation" criticality

/-- `can_auto_contain`. -/
def canAutoContain (automationGrade : Bool) : Checked Bool :=
  andThen (atLeast config.thresholds "autonomous_containment_min_probability"
      model.compromiseProbability) <|
    andThen (withinCriticality F config case) (.ok automationGrade)

/-- The risk, or a severe indicator, calls for a human. -/
def needsHuman : Checked Bool :=
  orElse (atLeast config.thresholds "human_escalation_min_probability" model.compromiseProbability)
    (.ok (severe model))

variable (F) in
/-- `case.asset_criticality > float(a["maximum_asset_criticality_for_automation"])`. -/
def beyondCriticality : Checked Bool :=
  floatOf F case.assetCriticality >>= fun criticality =>
    (item config.authority "maximum_asset_criticality_for_automation" >>= floatOf F).map fun bound =>
      EngineFloat.lt bound criticality

/-! ## §3 Proposals -/

/-- `f"{x:.3f}"` of the criticality. -/
def criticalityText (F : Type) [EngineFloat F] (case : IdentityCase) : Checked String :=
  (floatOf F case.assetCriticality).map EngineFloat.format3

/-- `evidence_ids`. -/
def evidenceIds : List String :=
  sortBy id (evidence.positiveEventIds ++ evidence.benignEventIds ++ evidence.poisonedEventIds).dedup

/-- The proposal for a poisoned case. -/
def poisonProposal : DecisionProposal :=
  investigate ["Adversarial or instructional content is present in an untrusted source; " ++
    "autonomous action is prohibited."] ["SAFETY-POISON-ABSTAIN"] (evidenceIds evidence)

/-- The proposal for a break-glass identity. -/
def breakGlassProposal : DecisionProposal where
  disposition := .escalateHuman
  executableActions := []
  recommendedHumanActions := ["disable_account", "revoke_active_sessions", "validate_emergency_use"]
  investigationActions := ["validate_emergency_use", "contact_incident_commander"]
  rationale := ["The subject is a break-glass identity; all containment requires explicit " ++
    "human authorization."]
  policyRulesApplied := ["AUTH-BREAK-GLASS-HUMAN"]
  evidenceEventIds := evidenceIds evidence
  requiredAuthority := "incident_commander_or_identity_owner"
  rollbackPlan := []

/-- The proposal for evidence that is not good enough. -/
def abstainProposal : DecisionProposal :=
  investigate (evidence.reasons ++ ["The decision firewall abstains until provenance, " ++
    "integrity, completeness, or corroboration is improved."])
    ["EVIDENCE-NOT-DECISION-GRADE"] (evidenceIds evidence)

/-- The text of the probability. -/
def probabilityText : String :=
  "Compromise probability " ++ EngineFloat.format3 model.compromiseProbability

/-- The proposal for a low risk. -/
def noActionProposal : DecisionProposal where
  disposition := .noAction
  executableActions := []
  recommendedHumanActions := []
  investigationActions := []
  rationale := [probabilityText model ++
    " is below the no-action threshold and no severe indicator is present."]
  policyRulesApplied := ["RISK-BELOW-NO-ACTION-THRESHOLD"]
  evidenceEventIds := evidenceIds evidence
  requiredAuthority := "none"
  rollbackPlan := []

/-- The proposal of a containment. -/
def containProposal (criticality : String) (actions : List Json) : DecisionProposal where
  disposition := .containReversible
  executableActions := actions
  recommendedHumanActions := []
  investigationActions := []
  rationale := [probabilityText model ++ ", evidence quality " ++
    EngineFloat.format3 evidence.evidenceQuality ++ ", and asset criticality " ++ criticality ++
      " satisfy the reversible-containment policy."]
  policyRulesApplied := ["RISK-AUTO-CONTAIN-THRESHOLD", "AUTH-REVERSIBLE-ACTIONS-ONLY"]
  evidenceEventIds := evidenceIds evidence
  requiredAuthority := "deterministic_policy_gate"
  rollbackPlan := ROLLBACK_PLAN

/-- The proposal that asks a human. -/
def escalateProposal (beyond : Bool) : DecisionProposal where
  disposition := .escalateHuman
  executableActions := []
  recommendedHumanActions := ["disable_account", "revoke_active_sessions", "isolate_endpoint"]
  investigationActions := ["confirm_business_owner", "validate_blast_radius"]
  rationale := (if beyond then ["Asset criticality exceeds the autonomous-action boundary."]
    else []) ++ [probabilityText model ++
      " or severe evidence requires human containment authority."]
  policyRulesApplied := ["RISK-HUMAN-ESCALATION"] ++
    (if beyond then ["AUTH-ASSET-CRITICALITY-HUMAN"] else [])
  evidenceEventIds := evidenceIds evidence
  requiredAuthority := "soc_shift_lead_or_identity_owner"
  rollbackPlan := []

/-- The proposal in all other cases. -/
def uncertainProposal : DecisionProposal :=
  investigate [probabilityText model ++
    " is not low enough for closure and not high enough for containment."]
    ["RISK-UNCERTAIN-INVESTIGATE"] (evidenceIds evidence)

/-- `propose(case, model, evidence)`. -/
def propose : Checked DecisionProposal :=
  evidenceIsDecisionGrade lib config evidence >>= fun decisionGrade =>
  evidenceIsAutomationGrade lib config evidence decisionGrade >>= fun automationGrade =>
  poisonBlocks config evidence >>= fun poison =>
  if poison then .ok (poisonProposal evidence) else
  breakGlassBlocks F config case >>= fun breakGlass =>
  if breakGlass then .ok (breakGlassProposal evidence) else
  if !decisionGrade then .ok (abstainProposal evidence) else
  belowNoAction config model >>= fun low =>
  if low then .ok (noActionProposal model evidence) else
  canAutoContain config case model automationGrade >>= fun contain =>
  if contain then
    criticalityText F case >>= fun criticality =>
    (item config.authority "autonomous_actions" >>= listOf).map fun actions =>
      containProposal model evidence criticality actions
  else
  needsHuman config model >>= fun human =>
  if human then
    (beyondCriticality F config case).map fun beyond => escalateProposal model evidence beyond
  else .ok (uncertainProposal model evidence)

end Conditions

/-! ## §4 What a proposal says about its case -/

section Facts

variable {lib : Library} {F : Type} [EngineFloat F] {config : PolicyConfig}
variable {case : IdentityCase} {model : ModelAssessment F} {evidence : EvidenceAssessment F}
variable {proposal : DecisionProposal}

/-- The list of actions of a policy. -/
def actionList (config : PolicyConfig) (name : String) : Checked (List Json) :=
  item config.authority name >>= listOf

/-- What a policy asks of a case that it contains on its own. -/
structure Eligible (lib : Library) {F : Type} [EngineFloat F] (config : PolicyConfig)
    (case : IdentityCase) (model : ModelAssessment F) (evidence : EvidenceAssessment F) :
    Prop where
  risk : atLeast config.thresholds "autonomous_containment_min_probability"
    model.compromiseProbability = .ok true
  quality : atLeast config.evidence "minimum_quality" evidence.evidenceQuality = .ok true
  provenance : atLeast config.evidence "minimum_provenance_ratio" evidence.provenanceValidRatio =
    .ok true
  integrity : atLeast config.evidence "minimum_integrity_verified_ratio"
    evidence.integrityVerifiedRatio = .ok true
  agreement : countAtMost lib F config.evidence "maximum_conflicts_for_automation"
    evidence.conflictCount = .ok true
  corroboration : countAtLeast lib F config.evidence "minimum_independent_supporting_sources"
    evidence.independentSupportingSources = .ok true
  boundary : withinCriticality F config case = .ok true

/-- A containment is proposed for an eligible case only, with the actions of the policy. -/
structure Contains (lib : Library) {F : Type} [EngineFloat F] (config : PolicyConfig)
    (case : IdentityCase) (model : ModelAssessment F) (evidence : EvidenceAssessment F)
    (proposal : DecisionProposal) : Prop where
  eligible : Eligible lib config case model evidence
  actions : actionList config "autonomous_actions" = .ok proposal.executableActions
  shape : ∃ criticality, proposal =
    containProposal model evidence criticality proposal.executableActions

/-- Where a containment is possible, the case is eligible. -/
theorem eligible_of_canAutoContain {decisionGrade automationGrade : Bool}
    (hdecision : evidenceIsDecisionGrade lib config evidence = .ok decisionGrade)
    (hautomation : evidenceIsAutomationGrade lib config evidence decisionGrade = .ok automationGrade)
    (h : canAutoContain config case model automationGrade = .ok true) :
    Eligible lib config case model evidence := by
  obtain ⟨hrisk, hrest⟩ := andThen_eq_true.mp h
  obtain ⟨hboundary, hgrade⟩ := andThen_eq_true.mp hrest
  cases hgrade
  obtain ⟨hgrade, hsupport⟩ := andThen_eq_true.mp hautomation
  cases hgrade
  obtain ⟨hquality, hrest⟩ := andThen_eq_true.mp hdecision
  obtain ⟨hprovenance, hrest⟩ := andThen_eq_true.mp hrest
  obtain ⟨hintegrity, hrest⟩ := andThen_eq_true.mp hrest
  obtain ⟨hconflicts, -⟩ := andThen_eq_true.mp hrest
  exact ⟨hrisk, hquality, hprovenance, hintegrity, hconflicts, hsupport, hboundary⟩

/-- A proposal is a containment, or it has no actions. -/
theorem propose_cases (h : propose lib config case model evidence = .ok proposal) :
    Contains lib config case model evidence proposal ∨
      proposal.disposition ≠ .containReversible ∧ proposal.executableActions = [] := by
  obtain ⟨decisionGrade, hdecision, h⟩ := bind_eq_ok.mp h
  obtain ⟨automationGrade, hautomation, h⟩ := bind_eq_ok.mp h
  obtain ⟨poison, -, h⟩ := bind_eq_ok.mp h
  -- the branches of the source, from the first to the last
  split at h
  · cases h
    exact .inr ⟨by simp [poisonProposal, investigate], rfl⟩
  obtain ⟨breakGlass, -, h⟩ := bind_eq_ok.mp h
  split at h
  · cases h
    exact .inr ⟨by simp [breakGlassProposal], rfl⟩
  split at h
  · cases h
    exact .inr ⟨by simp [abstainProposal, investigate], rfl⟩
  obtain ⟨low, -, h⟩ := bind_eq_ok.mp h
  split at h
  · cases h
    exact .inr ⟨by simp [noActionProposal], rfl⟩
  obtain ⟨contain, hcontain, h⟩ := bind_eq_ok.mp h
  split at h
  · rename_i htrue
    subst htrue
    obtain ⟨criticality, -, h⟩ := bind_eq_ok.mp h
    obtain ⟨actions, hactions, rfl⟩ := map_eq_ok.mp h
    exact .inl ⟨eligible_of_canAutoContain hdecision hautomation hcontain, hactions,
      criticality, rfl⟩
  obtain ⟨human, -, h⟩ := bind_eq_ok.mp h
  split at h
  · obtain ⟨beyond, -, rfl⟩ := map_eq_ok.mp h
    exact .inr ⟨by simp [escalateProposal], rfl⟩
  · cases h
    exact .inr ⟨by simp [uncertainProposal, investigate], rfl⟩

/-- Every proposal cites the events of the evidence. -/
theorem evidenceEventIds_of_propose (h : propose lib config case model evidence = .ok proposal) :
    proposal.evidenceEventIds = evidenceIds evidence := by
  obtain ⟨decisionGrade, -, h⟩ := bind_eq_ok.mp h
  obtain ⟨automationGrade, -, h⟩ := bind_eq_ok.mp h
  obtain ⟨poison, -, h⟩ := bind_eq_ok.mp h
  split at h
  · cases h
    rfl
  obtain ⟨breakGlass, -, h⟩ := bind_eq_ok.mp h
  split at h
  · cases h
    rfl
  split at h
  · cases h
    rfl
  obtain ⟨low, -, h⟩ := bind_eq_ok.mp h
  split at h
  · cases h
    rfl
  obtain ⟨contain, -, h⟩ := bind_eq_ok.mp h
  split at h
  · obtain ⟨criticality, -, h⟩ := bind_eq_ok.mp h
    obtain ⟨actions, -, rfl⟩ := map_eq_ok.mp h
    rfl
  obtain ⟨human, -, h⟩ := bind_eq_ok.mp h
  split at h
  · obtain ⟨beyond, -, rfl⟩ := map_eq_ok.mp h
    rfl
  · cases h
    rfl

theorem Contains.disposition (h : Contains lib config case model evidence proposal) :
    proposal.disposition = .containReversible := by
  obtain ⟨criticality, hshape⟩ := h.shape
  rw [hshape]
  rfl

theorem Contains.rollbackPlan (h : Contains lib config case model evidence proposal) :
    proposal.rollbackPlan = ROLLBACK_PLAN := by
  obtain ⟨criticality, hshape⟩ := h.shape
  rw [hshape]
  rfl

end Facts

end DecisionFirewall.Engine
