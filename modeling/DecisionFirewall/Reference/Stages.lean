import DecisionFirewall.Engine.Process
import DecisionFirewall.Reference.Configurations

/-!
# The Stages of the Reference

`_features` to `_expected_stages` of `replay/reference_decision.py`: what the reference computes
for a case, a model and a policy in a mode that executes nothing.

- §1 features
- §2 evidence
- §3 the model
- §4 the policy
- §5 the verifier
- §6 the proposal of a mode that executes nothing
- §7 documents
- §8 stages
-/

namespace DecisionFirewall.Reference

open Engine (EngineFloat EvidenceEvent IdentityCase Values Extraction EventFacts EvidenceAssessment
  FactorRow ModelAssessment LogisticRiskModel DecisionProposal Disposition Check VerificationResult
  texts floatOf)
open Engine.EngineFloat (le lt lit ratio add sub mul div)

/-! ## §1 Features -/

section Features

variable {F : Type} [EngineFloat F]

/-- The failed logins of an event. -/
def addFailedLogins (x : Extraction F) (event : EvidenceEvent) : Checked (Extraction F) :=
  match event.attributes.lookup "failed_logins" with
  | none => .ok x
  | some value => (failedLogins F value).map fun count =>
    { values := x.values.set "failed_login_intensity"
        (EngineFloat.max (x.value "failed_login_intensity")
          (EngineFloat.min (ratio count 20) (lit 1)))
      trace := x.trace.extend "failed_login_intensity" [event.eventId] }

/-- One Boolean attribute of an event. -/
def addFlag (event : EvidenceEvent) (x : Extraction F) (name : String) : Extraction F :=
  match event.attributes.lookup name with
  | none => x
  | some value =>
    { values := if Engine.truth F value then x.values.set name (lit 1) else x.values
      trace := x.trace.extend name [event.eventId] }

/-- One iteration of the loop over the events. -/
def addEvent (x : Extraction F) (event : EvidenceEvent) : Checked (Extraction F) :=
  (addFailedLogins x event).map fun x =>
    (BOOLEAN_FEATURE_SOURCES.map Prod.fst).foldl (addFlag event) x

/-- The loop over the events. -/
def addEvents (x : Extraction F) : List EvidenceEvent → Checked (Extraction F)
  | [] => .ok x
  | event :: events => addEvent x event >>= fun x => addEvents x events

/-- `_features(case)`. -/
def features (case : Case F) : Checked (Extraction F) :=
  (addEvents ⟨FEATURE_NAMES.map fun name => (name, lit 0), []⟩ case.case.events).map fun x =>
    let inventoryIds := case.case.inventory.map EvidenceEvent.eventId
    let admin : F := if case.case.privilegeLevel = "global_admin" then lit 1 else lit 0
    { values :=
        (x.values.set "privilege_global_admin" admin).set "asset_criticality" case.criticality
      trace := (x.trace.set "privilege_global_admin" inventoryIds).set "asset_criticality"
        inventoryIds }

end Features

/-! ## §2 Evidence -/

/-- `_POSITIVE_INDICATORS`. -/
def POSITIVE_INDICATORS : List String :=
  ["threat_ip", "token_reuse", "credential_dumping", "lateral_movement", "edr_malware",
    "mfa_fatigue", "oauth_grant", "unusual_admin_action", "new_device", "impossible_travel"]

/-- `_BENIGN_INDICATORS`. -/
def BENIGN_INDICATORS : List String :=
  ["known_vpn", "approved_travel", "maintenance_window", "service_account_baseline", "strong_mfa"]

/-- `sorted(_EXPECTED_SOURCES)`. -/
def EXPECTED_SOURCES : List String :=
  ["asset_inventory", "change_management", "endpoint", "identity", "network", "threat_intel",
    "user_context"]

/-- `_INSTRUCTION_PATTERNS`. -/
def INSTRUCTION_PATTERNS : List String :=
  ["\\bignore\\s+(all\\s+)?(prior|previous)\\b", "\\b(system|assistant)\\s*:\\s*",
    "\\bdo\\s+not\\s+ask\\b", "\\bdisable\\s+(the\\s+)?account\\b"]

section Evidence

variable (lib : Engine.Library) {F : Type} [EngineFloat F]

/-- `_clamp(value)`. -/
def clamp (value : F) : F := EngineFloat.max (lit 0) (EngineFloat.min (lit 1) value)

/-- `attributes.get(name) is True` for one of the names. -/
def anyTrue (attributes : Dict) (names : List String) : Bool :=
  names.any fun name => match attributes.get name with
    | .bool b => b
    | _ => false

/-- The quality of the evidence. -/
def quality (provenance integrity freshness diversity trust : F) (conflicts : Nat)
    (poisoned : Bool) (missing : List String) : F :=
  let weighted := add (add (add (add (mul (ratio 27 100) provenance)
    (mul (ratio 23 100) integrity)) (mul (ratio 18 100) freshness))
      (mul (ratio 17 100) diversity)) (mul (ratio 15 100) trust)
  let agreed := sub weighted (EngineFloat.min (ratio 25 100) (mul (ratio 10 100) (lit conflicts)))
  let clean := if poisoned then sub agreed (ratio 30 100) else agreed
  clamp (if 2 ≤ missing.length then sub clean (ratio 12 100) else clean)

/-- The reasons, one after the other. -/
def reasons (provenance integrity freshness : F) (missing : List String) (conflicts : Nat)
    (poisoned : Bool) : List String :=
  let found :=
    (if lt provenance (lit 1) then
      ["One or more evidence events lack verifiable provenance."] else []) ++
    (if lt integrity (lit 1) then
      ["One or more evidence events failed integrity verification or remain unverified."]
        else []) ++
    (if lt freshness (ratio 80 100) then
      ["One or more telemetry sources are stale."] else []) ++
    (if missing ≠ [] then
      ["Expected evidence sources are missing: " ++ ", ".intercalate missing ++ "."] else []) ++
    (if conflicts ≠ 0 then ["Independent telemetry sources conflict."] else []) ++
    (if poisoned then
      ["Untrusted content contains instructions directed at an AI agent; " ++
        "content is excluded from model input and blocks autonomous action."] else [])
  if found = [] then
    ["Evidence provenance, integrity, freshness, and source diversity meet the POC baseline."]
  else found

end Evidence

/-! ## §3 The model -/

section Model

variable {F : Type} [EngineFloat F]

/-- `feature_values[name]`. -/
def valueOf (values : Values F) (name : String) : F := (values.lookup name).getD (lit 0)

end Model

/-! ## §4 The policy -/

/-- `_investigate(rationale, rules, evidence_ids)`. -/
def investigate (rationale rules evidenceIds : List String) : DecisionProposal where
  disposition := .investigate
  executableActions := []
  recommendedHumanActions := []
  investigationActions :=
    ["query_identity_history", "query_endpoint_telemetry", "validate_change_and_travel_context"]
  rationale := rationale
  policyRulesApplied := rules
  evidenceEventIds := evidenceIds
  requiredAuthority := "read_only_automation"
  rollbackPlan := []

section Policy

variable {F : Type} [EngineFloat F]

/-- `severe`. -/
def severe (model : ModelAssessment F) : Bool :=
  ["credential_dumping", "lateral_movement", "token_reuse", "oauth_grant"].any fun name =>
    le (lit 1) (valueOf model.featureValues name)

/-- `decision_grade`. -/
def decisionGrade (evidence : EvidenceAssessment F) (policy : Policy F) : Bool :=
  le policy.minimumQuality evidence.evidenceQuality &&
    le policy.minimumProvenanceRatio evidence.provenanceValidRatio &&
    le policy.minimumIntegrityVerifiedRatio evidence.integrityVerifiedRatio &&
    decide ((evidence.conflictCount : Int) ≤ policy.maximumConflicts) &&
    decide ((evidence.missingExpectedSources.length : Int) ≤
      policy.maximumMissingExpectedSources) &&
    !(policy.poisonedEvidenceBlocks && evidence.poisonedEvidence)

/-- `automation_grade`. -/
def automationGrade (evidence : EvidenceAssessment F) (policy : Policy F) : Bool :=
  decisionGrade evidence policy &&
    decide (policy.minimumIndependentSupportingSources ≤
      (evidence.independentSupportingSources : Int))

/-- `can_auto_contain`. -/
def canAutoContain (case : Case F) (model : ModelAssessment F) (evidence : EvidenceAssessment F)
    (policy : Policy F) : Bool :=
  le policy.autonomousContainmentMin model.compromiseProbability &&
    le case.criticality policy.maximumAssetCriticality && automationGrade evidence policy

/-- `f"Compromise probability {probability:.3f}"`. -/
def probabilityText (model : ModelAssessment F) : String :=
  "Compromise probability " ++ EngineFloat.format3 model.compromiseProbability

end Policy

/-! ## §5 The verifier -/

/-- The action is one of the names. -/
def isNamed (names : List String) (action : Json) : Bool :=
  match action with
  | .str name => names.contains name
  | _ => false

section Verifier

variable {F : Type} [EngineFloat F]

/-- The checks of a containment. -/
def containmentChecks (case : Case F) (model : ModelAssessment F)
    (evidence : EvidenceAssessment F) (proposal : DecisionProposal) (policy : Policy F) :
    List Check :=
  [⟨"CONTAIN-RISK-THRESHOLD", le policy.autonomousContainmentMin model.compromiseProbability,
      "Containment requires probability >= " ++
        EngineFloat.format2 policy.autonomousContainmentMin ++ "."⟩,
    ⟨"CONTAIN-EVIDENCE-QUALITY", le policy.minimumQuality evidence.evidenceQuality,
      "Evidence quality must meet the automation threshold."⟩,
    ⟨"CONTAIN-PROVENANCE", le policy.minimumProvenanceRatio evidence.provenanceValidRatio,
      "Evidence provenance ratio is insufficient."⟩,
    ⟨"CONTAIN-INTEGRITY", le policy.minimumIntegrityVerifiedRatio evidence.integrityVerifiedRatio,
      "Evidence integrity ratio is insufficient."⟩,
    ⟨"CONTAIN-CORROBORATION", decide (policy.minimumIndependentSupportingSources ≤
        (evidence.independentSupportingSources : Int)),
      "Independent source corroboration is insufficient."⟩,
    ⟨"CONTAIN-NO-CONFLICT", decide ((evidence.conflictCount : Int) ≤ policy.maximumConflicts),
      "Conflicting sources prohibit automation."⟩,
    ⟨"CONTAIN-NO-POISON", !evidence.poisonedEvidence,
      "Instructional or poisoned evidence prohibits automation."⟩,
    ⟨"CONTAIN-NOT-BREAK-GLASS", !case.case.breakGlass,
      "Break-glass identities require human authorization."⟩,
    ⟨"CONTAIN-ASSET-BOUNDARY", le case.criticality policy.maximumAssetCriticality,
      "Asset criticality exceeds the autonomous boundary."⟩,
    ⟨"CONTAIN-ROLLBACK",
      proposal.executableActions.all (isNamed (proposal.rollbackPlan.map Prod.fst)),
      "Every autonomous action requires a rollback plan."⟩,
    ⟨"CONTAIN-ACTIONS-PRESENT", !proposal.executableActions.isEmpty,
      "Containment disposition requires at least one executable action."⟩]

/-- `_verification(case, model, evidence, proposal, policy)`. -/
def verification (case : Case F) (model : ModelAssessment F) (evidence : EvidenceAssessment F)
    (proposal : DecisionProposal) (policy : Policy F) : VerificationResult :=
  let known := case.case.eventIds
  let traced := model.featureTrace.flatMap Prod.snd
  let checks : List Check :=
    [⟨"MODEL-PROBABILITY-RANGE", le (lit 0) model.compromiseProbability &&
          le model.compromiseProbability (lit 1),
        "Probability must be within [0,1]."⟩,
      ⟨"TRACE-EVENTS-EXIST", proposal.evidenceEventIds.all (known.contains ·),
        "All cited evidence IDs must exist in the case."⟩,
      ⟨"MODEL-FEATURE-TRACE", traced.all (known.contains ·),
        "Every model feature trace must resolve to a case event."⟩,
      ⟨"NO-HUMAN-ONLY-EXECUTION",
        !proposal.executableActions.any (isNamed policy.humanOnlyActions),
        "Human-only actions cannot appear in the executable action set."⟩,
      ⟨"EXECUTABLE-ACTIONS-ALLOWLISTED",
        proposal.executableActions.all (isNamed policy.autonomousActions),
        "Executable actions must be on the autonomous allowlist."⟩] ++
    (if proposal.disposition = .containReversible
      then containmentChecks case model evidence proposal policy
      else [⟨"NON-CONTAIN-NO-EXECUTION", proposal.executableActions.isEmpty,
        "Non-containment dispositions cannot execute production actions."⟩])
  let blockers := (checks.filter fun c => !c.passed).map fun c => c.check ++ ": " ++ c.detail
  { passed := blockers.isEmpty
    checks := checks
    blockingReasons := blockers }

end Verifier

/-! ## §6 The proposal of a mode that executes nothing -/

section Documents

variable {F : Type} [EngineFloat F]

/-- What `_evidence` returns. -/
def evidenceDict (e : EvidenceAssessment F) : Dict :=
  [("evidence_quality", EngineFloat.toJson e.evidenceQuality),
    ("provenance_valid_ratio", EngineFloat.toJson e.provenanceValidRatio),
    ("integrity_verified_ratio", EngineFloat.toJson e.integrityVerifiedRatio),
    ("freshness_score", EngineFloat.toJson e.freshnessScore),
    ("source_diversity_score", EngineFloat.toJson e.sourceDiversityScore),
    ("mean_source_trust", EngineFloat.toJson e.meanSourceTrust),
    ("independent_supporting_sources", .int e.independentSupportingSources),
    ("positive_event_ids", texts e.positiveEventIds),
    ("benign_event_ids", texts e.benignEventIds),
    ("missing_expected_sources", texts e.missingExpectedSources),
    ("conflict_count", .int e.conflictCount),
    ("poisoned_evidence", .bool e.poisonedEvidence),
    ("poisoned_event_ids", texts e.poisonedEventIds),
    ("reasons", texts e.reasons)]

/-- A row of the factors. -/
def factorDict (row : FactorRow F) : Json :=
  .obj [("feature", .str row.feature), ("contribution", EngineFloat.toJson row.contribution),
    ("value", EngineFloat.toJson row.value)]

/-- `feature_trace`. -/
def traceDict (trace : Values (List String)) : Json :=
  .obj (trace.map fun entry => (entry.1, texts entry.2))

/-- What `_model_assessment` returns. -/
def modelDict (m : ModelAssessment F) : Dict :=
  [("compromise_probability", EngineFloat.toJson m.compromiseProbability),
    ("model_version", .str m.modelVersion),
    ("top_positive_factors", .arr (m.topPositiveFactors.map factorDict)),
    ("top_negative_factors", .arr (m.topNegativeFactors.map factorDict)),
    ("feature_values", .obj (m.featureValues.map fun entry =>
      (entry.1, EngineFloat.toJson entry.2))),
    ("feature_trace", traceDict m.featureTrace)]

/-- A proposal. -/
def proposalDict (p : DecisionProposal) : Dict :=
  [("disposition", .str p.disposition.value),
    ("executable_actions", .arr p.executableActions),
    ("recommended_human_actions", texts p.recommendedHumanActions),
    ("investigation_actions", texts p.investigationActions),
    ("rationale", texts p.rationale),
    ("policy_rules_applied", texts p.policyRulesApplied),
    ("evidence_event_ids", texts p.evidenceEventIds),
    ("required_authority", .str p.requiredAuthority),
    ("rollback_plan", .obj (p.rollbackPlan.map fun entry => (entry.1, .str entry.2)))]

/-- What `_verification` returns. -/
def verificationDict (v : VerificationResult) : Dict :=
  [("passed", .bool v.passed),
    ("checks", .arr (v.checks.map fun c =>
      .obj [("check", .str c.check), ("passed", .bool c.passed), ("detail", .str c.detail)])),
    ("blocking_reasons", texts v.blockingReasons)]

end Documents

/-! ## §8 Stages -/

/-- The stages that are compared. -/
structure Stages where
  evidence : Json
  model : Json
  policy : Json
  verifier : Json
  finalSurface : Json

section Expected

variable (lib : Engine.Library) {F : Type} [EngineFloat F]

/-- The final surface of what was computed. -/
def finalSurface (case : Case F) (policy : Policy F) (mode : String) (model : ModelAssessment F)
    (evidence : EvidenceAssessment F) (original proposal : DecisionProposal)
    (counterfactualActions : List Json) (verifier : VerificationResult) : Dict :=
  [("case_id", .str case.case.caseId),
    ("subject_id", .str case.case.subjectId),
    ("asset_id", .str case.case.assetId),
    ("asset_criticality", EngineFloat.toJson case.criticality),
    ("break_glass", .bool case.case.breakGlass),
    ("policy_id", .str policy.policyId),
    ("policy_version", .str policy.version),
    ("model_version", .str model.modelVersion),
    ("execution_mode", .str mode),
    ("original_disposition", .str original.disposition.value),
    ("final_disposition", .str proposal.disposition.value),
    ("counterfactual_actions", .arr counterfactualActions),
    ("compromise_probability", EngineFloat.toJson model.compromiseProbability),
    ("evidence_assessment", .obj (evidenceDict evidence)),
    ("model_assessment", .obj (modelDict model)),
    ("proposal", .obj (proposalDict proposal)),
    ("independent_verification", .obj (verificationDict verifier)),
    ("authorization", .obj [("issued", .bool false), ("token_id", .str ""),
      ("decision_hash", .str ""), ("permitted_actions", .arr []), ("error", .str "")]),
    ("action_results", .arr []),
    ("post_action_verification", .obj [("applicable", .bool false),
      ("status", .str "NOT_APPLICABLE"), ("passed", .null), ("checks", .arr [])]),
    ("execution_control", .obj [("mode", .str mode), ("read_only", .bool true),
      ("status", .str "SUPPRESSED_READ_ONLY"), ("authorization_attempted", .bool false),
      ("broker_invocations", .int 0), ("operational_effects", .int 0)]),
    ("traceability", .obj [("input_event_ids", texts case.case.eventIds),
      ("cited_evidence_event_ids", texts proposal.evidenceEventIds),
      ("feature_trace", traceDict model.featureTrace)])]

end Expected

end DecisionFirewall.Reference
