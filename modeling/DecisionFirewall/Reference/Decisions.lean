import DecisionFirewall.Reference.Stages

/-!
# Decisions against the Reference

`_observed_stages` to `verify_reference_decision_path` of `replay/reference_decision.py`, from the
values that the strict readers make of the four inputs.

- §1 the stages of a decision
- §2 digests
- §3 records
- §4 cases and decisions
-/

namespace DecisionFirewall.Reference

open Engine (EngineFloat LogisticRiskModel)
open Engine.EngineFloat (le lit)

/-! ## §1 The stages of a decision -/

/-- `_DECISION_FIELDS`. -/
def DECISION_FIELDS : List String :=
  ["decision_id", "case_id", "subject_id", "asset_id", "asset_criticality", "break_glass",
    "created_at", "policy_id", "policy_version", "model_version", "execution_mode",
    "original_disposition", "final_disposition", "counterfactual_actions",
    "compromise_probability", "evidence_assessment", "model_assessment", "proposal",
    "independent_verification", "authorization", "action_results", "post_action_verification",
    "execution_control", "latency_ms", "traceability", "decision_record_hash"]

section Observed

variable (lib : Engine.Library) (F : Type) [EngineFloat F]

/-- What `_stage_hashes` returns. -/
structure StageHashes where
  evidence : String
  model : String
  policy : String
  verifier : String
  finalSurface : String
  deriving DecidableEq, Repr

end Observed

/-! ## §3 Records -/

/-- What is said of a decision that agrees. -/
structure Record where
  caseId : String
  normalizedCaseSha256 : String
  modelSourceSha256 : String
  policySourceSha256 : String
  expected : StageHashes
  observed : StageHashes
  expectedPath : String
  observedPath : String
  executionMode : String
  deriving DecidableEq, Repr

/-- A record of the result. -/
def Record.toDict (r : Record) : Dict :=
  [("schema_version", .str "0.2.0"),
    ("assurance_kind", .str "SEPARATE_SOURCE_TO_DECISION_RECOMPUTATION"),
    ("recomputation_scope", .str "EVIDENCE_MODEL_POLICY_VERIFIER_READ_ONLY_FINAL"),
    ("case_id", .str r.caseId),
    ("normalized_case_sha256", .str r.normalizedCaseSha256),
    ("model_source_sha256", .str r.modelSourceSha256),
    ("policy_source_sha256", .str r.policySourceSha256),
    ("expected_evidence_sha256", .str r.expected.evidence),
    ("observed_evidence_sha256", .str r.observed.evidence),
    ("expected_model_sha256", .str r.expected.model),
    ("observed_model_sha256", .str r.observed.model),
    ("expected_policy_sha256", .str r.expected.policy),
    ("observed_policy_sha256", .str r.observed.policy),
    ("expected_verifier_sha256", .str r.expected.verifier),
    ("observed_verifier_sha256", .str r.observed.verifier),
    ("expected_final_surface_sha256", .str r.expected.finalSurface),
    ("observed_final_surface_sha256", .str r.observed.finalSurface),
    ("expected_source_to_decision_sha256", .str r.expectedPath),
    ("observed_source_to_decision_sha256", .str r.observedPath),
    ("execution_mode", .str r.executionMode),
    ("read_only", .bool true),
    ("matched", .bool true)]

section Verify

variable (lib : Engine.Library) {F : Type} [EngineFloat F]

/-- What a run of `verify_reference_decision_path` compares every case with. -/
structure Reviewed (F : Type) where
  model : LogisticRiskModel F
  policy : Policy F
  mode : String
  modelSourceSha256 : String
  policySourceSha256 : String

/-- A loop that reads raw values, each of which needs a key of its own. -/
def addAll {α β : Type} (read : α → Checked β) (key : β → String) (code : String)
    (found : List β) : List α → Checked (List β)
  | [] => .ok found
  | raw :: raws => do
    let value ← read raw
    require (key value ∉ found.map key) code
    addAll read key code (found ++ [value]) raws

/-- The identifier of a case. -/
abbrev Case.id (case : Case F) : String := case.case.caseId

end Verify

end DecisionFirewall.Reference
