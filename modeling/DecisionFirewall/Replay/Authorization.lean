import DecisionFirewall.Lib.Sorting
import DecisionFirewall.Replay.ControlDocuments

/-!
# The Authorization of Gate B

`load_gate_b_authorization` of `gate_b.py`: what an approved package has to pass before any
historical record is opened. Loading fails in the declared way as long as every role that is
looked up can be hashed and every time that is converted stays within the calendar
(`raises_declared_iff`).

- §1 the parts of the document
- §2 bound artifacts
- §3 the loader
- §4 what the parts raise
- §5 what loading raises
-/

namespace DecisionFirewall.Replay.GateB

open Lib (Decimal Raises eachInOrder)
open Phase3 (Bytes)

/-! ## §1 The parts of the document -/

def AUTHORIZATION_FIELDS : List String :=
  ["adjudication", "approvals", "approved_purpose", "artifact_bindings", "authorization_id",
    "claim_control", "controls", "custody", "dataset_id", "dataset_manifest_sha256", "expires_at",
    "independent_review", "population_scope", "sampling", "schema_version", "status",
    "stop_conditions", "valid_from", "window_end", "window_start"]

def APPROVAL_FIELDS : List String :=
  ["approval_reference", "approved_at", "approver_id", "role", "status"]

def CONTROL_FIELDS : List String :=
  ["action_credentials_present", "complete_intake_reporting",
    "deidentification_assessment_reference", "direct_identifiers_removed",
    "incident_response_reference", "isolation_reference", "kill_switch_reference",
    "live_feed_connected", "network_egress_disabled", "offline_only",
    "reidentification_risk_reviewed", "restricted_hash_handling", "retention_deletion_reference",
    "runtime_labels_separated", "write_capable_connectors_present"]

def CONTROL_REFERENCES : List String :=
  ["deidentification_assessment_reference", "retention_deletion_reference",
    "incident_response_reference", "isolation_reference", "kill_switch_reference"]

def CUSTODY_FIELDS : List String :=
  ["custodian_id", "custody_record_reference", "external_manifest_digest_reference", "frozen_at",
    "snapshot_reference"]

def CUSTODY_REFERENCES : List String :=
  ["snapshot_reference", "custody_record_reference", "external_manifest_digest_reference",
    "custodian_id"]

def SAMPLING_FIELDS : List String :=
  ["full_intake_count", "predeclared_at", "protocol_reference", "sample_count",
    "selection_frozen", "selection_method", "temporal_holdout_end", "temporal_holdout_start"]

def STOP_FIELDS : List String :=
  ["escalation_owner_id", "max_category_quarantine_rates", "max_overall_quarantine_rate",
    "stop_on_any_fatal", "stop_on_unknown_failure", "thresholds_frozen"]

def ADJUDICATION_FIELDS : List String :=
  ["disagreement_resolution", "indeterminate_allowed", "labels_hidden_until_decision",
    "minimum_reviewers", "protocol_reference", "runtime_separated"]

def REVIEW_FIELDS : List String := ["review_reference", "reviewed_at", "reviewer_id", "status"]

def CLAIM_FIELDS : List String :=
  ["claim_owner_id", "expires_at", "pause_authority_id", "revalidation_triggers",
    "revocation_authority_id"]

/-- What is read of `ReplayConfig`. -/
structure ReplayConfig where
  executionMode : String
  recordFailurePolicy : String
  contractAdapter : String

/-- The times that bound the authorization. -/
structure Interval where
  windowStart : Int
  windowEnd : Int
  validFrom : Int
  expiresAt : Int

/-- What the head says. -/
structure AuthorizationHead where
  authorizationId : String
  datasetId : String
  manifestDigest : String

/-- `(now or datetime.now(timezone.utc)).astimezone(timezone.utc)`; `none` where the conversion
leaves the calendar. -/
def currentTime : Option Int → Guarded Int
  | some now => .ok now
  | none => .error .overflowError

/-- Every name of the list is a bounded text. -/
def references (fields : Dict) (label : String) : List String → Guarded Unit
  | [] => .ok ()
  | name :: names => do
    let _ ← nonempty (fields.get name) (label ++ "." ++ name)
    references fields label names

/-- Every name of the list is `true`. -/
def requiredTrue (fields : Dict) (label : String) (refused : String → Exception) :
    List String → Guarded Unit
  | [] => .ok ()
  | name :: names => do
    let flag ← boolean (fields.get name) (label ++ "." ++ name)
    require (flag = true) (refused name)
    requiredTrue fields label refused names

/-- Every name of the list is `false`. -/
def requiredFalse (fields : Dict) : List (String × FailureIdentity) → Guarded Unit
  | [] => .ok ()
  | (name, identity) :: names => do
    let flag ← boolean (fields.get name) ("controls." ++ name)
    require (flag = false) (classified ("Gate B requires controls." ++ name ++ "=false.") identity)
    requiredFalse fields names

section Parts

variable (lib : Library)

/-- The head of the document, bound to the manifest and to the configuration. -/
def authorizationHead (manifest : ManifestControl) (config : ReplayConfig) (value : Dict) :
    Guarded AuthorizationHead := do
  let _ ← exactFields (.obj value) AUTHORIZATION_FIELDS "Gate B authorization"
  require (isText (value.get "schema_version") CONTRACT_VERSION = true)
    (failure "Gate B authorization.schema_version is unsupported.")
  require (isText (value.get "status") "APPROVED" = true)
    (classified "Gate B authorization status is not APPROVED." AUTHORIZATION_STATUS_FAILURE)
  require (manifest.dataOrigin = "HISTORICAL_DEIDENTIFIED")
    (failure "Gate B authorization is only valid for historical origin.")
  require (config.executionMode = "HISTORICAL_REPLAY")
    (failure "Gate B requires HISTORICAL_REPLAY execution mode.")
  require (config.recordFailurePolicy = "QUARANTINE_RECORD")
    (failure "Gate B requires the QUARANTINE_RECORD policy.")
  let authorizationId ← identifier (value.get "authorization_id") "authorization_id"
  let datasetId ← identifier (value.get "dataset_id") "dataset_id"
  require (datasetId = manifest.datasetId)
    (failure "Gate B dataset binding does not match the manifest.")
  let manifestDigest ← sha256Text (value.get "dataset_manifest_sha256") "dataset_manifest_sha256"
    false
  require (manifestDigest = manifest.sourceSha256)
    (classified "Gate B manifest digest binding does not match." (artifactDigestFailure "MANIFEST"))
  let _ ← nonempty (value.get "approved_purpose") "approved_purpose"
  let _ ← nonempty (value.get "population_scope") "population_scope"
  return ⟨authorizationId, datasetId, manifestDigest⟩

/-- The interval, which is to be current. -/
def authorizationInterval (now : Option Int) (value : Dict) : Guarded Interval := do
  let windowStart ← timestamp lib (value.get "window_start") "window_start"
  let windowEnd ← timestamp lib (value.get "window_end") "window_end"
  let validFrom ← timestamp lib (value.get "valid_from") "valid_from"
  let expiresAt ← timestamp lib (value.get "expires_at") "expires_at"
  require (windowStart < windowEnd) (failure "Gate B approved window must be non-empty.")
  require (validFrom < expiresAt) (failure "Gate B validity interval must be non-empty.")
  let current ← currentTime now
  require (validFrom ≤ current)
    (classified "Gate B authorization is not currently valid." AUTHORIZATION_NOT_YET_VALID_FAILURE)
  require (current < expiresAt)
    (classified "Gate B authorization is not currently valid." AUTHORIZATION_EXPIRED_FAILURE)
  return ⟨windowStart, windowEnd, validFrom, expiresAt⟩

/-- The approvals read so far: their roles and their identities. -/
structure Approvals where
  roles : List String
  identities : List String

/-- The role of an approval. -/
def approvalRole (s : Approvals) (role : Json) : Guarded String := do
  let known ← isMember role REQUIRED_APPROVAL_ROLES
  match role, known with
  | .str role, true =>
    if role ∈ s.roles then
      .error (classified "Gate B approval roles are incomplete or duplicated."
        APPROVAL_ROLE_UNIQUENESS_FAILURE)
    else .ok role
  | _, _ => .error (classified "Gate B approval roles are incomplete or duplicated."
      APPROVAL_ROLE_MEMBERSHIP_FAILURE)

/-- An approval before its time is read. -/
structure ApprovalHead where
  role : String
  approverId : String
  approvedAt : Json

/-- The head of an approval. -/
def approvalHead (index : Nat) (s : Approvals) (rawApproval : Json) : Guarded ApprovalHead := do
  let label := "approvals[" ++ toString index ++ "]"
  let approval ← exactFields rawApproval APPROVAL_FIELDS label
  let role ← approvalRole s (approval.get "role")
  require (isText (approval.get "status") "APPROVED" = true)
    (failure ("Gate B approval role " ++ role ++ " is not APPROVED."))
  let approverId ← nonempty (approval.get "approver_id") (label ++ ".approver_id")
  let _ ← nonempty (approval.get "approval_reference") (label ++ ".approval_reference")
  return ⟨role, approverId, approval.get "approved_at"⟩

/-- One approval. -/
def checkApproval (validFrom : Int) (index : Nat) (s : Approvals) (rawApproval : Json) :
    Guarded Approvals := do
  let head ← approvalHead index s rawApproval
  let approvedAt ← timestamp lib head.approvedAt ("approvals[" ++ toString index ++ "].approved_at")
  require (approvedAt ≤ validFrom)
    (failure ("Gate B approval role " ++ head.role ++ " postdates valid_from."))
  return ⟨s.roles ++ [head.role], s.identities ++ [head.approverId]⟩

/-- `approvals`: one of each role; the identities. -/
def checkApprovals (validFrom : Int) (approvals : Json) : Guarded (List String) :=
  match approvals with
  | .arr rows =>
    if rows.length ≠ REQUIRED_APPROVAL_ROLES.length then
      .error (classified "Gate B requires exactly five approval roles." APPROVAL_ROLE_COUNT_FAILURE)
    else do
      let s ← eachInOrder (checkApproval lib validFrom) 0 ⟨[], []⟩ rows
      require (∀ role ∈ REQUIRED_APPROVAL_ROLES, role ∈ s.roles)
        (failure "Gate B approval roles are incomplete or duplicated.")
      return s.identities
  | _ =>
    .error (classified "Gate B requires exactly five approval roles." APPROVAL_ROLE_COUNT_FAILURE)

/-- `controls`. -/
def checkControls (value : Json) : Guarded Unit := do
  let controls ← exactFields value CONTROL_FIELDS "controls"
  references controls "controls" CONTROL_REFERENCES
  requiredTrue controls "controls" (fun field =>
    classified ("Gate B requires controls." ++ field ++ "=true.") (requiredTrueControlFailure field))
    REQUIRED_TRUE_CONTROLS
  requiredFalse controls REQUIRED_FALSE_CONTROL_FAILURE_BY_FIELD

/-- `custody` before its time. -/
def custodyHead (value : Json) : Guarded Dict := do
  let custody ← exactFields value CUSTODY_FIELDS "custody"
  references custody "custody" CUSTODY_REFERENCES
  return custody

/-- `custody`. -/
def checkCustody (interval : Interval) (value : Json) : Guarded Unit := do
  let custody ← custodyHead value
  let frozenAt ← timestamp lib (custody.get "frozen_at") "custody.frozen_at"
  require (interval.windowEnd ≤ frozenAt)
    (classified "Gate B custody freeze predates window_end." CUSTODY_FREEZE_FAILURE)
  require (frozenAt ≤ interval.validFrom) (failure "Gate B custody freeze postdates valid_from.")

/-- `sampling` before its times. -/
def samplingHead (value : Json) : Guarded Dict := do
  let sampling ← exactFields value SAMPLING_FIELDS "sampling"
  references sampling "sampling" ["protocol_reference", "selection_method"]
  requiredTrue sampling "sampling" (fun _ =>
    failure "Gate B requires sampling.selection_frozen=true.") ["selection_frozen"]
  return sampling

/-- The time at which the selection was frozen. -/
def samplingDeclared (interval : Interval) (sampling : Dict) : Guarded Unit := do
  let predeclaredAt ← timestamp lib (sampling.get "predeclared_at") "sampling.predeclared_at"
  require (predeclaredAt ≤ interval.validFrom)
    (failure "Gate B sampling was not frozen before valid_from.")

/-- The sizes of the intake and of the sample. -/
structure Counts where
  fullIntakeCount : Int
  sampleCount : Int

/-- The counts of the sample. -/
def samplingCounts (manifest : ManifestControl) (sampling : Dict) : Guarded Counts := do
  let fullIntakeCount ← integer lib (sampling.get "full_intake_count") "sampling.full_intake_count" 1
  let sampleCount ← integer lib (sampling.get "sample_count") "sampling.sample_count" 1
  require (sampleCount ≤ fullIntakeCount)
    (failure "Gate B sample count exceeds the full intake count.")
  require (sampleCount = manifest.casesRecordCount ∧ sampleCount = manifest.historicalCaseCount)
    (failure "Gate B sample count does not match the historical manifest.")
  return ⟨fullIntakeCount, sampleCount⟩

/-- `sampling`. -/
def checkSampling (manifest : ManifestControl) (interval : Interval) (value : Json) :
    Guarded Counts := do
  let sampling ← samplingHead value
  samplingDeclared lib interval sampling
  let holdoutStart ← timestamp lib (sampling.get "temporal_holdout_start")
    "sampling.temporal_holdout_start"
  let holdoutEnd ← timestamp lib (sampling.get "temporal_holdout_end")
    "sampling.temporal_holdout_end"
  require (interval.windowStart ≤ holdoutStart ∧ holdoutStart < holdoutEnd ∧
      holdoutEnd ≤ interval.windowEnd)
    (failure "Gate B temporal holdout is outside the approved window.")
  samplingCounts lib manifest sampling

/-- One category threshold. -/
def categoryRate (index : Nat) (rates : List (String × Decimal)) (rawRow : Json) :
    Guarded (List (String × Decimal)) := do
  let label := "stop_conditions.categories[" ++ toString index ++ "]"
  let row ← exactFields rawRow ["category", "max_rate"] label
  let category ← identifier (row.get "category") (label ++ ".category")
  require (category ∈ ALLOWED_QUALIFICATION_THRESHOLD_CATEGORIES)
    (failure "Gate B contains an unsupported quarantine threshold category.")
  require (category ∉ rates.map Prod.fst)
    (failure "Gate B quarantine threshold categories are duplicated.")
  let maxRate ← rateOf (row.get "max_rate") (label ++ ".max_rate")
  return rates ++ [(category, maxRate)]

/-- The category thresholds: a non-empty array. -/
def categoryRates (value : Json) : Guarded (List (String × Decimal)) :=
  match value with
  | .arr (rawRow :: rest) => eachInOrder categoryRate 0 [] (rawRow :: rest)
  | _ => .error (failure "Gate B requires category-specific quarantine thresholds.")

/-- The thresholds of the quarantine rates. -/
structure Thresholds where
  overall : Decimal
  categories : List (String × Decimal)

/-- `stop_conditions`. -/
def checkStopConditions (value : Json) : Guarded Thresholds := do
  let stop ← exactFields value STOP_FIELDS "stop_conditions"
  let maxOverall ← rateOf (stop.get "max_overall_quarantine_rate")
    "stop_conditions.max_overall_quarantine_rate"
  requiredTrue stop "stop_conditions" (fun field =>
    failure ("Gate B requires stop_conditions." ++ field ++ "=true."))
    ["stop_on_any_fatal", "stop_on_unknown_failure", "thresholds_frozen"]
  let _ ← nonempty (stop.get "escalation_owner_id") "stop_conditions.escalation_owner_id"
  let rates ← categoryRates (stop.get "max_category_quarantine_rates")
  return ⟨maxOverall, rates⟩

/-- `adjudication`. -/
def checkAdjudication (value : Json) : Guarded Unit := do
  let adjudication ← exactFields value ADJUDICATION_FIELDS "adjudication"
  references adjudication "adjudication" ["protocol_reference", "disagreement_resolution"]
  let _ ← integer lib (adjudication.get "minimum_reviewers") "adjudication.minimum_reviewers" 2
  requiredTrue adjudication "adjudication" (fun field =>
    failure ("Gate B requires adjudication." ++ field ++ "=true."))
    ["runtime_separated", "labels_hidden_until_decision", "indeterminate_allowed"]

/-- `independent_review` before its time. -/
def reviewHead (identities : List String) (value : Json) : Guarded Dict := do
  let review ← exactFields value REVIEW_FIELDS "independent_review"
  require (isText (review.get "status") "APPROVED" = true)
    (failure "Gate B independent review is not APPROVED.")
  let reviewerId ← nonempty (review.get "reviewer_id") "independent_review.reviewer_id"
  require (reviewerId ∉ identities)
    (classified "Gate B independent reviewer must differ from approval identities."
      INDEPENDENT_REVIEW_IDENTITY_FAILURE)
  let _ ← nonempty (review.get "review_reference") "independent_review.review_reference"
  return review

/-- `independent_review`. -/
def checkIndependentReview (interval : Interval) (identities : List String) (value : Json) :
    Guarded Unit := do
  let review ← reviewHead identities value
  let reviewedAt ← timestamp lib (review.get "reviewed_at") "independent_review.reviewed_at"
  require (reviewedAt ≤ interval.validFrom)
    (failure "Gate B independent review postdates valid_from.")

/-- The triggers: bounded texts. -/
def triggerTexts : List Json → Guarded (List String)
  | [] => .ok []
  | item :: items => do
    let text ← nonempty item "claim_control.revalidation_triggers[]"
    let texts ← triggerTexts items
    return text :: texts

/-- The triggers: a non-empty array of different texts. -/
def checkTriggers (value : Json) : Guarded Unit :=
  match value with
  | .arr (item :: items) => do
    let texts ← triggerTexts (item :: items)
    require texts.Nodup (failure "Gate B revalidation triggers must be unique.")
  | _ => .error (failure "Gate B requires revalidation triggers.")

/-- `claim_control` before its time. -/
def claimHead (value : Json) : Guarded Dict := do
  let claim ← exactFields value CLAIM_FIELDS "claim_control"
  references claim "claim_control" ["claim_owner_id", "pause_authority_id", "revocation_authority_id"]
  return claim

/-- `claim_control`. -/
def checkClaimControl (interval : Interval) (value : Json) : Guarded Unit := do
  let claim ← claimHead value
  let expiresAt ← timestamp lib (claim.get "expires_at") "claim_control.expires_at"
  require (expiresAt = interval.expiresAt)
    (failure "Gate B claim-control expiry does not match authorization expiry.")
  checkTriggers (claim.get "revalidation_triggers")

end Parts

/-! ## §2 Bound artifacts -/

/-- `GateBArtifactBinding`. -/
structure ArtifactBinding where
  role : String
  path : String
  sha256 : String
  content : Bytes

/-- `root / part`. -/
def joinPath (root part : String) : String :=
  if root = "/" then "/" ++ part else root ++ "/" ++ part

/-- What the loader is given besides the document. -/
structure Request where
  path : String
  repositoryRoot : String
  manifest : ManifestControl
  config : ReplayConfig
  modelPath : String
  policyPath : String
  /-- the clock, as `currentTime` takes it -/
  now : Option Int
  artifactPathOverrides : Option (List (String × String))

section Artifacts

variable (env : Environment) (fs : FileSystem) (request : Request)

/-- No component of the path is a symbolic link. -/
def checkSymlinks (refused : Exception) : String → List String → Guarded Unit
  | _, [] => .ok ()
  | current, part :: parts => do
    let linked ← answer (fs.isSymlink (joinPath current part))
    require (linked = false) refused
    checkSymlinks refused (joinPath current part) parts

/-- `resolve_confined_path(root, relative_path, label=…, must_exist=True)`, under the error of
the caller. -/
def resolveConfinedPath (root relativePath : String) (refused : Exception) : Guarded String := do
  let rootPath ← answer (fs.resolve root)
  let resolved ← answer (fs.resolve (joinPath rootPath relativePath))
  require (pathParts rootPath <+: pathParts resolved) refused
  let file ← answer (fs.isFile resolved)
  require (file = true) refused
  return resolved

/-- The artifact of a snapshot. -/
def resolveOverride (role : String) (overrides : List (String × String)) : Guarded String :=
  match overrides.lookup role with
  | none => .error (failure ("No snapshotted artifact is available for role " ++ role ++ "."))
  | some path => do
    let path ← answer (fs.resolve path)
    let file ← answer (fs.isFile path)
    require (file = true) (failure ("The snapshotted " ++ role ++ " artifact is unavailable."))
    return path

/-- `_resolve_bound_artifact(repository_root=…, role=…, declared_path=…, overrides=…)`. -/
def resolveBoundArtifact (repositoryRoot role declaredPath : String)
    (overrides : Option (List (String × String))) : Guarded String :=
  match overrides with
  | some overrides => resolveOverride fs role overrides
  | none => do
    let declaredPath ← confinedRelativePath (.str declaredPath)
      ("Gate B " ++ role ++ " artifact path")
    let bound := "The bound " ++ role ++ " artifact "
    require ((pathParts declaredPath).take 2 = ["local", "gate_b"])
      (failure (bound ++ "must use the restricted local/gate_b root."))
    checkSymlinks fs (failure (bound ++ "path cannot use symlinks.")) repositoryRoot
      (pathParts declaredPath)
    resolveConfinedPath fs repositoryRoot declaredPath (failure (bound ++ "path is not confined."))

/-- The role of an artifact. -/
def artifactRole (artifacts : List ArtifactBinding) (role : Json) : Guarded String := do
  let known ← isMember role REQUIRED_ARTIFACT_ROLES
  match role, known with
  | .str role, true =>
    if role ∈ artifacts.map ArtifactBinding.role then
      .error (failure "Gate B artifact roles are incomplete or duplicated.")
    else .ok role
  | _, _ => .error (failure "Gate B artifact roles are incomplete or duplicated.")

/-- An artifact before its file is read. -/
structure ArtifactHead where
  role : String
  declaredPath : String
  expectedDigest : String

/-- The head of an artifact. -/
def artifactHead (index : Nat) (artifacts : List ArtifactBinding) (rawArtifact : Json) :
    Guarded ArtifactHead := do
  let label := "artifact_bindings.artifacts[" ++ toString index ++ "]"
  let artifact ← exactFields rawArtifact ["path", "role", "sha256"] label
  let role ← artifactRole artifacts (artifact.get "role")
  let declaredPath ← confinedRelativePath (artifact.get "path") (label ++ ".path")
  let expectedDigest ← sha256Text (artifact.get "sha256") (label ++ ".sha256") false
  return ⟨role, declaredPath, expectedDigest⟩

/-- One artifact. -/
def bindArtifact (index : Nat) (artifacts : List ArtifactBinding) (rawArtifact : Json) :
    Guarded (List ArtifactBinding) := do
  let head ← artifactHead index artifacts rawArtifact
  let root ← answer (fs.resolve request.repositoryRoot)
  let resolved ← resolveBoundArtifact fs root head.role head.declaredPath
    request.artifactPathOverrides
  let file ← safeFileBytesAndDigest env fs resolved head.role MAX_GATE_B_ARTIFACT_BYTES
  require (file.2 = head.expectedDigest)
    (classified ("Gate B " ++ head.role ++ " digest binding does not match.")
      (artifactDigestFailure head.role))
  return artifacts ++ [⟨head.role, resolved, head.expectedDigest, file.1⟩]

/-- The artifacts: one of each role. -/
def bindArtifacts (value : Json) : Guarded (List ArtifactBinding) :=
  match value with
  | .arr rows =>
    if rows.length ≠ REQUIRED_ARTIFACT_ROLES.length then
      .error (failure "Gate B requires exactly three bound control artifacts.")
    else do
      let artifacts ← eachInOrder (bindArtifact env fs request) 0 [] rows
      require (∀ role ∈ REQUIRED_ARTIFACT_ROLES, role ∈ artifacts.map ArtifactBinding.role)
        (failure "Gate B artifact roles are incomplete or duplicated.")
      return artifacts
  | _ => .error (failure "Gate B requires exactly three bound control artifacts.")

/-- The bound files besides the artifacts, and what the document says of these. -/
structure BoundFiles where
  modelBytes : Bytes
  policyBytes : Bytes
  rawArtifacts : Json

/-- `artifact_bindings` before the artifacts. -/
def boundFiles (value : Json) : Guarded BoundFiles := do
  let bindings ← exactFields value
    ["artifacts", "contract_adapter", "contract_version", "model_sha256", "policy_sha256"]
    "artifact_bindings"
  require (isText (bindings.get "contract_version") CONTRACT_VERSION = true)
    (failure "Gate B contract version binding does not match.")
  require (isText (bindings.get "contract_adapter") request.config.contractAdapter = true)
    (failure "Gate B contract adapter binding does not match.")
  let expectedModelDigest ← sha256Text (bindings.get "model_sha256") "model_sha256" false
  let expectedPolicyDigest ← sha256Text (bindings.get "policy_sha256") "policy_sha256" false
  let model ← safeFileBytesAndDigest env fs request.modelPath "model" MAX_GATE_B_MODEL_POLICY_BYTES
  let policy ← safeFileBytesAndDigest env fs request.policyPath "policy"
    MAX_GATE_B_MODEL_POLICY_BYTES
  require (model.2 = expectedModelDigest)
    (classified "Gate B model digest binding does not match." (artifactDigestFailure "MODEL"))
  require (policy.2 = expectedPolicyDigest)
    (classified "Gate B policy digest binding does not match." (artifactDigestFailure "POLICY"))
  return ⟨model.1, policy.1, bindings.get "artifacts"⟩

end Artifacts

/-! ## §3 The loader -/

/-- `GateBAuthorization`. -/
structure GateBAuthorization where
  path : String
  sourceSha256 : String
  sourceBytes : Bytes
  authorizationId : String
  datasetId : String
  datasetManifestSha256 : String
  windowStart : Int
  windowEnd : Int
  validFrom : Int
  expiresAt : Int
  artifacts : List ArtifactBinding
  fullIntakeCount : Int
  sampleCount : Int
  maxOverallQuarantineRate : Decimal
  maxCategoryQuarantineRates : List (String × Decimal)
  modelBytes : Bytes
  policyBytes : Bytes

/-- `load_gate_b_authorization(path, repository_root=…, manifest=…, config=…, model_path=…,
policy_path=…, now=…, artifact_path_overrides=…)`. -/
def loadGateBAuthorization (env : Environment) (fs : FileSystem) (request : Request) :
    Guarded GateBAuthorization := do
  let target ← answer (fs.resolve request.path)
  let document ← loadBoundedJsonObject env fs target "Gate B authorization"
  let value := document.value
  let head ← authorizationHead request.manifest request.config value
  let interval ← authorizationInterval env.lib request.now value
  let identities ← checkApprovals env.lib interval.validFrom (value.get "approvals")
  let files ← boundFiles env fs request (value.get "artifact_bindings")
  let artifacts ← bindArtifacts env fs request files.rawArtifacts
  checkControls (value.get "controls")
  checkCustody env.lib interval (value.get "custody")
  let counts ← checkSampling env.lib request.manifest interval (value.get "sampling")
  let thresholds ← checkStopConditions (value.get "stop_conditions")
  checkAdjudication env.lib (value.get "adjudication")
  checkIndependentReview env.lib interval identities (value.get "independent_review")
  checkClaimControl env.lib interval (value.get "claim_control")
  return {
    path := target
    sourceSha256 := document.sourceSha256
    sourceBytes := document.sourceBytes
    authorizationId := head.authorizationId
    datasetId := head.datasetId
    datasetManifestSha256 := head.manifestDigest
    windowStart := interval.windowStart
    windowEnd := interval.windowEnd
    validFrom := interval.validFrom
    expiresAt := interval.expiresAt
    artifacts := Lib.sortBy ArtifactBinding.role artifacts
    fullIntakeCount := counts.fullIntakeCount
    sampleCount := counts.sampleCount
    maxOverallQuarantineRate := thresholds.overall
    maxCategoryQuarantineRates := Lib.sortBy Prod.fst thresholds.categories
    modelBytes := files.modelBytes
    policyBytes := files.policyBytes }

/-! ## §4 What the parts raise -/

section Raised

open Exception (IsGateBValidationError)

variable {lib : Library} {env : Environment} {fs : FileSystem} {request : Request}
variable {value : Json} {fields : Dict} {label : String} {names : List String}

theorem require_eq_ok {condition : Prop} [Decidable condition] {e : Exception} {u : Unit} :
    require condition e = .ok u ↔ condition := by
  unfold require
  split
  next h => exact iff_of_true rfl h
  next h => exact iff_of_false (fun heq => by cases heq) h

/-- Behind a check that fails as declared, what follows counts where the check passes. -/
theorem raises_require_bind_iff {α : Type} {condition : Prop} [Decidable condition]
    {e : Exception} {f : Unit → Guarded α} (he : e.IsGateBValidationError) :
    Raises IsGateBValidationError (require condition e >>= f) ↔
      (condition → Raises IsGateBValidationError (f ())) := by
  rw [Raises.bind_iff, and_iff_right (raises_require he)]
  exact ⟨fun h hcondition => h () (require_eq_ok.mpr hcondition),
    fun h u hu => h (require_eq_ok.mp hu)⟩

/-- Behind a computation that fails as declared, what follows counts. -/
theorem raises_declared_bind_iff {α β : Type} {x : Guarded α} {f : α → Guarded β}
    (hx : Raises IsGateBValidationError x) :
    Raises IsGateBValidationError (x >>= f) ↔
      ∀ a, x = .ok a → Raises IsGateBValidationError (f a) := by
  rw [Raises.bind_iff, and_iff_right hx]

theorem mem_classified_of_role {role : String} (h : role ∈ DIGEST_ROLES) :
    artifactDigestFailure role ∈ CLASSIFIED_GATE_B_FAILURE_IDENTITIES := by
  unfold CLASSIFIED_GATE_B_FAILURE_IDENTITIES
  simp only [List.append_assoc, List.mem_append]
  exact .inr (.inl (List.mem_map_of_mem h))

theorem mem_classified_of_control {name : String} (h : name ∈ REQUIRED_TRUE_CONTROLS) :
    requiredTrueControlFailure name ∈ CLASSIFIED_GATE_B_FAILURE_IDENTITIES := by
  unfold CLASSIFIED_GATE_B_FAILURE_IDENTITIES
  simp only [List.append_assoc, List.mem_append]
  exact .inr (.inr (.inl (List.mem_map_of_mem h)))

theorem mem_classified_of_prohibited {entry : String × FailureIdentity}
    (h : entry ∈ REQUIRED_FALSE_CONTROL_FAILURE_BY_FIELD) :
    entry.2 ∈ CLASSIFIED_GATE_B_FAILURE_IDENTITIES := by
  unfold CLASSIFIED_GATE_B_FAILURE_IDENTITIES
  simp only [List.append_assoc, List.mem_append]
  exact .inr (.inr (.inr (List.mem_map_of_mem h)))

/-- The identities with a name of their own are registered. -/
theorem mem_classified_of_named {identity : FailureIdentity}
    (h : identity ∈ [AUTHORIZATION_STATUS_FAILURE, AUTHORIZATION_NOT_YET_VALID_FAILURE,
      AUTHORIZATION_EXPIRED_FAILURE, APPROVAL_ROLE_COUNT_FAILURE, APPROVAL_ROLE_MEMBERSHIP_FAILURE,
      APPROVAL_ROLE_UNIQUENESS_FAILURE, CUSTODY_FREEZE_FAILURE,
      INDEPENDENT_REVIEW_IDENTITY_FAILURE, OVERALL_QUARANTINE_RATE_FAILURE]) :
    identity ∈ CLASSIFIED_GATE_B_FAILURE_IDENTITIES := by
  unfold CLASSIFIED_GATE_B_FAILURE_IDENTITIES
  simp only [List.append_assoc, List.mem_append]
  exact .inl h

theorem raises_references :
    Raises IsGateBValidationError (references fields label names) := by
  induction names with
  | nil => exact Raises.ok ()
  | cons name names ih => exact Raises.bind raises_nonempty fun _ _ => ih

theorem raises_requiredTrue {refused : String → Exception}
    (h : ∀ name ∈ names, (refused name).IsGateBValidationError) :
    Raises IsGateBValidationError (requiredTrue fields label refused names) := by
  induction names with
  | nil => exact Raises.ok ()
  | cons name names ih =>
    obtain ⟨hname, hnames⟩ := List.forall_mem_cons.mp h
    refine Raises.bind raises_boolean fun flag _ => ?_
    exact Raises.bind (raises_require hname) fun _ _ => ih hnames

theorem raises_requiredFalse {entries : List (String × FailureIdentity)}
    (h : ∀ entry ∈ entries, entry.2 ∈ CLASSIFIED_GATE_B_FAILURE_IDENTITIES) :
    Raises IsGateBValidationError (requiredFalse fields entries) := by
  induction entries with
  | nil => exact Raises.ok ()
  | cons entry entries ih =>
    obtain ⟨hentry, hentries⟩ := List.forall_mem_cons.mp h
    refine Raises.bind raises_boolean fun flag _ => ?_
    exact Raises.bind (raises_require_classified hentry) fun _ _ => ih hentries

theorem raises_authorizationHead {manifest : ManifestControl} {config : ReplayConfig} :
    Raises IsGateBValidationError (authorizationHead manifest config fields) := by
  refine Raises.bind (raises_exactFields _) fun _ _ => ?_
  refine Raises.bind (raises_require_failure _) fun _ _ => ?_
  refine Raises.bind (raises_require_classified (mem_classified_of_named List.mem_cons_self))
    fun _ _ => ?_
  refine Raises.bind (raises_require_failure _) fun _ _ => ?_
  refine Raises.bind (raises_require_failure _) fun _ _ => ?_
  refine Raises.bind (raises_require_failure _) fun _ _ => ?_
  refine Raises.bind raises_identifier fun _ _ => ?_
  refine Raises.bind raises_identifier fun _ _ => ?_
  refine Raises.bind (raises_require_failure _) fun _ _ => ?_
  refine Raises.bind (raises_sha256Text _) fun _ _ => ?_
  refine Raises.bind (raises_require_classified (mem_classified_of_role List.mem_cons_self))
    fun _ _ => ?_
  refine Raises.bind raises_nonempty fun _ _ => ?_
  exact Raises.bind raises_nonempty fun _ _ => Raises.pure _

/-- The four times and the clock, each behind those before it. -/
def IntervalReads (lib : Library) (now : Option Int) (value : Dict) : Prop :=
  ¬ LeavesCalendar lib (value.get "window_start") ∧
    ∀ windowStart, timestamp lib (value.get "window_start") "window_start" = .ok windowStart →
  ¬ LeavesCalendar lib (value.get "window_end") ∧
    ∀ windowEnd, timestamp lib (value.get "window_end") "window_end" = .ok windowEnd →
  ¬ LeavesCalendar lib (value.get "valid_from") ∧
    ∀ validFrom, timestamp lib (value.get "valid_from") "valid_from" = .ok validFrom →
  ¬ LeavesCalendar lib (value.get "expires_at") ∧
    ∀ expiresAt, timestamp lib (value.get "expires_at") "expires_at" = .ok expiresAt →
  windowStart < windowEnd → validFrom < expiresAt → ∃ current, now = some current

theorem raises_currentTime_iff {now : Option Int} :
    Raises IsGateBValidationError (currentTime now) ↔ ∃ current, now = some current := by
  cases now with
  | none => exact iff_of_false (fun h => Raises.error_iff.mp h) fun ⟨_, h⟩ => (by cases h)
  | some current => exact iff_of_true (Raises.ok _) ⟨current, rfl⟩

theorem raises_authorizationInterval_iff {now : Option Int} :
    Raises IsGateBValidationError (authorizationInterval lib now fields) ↔
      IntervalReads lib now fields := by
  have hend : ∀ windowStart windowEnd validFrom expiresAt : Int,
      Raises IsGateBValidationError (do
        let current ← currentTime now
        require (validFrom ≤ current) (classified "Gate B authorization is not currently valid."
          AUTHORIZATION_NOT_YET_VALID_FAILURE)
        require (current < expiresAt) (classified "Gate B authorization is not currently valid."
          AUTHORIZATION_EXPIRED_FAILURE)
        return (⟨windowStart, windowEnd, validFrom, expiresAt⟩ : Interval)) ↔
      ∃ current, now = some current := by
    intro windowStart windowEnd validFrom expiresAt
    rw [Raises.bind_iff, raises_currentTime_iff]
    refine and_iff_left fun current _ => ?_
    refine Raises.bind (raises_require_classified (mem_classified_of_named (by simp))) fun _ _ => ?_
    exact Raises.bind (raises_require_classified (mem_classified_of_named (by simp)))
      fun _ _ => Raises.pure _
  unfold authorizationInterval IntervalReads
  simp only [Raises.bind_iff (x := timestamp _ _ _), raises_timestamp_iff,
    raises_require_bind_iff (isGateBValidationError_failure _), hend]

/-- The role of an approval can be hashed, and its time stays within the calendar. -/
def ApprovalReads (lib : Library) (index : Nat) (s : Approvals) (rawApproval : Json) : Prop :=
  (∀ approval, exactFields rawApproval APPROVAL_FIELDS ("approvals[" ++ toString index ++ "]") =
      .ok approval → ¬ Unhashable (approval.get "role")) ∧
    ∀ head, approvalHead index s rawApproval = .ok head → ¬ LeavesCalendar lib head.approvedAt

theorem raises_approvalRole_iff {s : Approvals} :
    Raises IsGateBValidationError (approvalRole s value) ↔ ¬ Unhashable value := by
  unfold approvalRole
  rw [Raises.bind_iff, raises_isMember_iff]
  refine and_iff_left fun known _ => ?_
  split
  · split
    · exact Raises.error_iff.mpr (isGateBValidationError_classified
        (mem_classified_of_named (by simp)))
    · exact Raises.ok _
  · exact Raises.error_iff.mpr (isGateBValidationError_classified
      (mem_classified_of_named (by simp)))

theorem raises_checkApproval_iff {validFrom : Int} {index : Nat} {s : Approvals} :
    Raises IsGateBValidationError (checkApproval lib validFrom index s value) ↔
      ApprovalReads lib index s value := by
  have hhead : Raises IsGateBValidationError (approvalHead index s value) ↔
      ∀ approval, exactFields value APPROVAL_FIELDS ("approvals[" ++ toString index ++ "]") =
        .ok approval → ¬ Unhashable (approval.get "role") := by
    unfold approvalHead
    rw [raises_declared_bind_iff (raises_exactFields _)]
    refine forall₂_congr fun approval _ => ?_
    rw [Raises.bind_iff, raises_approvalRole_iff]
    refine and_iff_left fun role _ => ?_
    refine Raises.bind (raises_require_failure _) fun _ _ => ?_
    refine Raises.bind raises_nonempty fun _ _ => ?_
    exact Raises.bind raises_nonempty fun _ _ => Raises.pure _
  unfold checkApproval ApprovalReads
  rw [Raises.bind_iff, hhead]
  refine and_congr_right fun _ => forall₂_congr fun head _ => ?_
  rw [Raises.bind_iff, raises_timestamp_iff]
  refine and_iff_left fun approvedAt _ => ?_
  exact Raises.bind (raises_require_failure _) fun _ _ => Raises.pure _

/-- Every approval behind approvals that pass can be read. -/
def ApprovalsRead (lib : Library) (validFrom : Int) (approvals : Json) : Prop :=
  ∀ rows, approvals = .arr rows → rows.length = REQUIRED_APPROVAL_ROLES.length →
    ∀ before rawApproval after s, rows = before ++ rawApproval :: after →
      eachInOrder (checkApproval lib validFrom) 0 ⟨[], []⟩ before = .ok s →
        ApprovalReads lib before.length s rawApproval

theorem raises_checkApprovals_iff {validFrom : Int} :
    Raises IsGateBValidationError (checkApprovals lib validFrom value) ↔
      ApprovalsRead lib validFrom value := by
  have hrefused : Raises IsGateBValidationError (.error (classified
      "Gate B requires exactly five approval roles." APPROVAL_ROLE_COUNT_FAILURE) :
        Guarded (List String)) :=
    Raises.error_iff.mpr (isGateBValidationError_classified (mem_classified_of_named (by simp)))
  cases value with
  | arr rows =>
    unfold checkApprovals ApprovalsRead
    simp only [Json.arr.injEq, forall_eq']
    by_cases hcount : rows.length = REQUIRED_APPROVAL_ROLES.length
    · rw [if_neg (not_not.mpr hcount), Raises.bind_iff, Lib.raises_eachInOrder_iff]
      rw [and_iff_left fun s _ =>
        Raises.bind (raises_require_failure _) fun _ _ => Raises.pure _]
      simp only [Nat.zero_add, raises_checkApproval_iff, hcount, forall_const]
    · rw [if_pos hcount]
      exact iff_of_true hrefused fun h => absurd h hcount
  | null | bool | int | float | str | obj =>
    exact iff_of_true hrefused fun rows hrows => (by cases hrows)

theorem raises_checkControls : Raises IsGateBValidationError (checkControls value) := by
  refine Raises.bind (raises_exactFields _) fun controls _ => ?_
  refine Raises.bind raises_references fun _ _ => ?_
  refine Raises.bind (raises_requiredTrue fun name hname => ?_) fun _ _ => ?_
  · exact isGateBValidationError_classified (mem_classified_of_control hname)
  · exact raises_requiredFalse fun entry hentry => mem_classified_of_prohibited hentry

/-- The time of the custody stays within the calendar. -/
def CustodyReads (lib : Library) (value : Json) : Prop :=
  ∀ custody, custodyHead value = .ok custody → ¬ LeavesCalendar lib (custody.get "frozen_at")

theorem raises_checkCustody_iff {interval : Interval} :
    Raises IsGateBValidationError (checkCustody lib interval value) ↔ CustodyReads lib value := by
  have hhead : Raises IsGateBValidationError (custodyHead value) :=
    Raises.bind (raises_exactFields _) fun _ _ =>
      Raises.bind raises_references fun _ _ => Raises.pure _
  unfold checkCustody CustodyReads
  rw [raises_declared_bind_iff hhead]
  refine forall₂_congr fun custody _ => ?_
  rw [Raises.bind_iff, raises_timestamp_iff]
  refine and_iff_left fun frozenAt _ => ?_
  exact Raises.bind (raises_require_classified (mem_classified_of_named (by simp)))
    fun _ _ => raises_require_failure _

/-- The three times of the sampling stay within the calendar, each behind those before it. -/
def SamplingReads (lib : Library) (interval : Interval) (value : Json) : Prop :=
  ∀ sampling, samplingHead value = .ok sampling →
    ¬ LeavesCalendar lib (sampling.get "predeclared_at") ∧
      (samplingDeclared lib interval sampling = .ok () →
    ¬ LeavesCalendar lib (sampling.get "temporal_holdout_start") ∧
      ∀ holdoutStart, timestamp lib (sampling.get "temporal_holdout_start")
        "sampling.temporal_holdout_start" = .ok holdoutStart →
    ¬ LeavesCalendar lib (sampling.get "temporal_holdout_end"))

theorem raises_checkSampling_iff {manifest : ManifestControl} {interval : Interval} :
    Raises IsGateBValidationError (checkSampling lib manifest interval value) ↔
      SamplingReads lib interval value := by
  have hhead : Raises IsGateBValidationError (samplingHead value) := by
    refine Raises.bind (raises_exactFields _) fun _ _ => ?_
    refine Raises.bind raises_references fun _ _ => ?_
    exact Raises.bind (raises_requiredTrue fun _ _ => trivial) fun _ _ => Raises.pure _
  have hdeclared : ∀ sampling, Raises IsGateBValidationError (samplingDeclared lib interval sampling) ↔
      ¬ LeavesCalendar lib (sampling.get "predeclared_at") := by
    intro sampling
    unfold samplingDeclared
    rw [Raises.bind_iff, raises_timestamp_iff]
    exact and_iff_left fun _ _ => raises_require_failure _
  have hcounts : ∀ sampling, Raises IsGateBValidationError (samplingCounts lib manifest sampling) := by
    intro sampling
    refine Raises.bind (raises_integer _) fun _ _ => ?_
    refine Raises.bind (raises_integer _) fun _ _ => ?_
    refine Raises.bind (raises_require_failure _) fun _ _ => ?_
    exact Raises.bind (raises_require_failure _) fun _ _ => Raises.pure _
  unfold checkSampling SamplingReads
  rw [raises_declared_bind_iff hhead]
  refine forall₂_congr fun sampling _ => ?_
  rw [Raises.bind_iff, hdeclared]
  refine and_congr_right fun _ => ?_
  constructor
  · intro h hok
    have hstart := Raises.bind_iff.mp (h () hok)
    refine ⟨raises_timestamp_iff.mp hstart.1, fun holdoutStart hholdout => ?_⟩
    exact raises_timestamp_iff.mp (Raises.bind_iff.mp (hstart.2 holdoutStart hholdout)).1
  · intro h u hok
    obtain ⟨hstart, hend⟩ := h hok
    refine Raises.bind (raises_timestamp_iff.mpr hstart) fun holdoutStart hholdout => ?_
    refine Raises.bind (raises_timestamp_iff.mpr (hend holdoutStart hholdout)) fun _ _ => ?_
    exact Raises.bind (raises_require_failure _) fun _ _ => hcounts sampling

theorem raises_checkStopConditions :
    Raises IsGateBValidationError (checkStopConditions value) := by
  have hrates : ∀ value, Raises IsGateBValidationError (categoryRates value) := by
    intro value
    unfold categoryRates
    split
    · refine Lib.raises_eachInOrder_iff.mpr fun _ row _ rates _ _ => ?_
      refine Raises.bind (raises_exactFields _) fun _ _ => ?_
      refine Raises.bind raises_identifier fun _ _ => ?_
      refine Raises.bind (raises_require_failure _) fun _ _ => ?_
      refine Raises.bind (raises_require_failure _) fun _ _ => ?_
      exact Raises.bind raises_rateOf fun _ _ => Raises.pure _
    · exact Raises.error_iff.mpr trivial
  refine Raises.bind (raises_exactFields _) fun _ _ => ?_
  refine Raises.bind raises_rateOf fun _ _ => ?_
  refine Raises.bind (raises_requiredTrue fun _ _ => trivial) fun _ _ => ?_
  refine Raises.bind raises_nonempty fun _ _ => ?_
  exact Raises.bind (hrates _) fun _ _ => Raises.pure _

theorem raises_checkAdjudication :
    Raises IsGateBValidationError (checkAdjudication lib value) := by
  refine Raises.bind (raises_exactFields _) fun _ _ => ?_
  refine Raises.bind raises_references fun _ _ => ?_
  exact Raises.bind (raises_integer _) fun _ _ => raises_requiredTrue fun _ _ => trivial

/-- The time of the review stays within the calendar. -/
def ReviewReads (lib : Library) (identities : List String) (value : Json) : Prop :=
  ∀ review, reviewHead identities value = .ok review →
    ¬ LeavesCalendar lib (review.get "reviewed_at")

theorem raises_checkIndependentReview_iff {interval : Interval} {identities : List String} :
    Raises IsGateBValidationError (checkIndependentReview lib interval identities value) ↔
      ReviewReads lib identities value := by
  have hhead : Raises IsGateBValidationError (reviewHead identities value) := by
    refine Raises.bind (raises_exactFields _) fun _ _ => ?_
    refine Raises.bind (raises_require_failure _) fun _ _ => ?_
    refine Raises.bind raises_nonempty fun _ _ => ?_
    refine Raises.bind (raises_require_classified (mem_classified_of_named (by simp))) fun _ _ => ?_
    exact Raises.bind raises_nonempty fun _ _ => Raises.pure _
  unfold checkIndependentReview ReviewReads
  rw [raises_declared_bind_iff hhead]
  refine forall₂_congr fun review _ => ?_
  rw [Raises.bind_iff, raises_timestamp_iff]
  exact and_iff_left fun _ _ => raises_require_failure _

/-- The expiry of the claim stays within the calendar. -/
def ClaimReads (lib : Library) (value : Json) : Prop :=
  ∀ claim, claimHead value = .ok claim → ¬ LeavesCalendar lib (claim.get "expires_at")

theorem raises_checkClaimControl_iff {interval : Interval} :
    Raises IsGateBValidationError (checkClaimControl lib interval value) ↔ ClaimReads lib value := by
  have hhead : Raises IsGateBValidationError (claimHead value) :=
    Raises.bind (raises_exactFields _) fun _ _ =>
      Raises.bind raises_references fun _ _ => Raises.pure _
  have htexts : ∀ items, Raises IsGateBValidationError (triggerTexts items) := by
    intro items
    induction items with
    | nil => exact Raises.ok _
    | cons item items ih =>
      exact Raises.bind raises_nonempty fun _ _ => Raises.bind ih fun _ _ => Raises.pure _
  have htriggers : ∀ value, Raises IsGateBValidationError (checkTriggers value) := by
    intro value
    unfold checkTriggers
    split
    · exact Raises.bind (htexts _) fun _ _ => raises_require_failure _
    · exact Raises.error_iff.mpr trivial
  unfold checkClaimControl ClaimReads
  rw [raises_declared_bind_iff hhead]
  refine forall₂_congr fun claim _ => ?_
  rw [Raises.bind_iff, raises_timestamp_iff]
  refine and_iff_left fun expiresAt _ => ?_
  exact Raises.bind (raises_require_failure _) fun _ _ => htriggers _

/-! ### Artifacts -/

/-- The file system says of every component whether it is a link, up to the first link. -/
def SymlinksAnswer (fs : FileSystem) : String → List String → Prop
  | _, [] => True
  | current, part :: parts => (∃ linked, fs.isSymlink (joinPath current part) = some linked) ∧
      (fs.isSymlink (joinPath current part) = some false →
        SymlinksAnswer fs (joinPath current part) parts)

theorem raises_checkSymlinks_iff {refused : Exception} {current : String} {parts : List String}
    (hrefused : refused.IsGateBValidationError) :
    Raises IsGateBValidationError (checkSymlinks fs refused current parts) ↔
      SymlinksAnswer fs current parts := by
  induction parts generalizing current with
  | nil => exact iff_of_true (Raises.ok ()) trivial
  | cons part parts ih =>
    unfold checkSymlinks SymlinksAnswer
    rw [Raises.bind_iff, raises_answer_iff]
    refine and_congr_right fun _ => ?_
    simp only [answer_eq_ok, raises_require_bind_iff hrefused, ih]
    constructor
    · exact fun h hlinked => h false hlinked rfl
    · rintro h linked hlinked rfl
      exact h hlinked

/-- The file system resolves the root and the path below it, and says whether it is a file. -/
def ConfinedAnswers (fs : FileSystem) (root relativePath : String) : Prop :=
  ∃ rootPath, fs.resolve root = some rootPath ∧
    ∃ resolved, fs.resolve (joinPath rootPath relativePath) = some resolved ∧
      (pathParts rootPath <+: pathParts resolved → ∃ file, fs.isFile resolved = some file)

theorem raises_resolveConfinedPath_iff {refused : Exception} {root relativePath : String}
    (hrefused : refused.IsGateBValidationError) :
    Raises IsGateBValidationError (resolveConfinedPath fs root relativePath refused) ↔
      ConfinedAnswers fs root relativePath := by
  have hlast : ∀ resolved, Raises IsGateBValidationError (do
        let file ← answer (fs.isFile resolved)
        require (file = true) refused
        return resolved) ↔ ∃ file, fs.isFile resolved = some file := by
    intro resolved
    rw [Raises.bind_iff, raises_answer_iff]
    exact and_iff_left fun _ _ => Raises.bind (raises_require hrefused) fun _ _ => Raises.pure _
  unfold resolveConfinedPath ConfinedAnswers
  simp only [Raises.bind_iff (x := answer (fs.resolve _)), raises_answer_iff, answer_eq_ok,
    raises_require_bind_iff hrefused, hlast]
  constructor
  · rintro ⟨⟨rootPath, hroot⟩, h⟩
    obtain ⟨⟨resolved, hresolved⟩, hfile⟩ := h rootPath hroot
    exact ⟨rootPath, hroot, resolved, hresolved, hfile resolved hresolved⟩
  · rintro ⟨rootPath, hroot, resolved, hresolved, hfile⟩
    refine ⟨⟨rootPath, hroot⟩, fun rootPath' hroot' => ?_⟩
    obtain rfl := Option.some.inj (hroot.symm.trans hroot')
    refine ⟨⟨resolved, hresolved⟩, fun resolved' hresolved' => ?_⟩
    obtain rfl := Option.some.inj (hresolved.symm.trans hresolved')
    exact hfile

/-- The file system resolves the artifact of a snapshot and says whether it is a file. -/
def OverrideAnswers (fs : FileSystem) (role : String) (overrides : List (String × String)) : Prop :=
  ∀ path, overrides.lookup role = some path →
    ∃ resolved, fs.resolve path = some resolved ∧ ∃ file, fs.isFile resolved = some file

theorem raises_resolveOverride_iff {role : String} {overrides : List (String × String)} :
    Raises IsGateBValidationError (resolveOverride fs role overrides) ↔
      OverrideAnswers fs role overrides := by
  unfold resolveOverride OverrideAnswers
  cases overrides.lookup role with
  | none => exact iff_of_true (Raises.error_iff.mpr trivial) fun path h => (by cases h)
  | some path =>
    simp only [Option.some.injEq, forall_eq']
    rw [Raises.bind_iff, raises_answer_iff]
    have hfile : ∀ resolved, Raises IsGateBValidationError (do
          let file ← answer (fs.isFile resolved)
          require (file = true)
            (failure ("The snapshotted " ++ role ++ " artifact is unavailable."))
          return resolved) ↔ ∃ file, fs.isFile resolved = some file := by
      intro resolved
      rw [Raises.bind_iff, raises_answer_iff]
      exact and_iff_left fun _ _ => Raises.bind (raises_require_failure _) fun _ _ => Raises.pure _
    simp only [answer_eq_ok, hfile]
    constructor
    · rintro ⟨⟨resolved, hresolved⟩, h⟩
      exact ⟨resolved, hresolved, h resolved hresolved⟩
    · rintro ⟨resolved, hresolved, h⟩
      refine ⟨⟨resolved, hresolved⟩, fun resolved' hresolved' => ?_⟩
      obtain rfl := Option.some.inj (hresolved.symm.trans hresolved')
      exact h

/-- The file system answers what is asked about the path of an artifact. -/
def PathAnswers (fs : FileSystem) (root role declaredPath : String)
    (overrides : Option (List (String × String))) : Prop :=
  match overrides with
  | some overrides => OverrideAnswers fs role overrides
  | none => ∀ path, confinedRelativePath (.str declaredPath)
      ("Gate B " ++ role ++ " artifact path") = .ok path →
    (pathParts path).take 2 = ["local", "gate_b"] → SymlinksAnswer fs root (pathParts path) ∧
      (checkSymlinks fs (failure ("The bound " ++ role ++ " artifact path cannot use symlinks."))
        root (pathParts path) = .ok () → ConfinedAnswers fs root path)

theorem raises_resolveBoundArtifact_iff {root role declaredPath : String}
    {overrides : Option (List (String × String))} :
    Raises IsGateBValidationError (resolveBoundArtifact fs root role declaredPath overrides) ↔
      PathAnswers fs root role declaredPath overrides := by
  cases overrides with
  | some overrides => exact raises_resolveOverride_iff
  | none =>
    unfold resolveBoundArtifact PathAnswers
    dsimp only
    rw [raises_declared_bind_iff raises_confinedRelativePath]
    refine forall₂_congr fun path _ => ?_
    rw [raises_require_bind_iff (isGateBValidationError_failure _)]
    refine imp_congr_right fun _ => ?_
    rw [Raises.bind_iff, raises_checkSymlinks_iff (isGateBValidationError_failure _)]
    refine and_congr_right fun _ => ?_
    simp only [raises_resolveConfinedPath_iff (isGateBValidationError_failure _)]
    have hmessage : "The bound " ++ role ++ " artifact " ++ "path cannot use symlinks." =
        "The bound " ++ role ++ " artifact path cannot use symlinks." := by
      rw [String.append_assoc]
      rfl
    rw [hmessage]
    exact ⟨fun h hlinks => h () hlinks, fun h _ hlinks => h hlinks⟩

/-- The role of an artifact can be hashed, and the file system answers about its path. -/
def ArtifactReads (fs : FileSystem) (request : Request) (index : Nat)
    (artifacts : List ArtifactBinding) (rawArtifact : Json) : Prop :=
  (∀ artifact, exactFields rawArtifact ["path", "role", "sha256"]
      ("artifact_bindings.artifacts[" ++ toString index ++ "]") = .ok artifact →
        ¬ Unhashable (artifact.get "role")) ∧
    ∀ head, artifactHead index artifacts rawArtifact = .ok head →
      ∃ root, fs.resolve request.repositoryRoot = some root ∧
        PathAnswers fs root head.role head.declaredPath request.artifactPathOverrides

theorem artifactRole_eq_ok {artifacts : List ArtifactBinding} {role : String}
    (h : artifactRole artifacts value = .ok role) :
    value = .str role ∧ role ∈ REQUIRED_ARTIFACT_ROLES ∧
      role ∉ artifacts.map ArtifactBinding.role := by
  unfold artifactRole at h
  obtain ⟨known, hknown, h⟩ := Lib.bind_eq_ok.mp h
  split at h
  next s =>
    split at h
    next => cases h
    next hnew =>
      cases h
      exact ⟨rfl, of_decide_eq_true (Except.ok.inj hknown), hnew⟩
  next => cases h

theorem artifactHead_eq_ok {artifacts : List ArtifactBinding} {index : Nat} {head : ArtifactHead}
    (h : artifactHead index artifacts value = .ok head) :
    head.role ∈ REQUIRED_ARTIFACT_ROLES ∧ head.role ∉ artifacts.map ArtifactBinding.role := by
  obtain ⟨artifact, -, h⟩ := Lib.bind_eq_ok.mp h
  obtain ⟨role, hrole, h⟩ := Lib.bind_eq_ok.mp h
  obtain ⟨declaredPath, -, h⟩ := Lib.bind_eq_ok.mp h
  obtain ⟨expectedDigest, -, h⟩ := Lib.bind_eq_ok.mp h
  cases h
  exact (artifactRole_eq_ok hrole).2

theorem raises_bindArtifact_iff {index : Nat} {artifacts : List ArtifactBinding} :
    Raises IsGateBValidationError (bindArtifact env fs request index artifacts value) ↔
      ArtifactReads fs request index artifacts value := by
  have hrole : ∀ role, Raises IsGateBValidationError (artifactRole artifacts role) ↔
      ¬ Unhashable role := by
    intro role
    unfold artifactRole
    rw [Raises.bind_iff, raises_isMember_iff]
    refine and_iff_left fun known _ => ?_
    split
    · split
      · exact Raises.error_iff.mpr trivial
      · exact Raises.ok _
    · exact Raises.error_iff.mpr trivial
  have hhead : Raises IsGateBValidationError (artifactHead index artifacts value) ↔
      ∀ artifact, exactFields value ["path", "role", "sha256"]
        ("artifact_bindings.artifacts[" ++ toString index ++ "]") = .ok artifact →
          ¬ Unhashable (artifact.get "role") := by
    unfold artifactHead
    rw [raises_declared_bind_iff (raises_exactFields _)]
    refine forall₂_congr fun artifact _ => ?_
    rw [Raises.bind_iff, hrole]
    refine and_iff_left fun role _ => ?_
    refine Raises.bind raises_confinedRelativePath fun _ _ => ?_
    exact Raises.bind (raises_sha256Text _) fun _ _ => Raises.pure _
  unfold bindArtifact ArtifactReads
  rw [Raises.bind_iff, hhead]
  refine and_congr_right fun _ => forall₂_congr fun head hok => ?_
  have hregistered : artifactDigestFailure head.role ∈ CLASSIFIED_GATE_B_FAILURE_IDENTITIES :=
    mem_classified_of_role (List.mem_append_right _ (artifactHead_eq_ok hok).1)
  rw [Raises.bind_iff, raises_answer_iff]
  have hrest : ∀ root, Raises IsGateBValidationError (do
        let resolved ← resolveBoundArtifact fs root head.role head.declaredPath
          request.artifactPathOverrides
        let file ← safeFileBytesAndDigest env fs resolved head.role MAX_GATE_B_ARTIFACT_BYTES
        require (file.2 = head.expectedDigest)
          (classified ("Gate B " ++ head.role ++ " digest binding does not match.")
            (artifactDigestFailure head.role))
        return artifacts ++ [(⟨head.role, resolved, head.expectedDigest, file.1⟩ :
          ArtifactBinding)]) ↔
      PathAnswers fs root head.role head.declaredPath request.artifactPathOverrides := by
    intro root
    rw [Raises.bind_iff, raises_resolveBoundArtifact_iff]
    refine and_iff_left fun resolved _ => ?_
    refine Raises.bind raises_safeFileBytesAndDigest fun file _ => ?_
    exact Raises.bind (raises_require_classified hregistered) fun _ _ => Raises.pure _
  simp only [answer_eq_ok, hrest]
  constructor
  · rintro ⟨⟨root, hroot⟩, h⟩
    exact ⟨root, hroot, h root hroot⟩
  · rintro ⟨root, hroot, h⟩
    refine ⟨⟨root, hroot⟩, fun root' hroot' => ?_⟩
    obtain rfl := Option.some.inj (hroot.symm.trans hroot')
    exact h

/-- Every artifact behind artifacts that are bound can be read. -/
def ArtifactsRead (env : Environment) (fs : FileSystem) (request : Request) (value : Json) : Prop :=
  ∀ rows, value = .arr rows → rows.length = REQUIRED_ARTIFACT_ROLES.length →
    ∀ before rawArtifact after artifacts, rows = before ++ rawArtifact :: after →
      eachInOrder (bindArtifact env fs request) 0 [] before = .ok artifacts →
        ArtifactReads fs request before.length artifacts rawArtifact

theorem raises_bindArtifacts_iff :
    Raises IsGateBValidationError (bindArtifacts env fs request value) ↔
      ArtifactsRead env fs request value := by
  cases value with
  | arr rows =>
    unfold bindArtifacts ArtifactsRead
    simp only [Json.arr.injEq, forall_eq']
    by_cases hcount : rows.length = REQUIRED_ARTIFACT_ROLES.length
    · rw [if_neg (not_not.mpr hcount), Raises.bind_iff, Lib.raises_eachInOrder_iff]
      rw [and_iff_left fun s _ =>
        Raises.bind (raises_require_failure _) fun _ _ => Raises.pure _]
      simp only [Nat.zero_add, raises_bindArtifact_iff, hcount, forall_const]
    · rw [if_pos hcount]
      exact iff_of_true (Raises.error_iff.mpr trivial) fun h => absurd h hcount
  | null | bool | int | float | str | obj =>
    exact iff_of_true (Raises.error_iff.mpr trivial) fun rows hrows => (by cases hrows)

theorem raises_boundFiles : Raises IsGateBValidationError (boundFiles env fs request value) := by
  refine Raises.bind (raises_exactFields _) fun _ _ => ?_
  refine Raises.bind (raises_require_failure _) fun _ _ => ?_
  refine Raises.bind (raises_require_failure _) fun _ _ => ?_
  refine Raises.bind (raises_sha256Text _) fun _ _ => ?_
  refine Raises.bind (raises_sha256Text _) fun _ _ => ?_
  refine Raises.bind raises_safeFileBytesAndDigest fun _ _ => ?_
  refine Raises.bind raises_safeFileBytesAndDigest fun _ _ => ?_
  refine Raises.bind (raises_require_classified (mem_classified_of_role (by simp [DIGEST_ROLES])))
    fun _ _ => ?_
  exact Raises.bind (raises_require_classified (mem_classified_of_role (by simp [DIGEST_ROLES])))
    fun _ _ => Raises.pure _

end Raised

/-! ## §5 What loading raises -/

section Loading

open Exception (IsGateBValidationError)

variable (env : Environment) (fs : FileSystem) (path : String) (request : Request)

/-- As far as the checks pass, every role that is looked up can be hashed, every time that is
converted stays within the calendar, and the file system answers about every path. -/
def AuthorizationReads : Prop :=
  ∃ target, fs.resolve request.path = some target ∧
    ∀ document, loadBoundedJsonObject env fs target "Gate B authorization" = .ok document →
    ∀ head, authorizationHead request.manifest request.config document.value = .ok head →
      IntervalReads env.lib request.now document.value ∧
    ∀ interval, authorizationInterval env.lib request.now document.value = .ok interval →
      ApprovalsRead env.lib interval.validFrom (document.value.get "approvals") ∧
    ∀ identities, checkApprovals env.lib interval.validFrom (document.value.get "approvals") =
      .ok identities →
    ∀ files, boundFiles env fs request (document.value.get "artifact_bindings") = .ok files →
      ArtifactsRead env fs request files.rawArtifacts ∧
    ∀ artifacts, bindArtifacts env fs request files.rawArtifacts = .ok artifacts →
    checkControls (document.value.get "controls") = .ok () →
      CustodyReads env.lib (document.value.get "custody") ∧
    (checkCustody env.lib interval (document.value.get "custody") = .ok () →
      SamplingReads env.lib interval (document.value.get "sampling") ∧
    ∀ counts, checkSampling env.lib request.manifest interval (document.value.get "sampling") =
      .ok counts →
    ∀ thresholds, checkStopConditions (document.value.get "stop_conditions") = .ok thresholds →
    checkAdjudication env.lib (document.value.get "adjudication") = .ok () →
      ReviewReads env.lib identities (document.value.get "independent_review") ∧
    (checkIndependentReview env.lib interval identities
        (document.value.get "independent_review") = .ok () →
      ClaimReads env.lib (document.value.get "claim_control")))

/-- Behind a part without a result. -/
theorem raises_bind_unit_iff {α : Type} {x : Guarded Unit} {f : Unit → Guarded α} :
    Raises IsGateBValidationError (x >>= f) ↔ Raises IsGateBValidationError x ∧
      (x = .ok () → Raises IsGateBValidationError (f ())) :=
  Raises.bind_iff.trans (and_congr_right fun _ => ⟨fun h hx => h () hx, fun h _ hx => h hx⟩)

/-- Behind an answer of the file system. -/
theorem raises_answer_bind_iff {α β : Type} {reply : Option α} {f : α → Guarded β} :
    Raises IsGateBValidationError (answer reply >>= f) ↔
      ∃ a, reply = some a ∧ Raises IsGateBValidationError (f a) := by
  rw [Raises.bind_iff, raises_answer_iff]
  constructor
  · rintro ⟨⟨a, ha⟩, h⟩
    exact ⟨a, ha, h a (answer_eq_ok.mpr ha)⟩
  · rintro ⟨a, ha, h⟩
    refine ⟨⟨a, ha⟩, fun b hb => ?_⟩
    obtain rfl := Option.some.inj (ha.symm.trans (answer_eq_ok.mp hb))
    exact h

theorem raises_loadGateBAuthorization_iff :
    Raises IsGateBValidationError (loadGateBAuthorization env fs request) ↔
      AuthorizationReads env fs request := by
  unfold loadGateBAuthorization AuthorizationReads
  rw [raises_answer_bind_iff]
  refine exists_congr fun target => and_congr_right fun _ => ?_
  rw [raises_declared_bind_iff raises_loadBoundedJsonObject]
  refine forall₂_congr fun document _ => ?_
  rw [raises_declared_bind_iff raises_authorizationHead]
  refine forall₂_congr fun head _ => ?_
  rw [Raises.bind_iff, raises_authorizationInterval_iff]
  refine and_congr_right fun _ => forall₂_congr fun interval _ => ?_
  rw [Raises.bind_iff, raises_checkApprovals_iff]
  refine and_congr_right fun _ => forall₂_congr fun identities _ => ?_
  rw [raises_declared_bind_iff raises_boundFiles]
  refine forall₂_congr fun files _ => ?_
  rw [Raises.bind_iff, raises_bindArtifacts_iff]
  refine and_congr_right fun _ => forall₂_congr fun artifacts _ => ?_
  rw [raises_bind_unit_iff, and_iff_right raises_checkControls]
  refine imp_congr_right fun _ => ?_
  rw [raises_bind_unit_iff, raises_checkCustody_iff]
  refine and_congr_right fun _ => imp_congr_right fun _ => ?_
  rw [Raises.bind_iff, raises_checkSampling_iff]
  refine and_congr_right fun _ => forall₂_congr fun counts _ => ?_
  rw [raises_declared_bind_iff raises_checkStopConditions]
  refine forall₂_congr fun thresholds _ => ?_
  rw [raises_bind_unit_iff, and_iff_right raises_checkAdjudication]
  refine imp_congr_right fun _ => ?_
  rw [raises_bind_unit_iff, raises_checkIndependentReview_iff]
  refine and_congr_right fun _ => imp_congr_right fun _ => ?_
  rw [raises_bind_unit_iff, raises_checkClaimControl_iff]
  exact and_iff_left fun _ => Raises.pure _

/-- The two loaders fail as declared exactly as far as they read what can be read. -/
theorem raises_declared_iff :
    (Raises IsGateBValidationError (loadManifestControl env fs path) ↔
      ManifestReads env fs path) ∧
    (Raises IsGateBValidationError (loadGateBAuthorization env fs request) ↔
      AuthorizationReads env fs request) :=
  ⟨raises_loadManifestControl_iff, raises_loadGateBAuthorization_iff env fs request⟩

end Loading

end DecisionFirewall.Replay.GateB
