import DecisionFirewall.Base.Float
import DecisionFirewall.StageA.Adapter

/-!
# Requests, Decisions and Evidence of Execution

The typed principals and requests that the engine reads, and the records it produces:
assessments, decisions, approval requirements, authorization tokens, broker results
and verifications, each with the dictionary its `to_dict` returns.

- §1 principals
- §2 requests
- §3 assessments
- §4 decisions
- §5 authorization and execution

Latencies and explanations enter no digest and no check, and are left out. The values
of `float` are of an arbitrary type `F`.
-/

namespace DecisionFirewall.Phase3

open StageA

variable {F : Type}

def strs (xs : List String) : Json := .arr (xs.map .str)

/-! ## §1 Principals -/

inductive AgentSecurityStatus where
  | trusted
  | degraded
  | compromised
  | unknown
  deriving DecidableEq, Repr

def AgentSecurityStatus.text : AgentSecurityStatus → String
  | .trusted => "TRUSTED"
  | .degraded => "DEGRADED"
  | .compromised => "COMPROMISED"
  | .unknown => "UNKNOWN"

/-- `AuthenticatedPrincipal`; `authenticationReasonCode` is empty where there is none. -/
structure AuthenticatedPrincipal where
  id : String
  type : String
  authenticated : Bool
  roles : List String
  authority : List String
  securityStatus : AgentSecurityStatus
  identitySource : String
  humanSession : Bool
  authenticationReasonCode : String
  deriving DecidableEq, Repr

def AuthenticatedPrincipal.toDict (p : AuthenticatedPrincipal) : Dict :=
  [("id", .str p.id),
    ("type", .str p.type),
    ("authenticated", .bool p.authenticated),
    ("roles", strs p.roles),
    ("authority", strs p.authority),
    ("security_status", .str p.securityStatus.text),
    ("identity_source", .str p.identitySource),
    ("human_session", .bool p.humanSession)]
    ++ if p.authenticationReasonCode = "" then []
      else [("authentication_reason_code", .str p.authenticationReasonCode)]

/-- The principal of an invocation whose credential does not resolve. -/
def unresolvedPrincipal (reasonCode : String) : AuthenticatedPrincipal where
  id := "UNRESOLVED_INVOCATION"
  type := "UNAUTHENTICATED"
  authenticated := false
  roles := []
  authority := []
  securityStatus := .unknown
  identitySource := "firewall_trusted_credential_resolver"
  humanSession := false
  authenticationReasonCode := reasonCode

/-- `AgentClaims`: what the request says about its agent. -/
structure AgentClaims where
  id : String
  type : String
  authenticated : Bool
  roles : List String
  authority : List String
  securityStatus : AgentSecurityStatus
  deriving DecidableEq, Repr

def AgentClaims.toDict (a : AgentClaims) : Dict :=
  [("id", .str a.id),
    ("type", .str a.type),
    ("authenticated", .bool a.authenticated),
    ("roles", strs a.roles),
    ("authority", strs a.authority),
    ("security_status", .str a.securityStatus.text)]

/-! ## §2 Requests -/

structure ActionParameters where
  durationSeconds : Int
  preserveManagement : Bool
  deriving DecidableEq, Repr

def ActionParameters.toDict (p : ActionParameters) : Dict :=
  [("duration_seconds", .int p.durationSeconds),
    ("preserve_management", .bool p.preserveManagement)]

/-- `ActionType` has one member. -/
def NETWORK_ISOLATE : String := "NETWORK_ISOLATE"

structure ActionRequest where
  target : String
  parameters : ActionParameters
  deriving DecidableEq, Repr

def ActionRequest.command (a : ActionRequest) : Command :=
  ⟨NETWORK_ISOLATE, a.target, a.parameters.toDict⟩

inductive TargetType where
  | domainController
  | workstation
  deriving DecidableEq, Repr

def TargetType.text : TargetType → String
  | .domainController => "DOMAIN_CONTROLLER"
  | .workstation => "WORKSTATION"

inductive TargetCriticality where
  | low
  | medium
  | high
  | tier0
  deriving DecidableEq, Repr

def TargetCriticality.text : TargetCriticality → String
  | .low => "LOW"
  | .medium => "MEDIUM"
  | .high => "HIGH"
  | .tier0 => "TIER_0"

inductive TargetClassification where
  | publicData
  | internal
  | confidential
  | restricted
  deriving DecidableEq, Repr

def TargetClassification.text : TargetClassification → String
  | .publicData => "PUBLIC"
  | .internal => "INTERNAL"
  | .confidential => "CONFIDENTIAL"
  | .restricted => "RESTRICTED"

/-- `TargetClaims`: what the request says about its target. -/
structure TargetClaims where
  id : String
  type : TargetType
  criticality : TargetCriticality
  classification : TargetClassification
  dependencies : List String
  deriving DecidableEq, Repr

def TargetClaims.toDict (t : TargetClaims) : Dict :=
  [("id", .str t.id),
    ("type", .str t.type.text),
    ("criticality", .str t.criticality.text),
    ("classification", .str t.classification.text),
    ("dependencies", strs t.dependencies)]

structure EvidenceProvenance where
  id : String
  verified : Bool
  signature : String
  deriving DecidableEq, Repr

inductive EvidenceIntegrityStatus where
  | verified
  | unverified
  | failed
  deriving DecidableEq, Repr

def EvidenceIntegrityStatus.text : EvidenceIntegrityStatus → String
  | .verified => "VERIFIED"
  | .unverified => "UNVERIFIED"
  | .failed => "FAILED"

structure EvidenceIntegrity where
  status : EvidenceIntegrityStatus
  contentSha256 : String
  deriving DecidableEq, Repr

inductive TrustLevel where
  | high
  | medium
  | low
  | untrusted
  deriving DecidableEq, Repr

def TrustLevel.text : TrustLevel → String
  | .high => "HIGH"
  | .medium => "MEDIUM"
  | .low => "LOW"
  | .untrusted => "UNTRUSTED"

structure EvidenceItem (F : Type) where
  id : String
  subjectTargetId : String
  sourceType : String
  sourceInstance : String
  provenance : EvidenceProvenance
  integrity : EvidenceIntegrity
  observedAt : String
  reliability : F
  trustLevel : TrustLevel
  supports : List String
  contradicts : List String
  relevance : F
  payload : Dict
  untrustedText : String
  /-- the numbers of the payload are written as numbers -/
  numbersOk : (Json.obj payload).NumbersOk
  deriving Repr

namespace EvidenceItem

def toDict [PyFloat F] (item : EvidenceItem F) : Dict :=
  [("id", .str item.id),
    ("subject_target_id", .str item.subjectTargetId),
    ("source_type", .str item.sourceType),
    ("source_instance", .str item.sourceInstance),
    ("provenance", .obj
      [("id", .str item.provenance.id),
        ("verified", .bool item.provenance.verified),
        ("signature", .str item.provenance.signature)]),
    ("integrity", .obj
      [("status", .str item.integrity.status.text),
        ("content_sha256", .str item.integrity.contentSha256)]),
    ("observed_at", .str item.observedAt),
    ("reliability", PyFloat.toJson item.reliability),
    ("trust_level", .str item.trustLevel.text),
    ("supports", strs item.supports),
    ("contradicts", strs item.contradicts),
    ("relevance", PyFloat.toJson item.relevance),
    ("payload", .obj item.payload),
    ("untrusted_text", .str item.untrustedText)]

/-- The object that `content_sha256` is the digest of. -/
def content (item : EvidenceItem F) : Dict :=
  [("payload", .obj item.payload), ("untrusted_text", .str item.untrustedText)]

def computedContentSha256 (rt : Runtime) (item : EvidenceItem F) : String :=
  rt.sha256Json (.obj item.content)

/-- `content_digest_matches()`. -/
def ContentDigestMatches (rt : Runtime) (item : EvidenceItem F) : Prop :=
  item.computedContentSha256 rt = item.integrity.contentSha256

instance decidableContentDigestMatches (rt : Runtime) (item : EvidenceItem F) :
    Decidable (item.ContentDigestMatches rt) :=
  inferInstanceAs (Decidable (_ = _))

end EvidenceItem

inductive AgentRecommendation where
  | isolate
  | doNotIsolate
  | escalate
  deriving DecidableEq, Repr

def AgentRecommendation.text : AgentRecommendation → String
  | .isolate => "ISOLATE"
  | .doNotIsolate => "DO_NOT_ISOLATE"
  | .escalate => "ESCALATE"

structure DecisionRequest (F : Type) where
  schemaVersion : String
  requestId : String
  timestamp : String
  agent : AgentClaims
  action : ActionRequest
  target : TargetClaims
  evidence : List (EvidenceItem F)
  agentRecommendation : AgentRecommendation
  agentConfidence : F
  context : Dict
  deriving Repr

namespace DecisionRequest

variable [PyFloat F]

def toDict (r : DecisionRequest F) : Dict :=
  [("schema_version", .str r.schemaVersion),
    ("request_id", .str r.requestId),
    ("timestamp", .str r.timestamp),
    ("agent", .obj r.agent.toDict),
    ("action", r.action.command.toJson),
    ("target", .obj r.target.toDict),
    ("evidence", .arr (r.evidence.map fun item => .obj item.toDict)),
    ("agent_recommendation", .str r.agentRecommendation.text),
    ("agent_confidence", PyFloat.toJson r.agentConfidence),
    ("context", .obj r.context)]

def requestSha256 (rt : Runtime) (r : DecisionRequest F) : String := rt.sha256Json (.obj r.toDict)

def evidenceSha256 (rt : Runtime) (r : DecisionRequest F) : String :=
  rt.sha256Json (.arr (r.evidence.map fun item => .obj item.toDict))

end DecisionRequest

/-! ## §3 Assessments -/

structure AuthorityAssessment where
  authenticated : Bool
  principalId : String
  claimedAgentId : String
  attributesMatch : Bool
  trustedRoles : List String
  trustedAuthority : List String
  requiredAuthority : String
  authorized : Bool
  reasonCodes : List String
  deriving DecidableEq, Repr

def AuthorityAssessment.toDict (a : AuthorityAssessment) : Dict :=
  [("authenticated", .bool a.authenticated),
    ("principal_id", .str a.principalId),
    ("claimed_agent_id", .str a.claimedAgentId),
    ("attributes_match", .bool a.attributesMatch),
    ("trusted_roles", strs a.trustedRoles),
    ("trusted_authority", strs a.trustedAuthority),
    ("required_authority", .str a.requiredAuthority),
    ("authorized", .bool a.authorized),
    ("reason_codes", strs a.reasonCodes)]

/-- `freshness`. -/
inductive Freshness where
  | future
  | stale
  | fresh
  deriving DecidableEq, Repr

def Freshness.text : Freshness → String
  | .future => "FUTURE"
  | .stale => "STALE"
  | .fresh => "FRESH"

structure EvidenceItemAssessment (F : Type) where
  evidenceId : String
  subjectTargetId : String
  sourceType : String
  sourceInstance : String
  provenanceVerified : Bool
  integrityVerified : Bool
  contentDigestMatches : Bool
  freshness : Freshness
  ageSeconds : F
  reliability : F
  trustWeight : F
  relevance : F
  supports : List String
  contradicts : List String
  poisoned : Bool
  score : F
  reasonCodes : List String
  deriving DecidableEq, Repr

def EvidenceItemAssessment.toDict [PyFloat F] (i : EvidenceItemAssessment F) : Dict :=
  [("evidence_id", .str i.evidenceId),
    ("subject_target_id", .str i.subjectTargetId),
    ("source_type", .str i.sourceType),
    ("source_instance", .str i.sourceInstance),
    ("provenance_verified", .bool i.provenanceVerified),
    ("integrity_verified", .bool i.integrityVerified),
    ("content_digest_matches", .bool i.contentDigestMatches),
    ("freshness", .str i.freshness.text),
    ("age_seconds", PyFloat.toJson i.ageSeconds),
    ("reliability", PyFloat.toJson i.reliability),
    ("trust_weight", PyFloat.toJson i.trustWeight),
    ("relevance", PyFloat.toJson i.relevance),
    ("supports", strs i.supports),
    ("contradicts", strs i.contradicts),
    ("poisoned", .bool i.poisoned),
    ("score", PyFloat.toJson i.score),
    ("reason_codes", strs i.reasonCodes)]

structure EvidenceAssessment (F : Type) where
  overallStrength : F
  decisionGrade : Bool
  automationGrade : Bool
  corroboratingSources : Nat
  conflictCount : Nat
  staleEvidenceIds : List String
  missingExpectedSources : List String
  invalidEvidenceIds : List String
  poisonedEvidenceIds : List String
  assessedItems : List (EvidenceItemAssessment F)
  reasonCodes : List String
  deriving DecidableEq, Repr

def EvidenceAssessment.toDict [PyFloat F] (e : EvidenceAssessment F) : Dict :=
  [("overall_strength", PyFloat.toJson e.overallStrength),
    ("decision_grade", .bool e.decisionGrade),
    ("automation_grade", .bool e.automationGrade),
    ("corroborating_sources", .int e.corroboratingSources),
    ("conflict_count", .int e.conflictCount),
    ("stale_evidence_ids", strs e.staleEvidenceIds),
    ("missing_expected_sources", strs e.missingExpectedSources),
    ("invalid_evidence_ids", strs e.invalidEvidenceIds),
    ("poisoned_evidence_ids", strs e.poisonedEvidenceIds),
    ("assessed_items", .arr (e.assessedItems.map fun i => .obj i.toDict)),
    ("reason_codes", strs e.reasonCodes)]

/-- `isolation_consequence` and the three impacts. -/
inductive ImpactLevel where
  | none
  | low
  | medium
  | high
  | critical
  deriving DecidableEq, Repr

def ImpactLevel.text : ImpactLevel → String
  | .none => "NONE"
  | .low => "LOW"
  | .medium => "MEDIUM"
  | .high => "HIGH"
  | .critical => "CRITICAL"

inductive BlastRadius where
  | localHost
  | service
  | enterprise
  deriving DecidableEq, Repr

def BlastRadius.text : BlastRadius → String
  | .localHost => "LOCAL"
  | .service => "SERVICE"
  | .enterprise => "ENTERPRISE"

/-- `level`. -/
inductive ConsequenceLevel where
  | low
  | medium
  | high
  | critical
  deriving DecidableEq, Repr

def ConsequenceLevel.text : ConsequenceLevel → String
  | .low => "LOW"
  | .medium => "MEDIUM"
  | .high => "HIGH"
  | .critical => "CRITICAL"

structure ConsequenceAssessment (F : Type) where
  score : F
  level : ConsequenceLevel
  reversible : Bool
  blastRadius : BlastRadius
  downtimeMinutes : Int
  privilegeImpact : String
  missionImpact : ImpactLevel
  safetyImpact : ImpactLevel
  availabilityImpact : ImpactLevel
  dependencyCount : Nat
  cascadingEffectPossible : Bool
  humanApprovalRequired : Bool
  reasonCodes : List String
  deriving DecidableEq, Repr

def ConsequenceAssessment.toDict [PyFloat F] (c : ConsequenceAssessment F) : Dict :=
  [("score", PyFloat.toJson c.score),
    ("level", .str c.level.text),
    ("reversible", .bool c.reversible),
    ("blast_radius", .str c.blastRadius.text),
    ("downtime_minutes", .int c.downtimeMinutes),
    ("privilege_impact", .str c.privilegeImpact),
    ("mission_impact", .str c.missionImpact.text),
    ("safety_impact", .str c.safetyImpact.text),
    ("availability_impact", .str c.availabilityImpact.text),
    ("dependency_count", .int c.dependencyCount),
    ("cascading_effect_possible", .bool c.cascadingEffectPossible),
    ("human_approval_required", .bool c.humanApprovalRequired),
    ("reason_codes", strs c.reasonCodes)]

/-! ## §4 Decisions -/

/-- `ApprovalRequirement`. -/
structure ApprovalRequirement where
  approvalId : String
  issuerInstanceId : String
  requestId : String
  decisionId : String
  decisionContextSha256 : String
  policyId : String
  policyVersion : String
  policySha256 : String
  actionType : String
  targetId : String
  parametersSha256 : String
  evidenceSha256 : String
  reasonCodes : List String
  requiredApprovingAuthority : String
  createdAt : String
  expiresAt : String
  scopeSha256 : String
  signature : String
  status : String
  deriving DecidableEq, Repr

/-- The scope that `scope_sha256` is the digest of. -/
def ApprovalRequirement.scope (r : ApprovalRequirement) : Dict :=
  [("approval_id", .str r.approvalId),
    ("issuer_instance_id", .str r.issuerInstanceId),
    ("request_id", .str r.requestId),
    ("decision_id", .str r.decisionId),
    ("decision_context_sha256", .str r.decisionContextSha256),
    ("policy_id", .str r.policyId),
    ("policy_version", .str r.policyVersion),
    ("policy_sha256", .str r.policySha256),
    ("action_type", .str r.actionType),
    ("target_id", .str r.targetId),
    ("parameters_sha256", .str r.parametersSha256),
    ("evidence_sha256", .str r.evidenceSha256),
    ("reason_codes", strs r.reasonCodes),
    ("required_approving_authority", .str r.requiredApprovingAuthority),
    ("created_at", .str r.createdAt),
    ("expires_at", .str r.expiresAt),
    ("status", .str r.status)]

/-- One entry of `constraints`. -/
structure Constraint where
  parameter : String
  requested : Json
  permitted : Json
  reasonCode : String
  deriving Repr

def Constraint.toDict (c : Constraint) : Dict :=
  [("parameter", .str c.parameter),
    ("requested", c.requested),
    ("permitted", c.permitted),
    ("reason_code", .str c.reasonCode)]

/-- `DecisionRecord`; an empty `requested_action` is `none`. -/
structure DecisionRecord (F : Type) where
  decisionId : String
  requestId : String
  decidedAt : String
  policyId : String
  policyVersion : String
  policySha256 : String
  outcome : DecisionOutcome
  reasonCodes : List String
  applicableRules : List String
  requestedAction : Option Command
  permittedAction : Option Command
  authority : AuthorityAssessment
  evidence : Option (EvidenceAssessment F)
  consequence : Option (ConsequenceAssessment F)
  constraints : List Constraint
  requestSha256 : String
  decisionContextSha256 : String
  approvalRequirement : Option ApprovalRequirement
  deriving Repr

namespace DecisionRecord

variable [PyFloat F]

/-- `to_dict()` without latency, explanation and approval requirement. -/
def authorizationProjection (d : DecisionRecord F) : Dict :=
  [("decision_id", .str d.decisionId),
    ("request_id", .str d.requestId),
    ("decided_at", .str d.decidedAt),
    ("policy_id", .str d.policyId),
    ("policy_version", .str d.policyVersion),
    ("policy_sha256", .str d.policySha256),
    ("outcome", .str d.outcome.text),
    ("reason_codes", strs d.reasonCodes),
    ("applicable_rules", strs d.applicableRules),
    ("requested_action", (d.requestedAction.map Command.toJson).getD (.obj [])),
    ("permitted_action", (d.permittedAction.map Command.toJson).getD .null),
    ("authority", .obj d.authority.toDict),
    ("evidence", (d.evidence.map fun e => Json.obj e.toDict).getD .null),
    ("consequence", (d.consequence.map fun c => Json.obj c.toDict).getD .null),
    ("constraints", .arr (d.constraints.map fun c => .obj c.toDict)),
    ("request_sha256", .str d.requestSha256),
    ("decision_context_sha256", .str d.decisionContextSha256)]

/-- `authorization_sha256()`. -/
def authorizationSha256 (rt : Runtime) (d : DecisionRecord F) : String :=
  rt.sha256Json (.obj d.authorizationProjection)

end DecisionRecord

/-- One entry of `checks`. -/
structure VerificationCheck where
  check : String
  passed : Bool
  detail : String
  deriving DecidableEq, Repr

/-- `DecisionVerification` without its signature. -/
structure DecisionVerification where
  verificationId : String
  verifierInstanceId : String
  decisionId : String
  decisionContextSha256 : String
  decisionSha256 : String
  requestSha256 : String
  principalId : String
  principalResolutionSha256 : String
  policySha256 : String
  passed : Bool
  checks : List VerificationCheck
  blockingReasonCodes : List String
  verifiedAt : String
  deriving DecidableEq, Repr

def DecisionVerification.toDict (v : DecisionVerification) : Dict :=
  [("verification_id", .str v.verificationId),
    ("verifier_instance_id", .str v.verifierInstanceId),
    ("decision_id", .str v.decisionId),
    ("decision_context_sha256", .str v.decisionContextSha256),
    ("decision_sha256", .str v.decisionSha256),
    ("request_sha256", .str v.requestSha256),
    ("principal_id", .str v.principalId),
    ("principal_resolution_sha256", .str v.principalResolutionSha256),
    ("policy_sha256", .str v.policySha256),
    ("passed", .bool v.passed),
    ("checks", .arr (v.checks.map fun c => .obj
      [("check", .str c.check), ("passed", .bool c.passed), ("detail", .str c.detail)])),
    ("blocking_reason_codes", strs v.blockingReasonCodes),
    ("verified_at", .str v.verifiedAt)]

/-! ## §5 Authorization and execution -/

/-- `AuthorizationToken`. -/
structure AuthorizationToken where
  tokenId : String
  issuerInstanceId : String
  requestId : String
  decisionId : String
  agentId : String
  actionType : String
  targetId : String
  permittedParameters : Dict
  issuedAt : String
  expiresAt : String
  policyId : String
  policyVersion : String
  policySha256 : String
  decisionContextSha256 : String
  targetStateSha256 : String
  nonce : String
  signature : String
  deriving Repr

namespace AuthorizationToken

def unsignedDict (t : AuthorizationToken) : Dict :=
  [("token_id", .str t.tokenId),
    ("issuer_instance_id", .str t.issuerInstanceId),
    ("request_id", .str t.requestId),
    ("decision_id", .str t.decisionId),
    ("agent_id", .str t.agentId),
    ("action_type", .str t.actionType),
    ("target_id", .str t.targetId),
    ("permitted_parameters", .obj t.permittedParameters),
    ("issued_at", .str t.issuedAt),
    ("expires_at", .str t.expiresAt),
    ("policy_id", .str t.policyId),
    ("policy_version", .str t.policyVersion),
    ("policy_sha256", .str t.policySha256),
    ("decision_context_sha256", .str t.decisionContextSha256),
    ("target_state_sha256", .str t.targetStateSha256),
    ("nonce", .str t.nonce)]

end AuthorizationToken

/-- `BrokerResult`. -/
structure BrokerResult where
  attemptId : String
  tokenId : String
  requestId : String
  decisionId : String
  actionType : String
  targetId : String
  parameters : Dict
  executedAt : String
  attempted : Bool
  accepted : Bool
  reportedSuccess : Bool
  message : String
  stateBeforeSha256 : String
  stateAfterSha256 : String
  deriving Repr

def BrokerResult.toDict (r : BrokerResult) : Dict :=
  [("attempt_id", .str r.attemptId),
    ("token_id", .str r.tokenId),
    ("request_id", .str r.requestId),
    ("decision_id", .str r.decisionId),
    ("action_type", .str r.actionType),
    ("target_id", .str r.targetId),
    ("parameters", .obj r.parameters),
    ("executed_at", .str r.executedAt),
    ("attempted", .bool r.attempted),
    ("accepted", .bool r.accepted),
    ("reported_success", .bool r.reportedSuccess),
    ("message", .str r.message),
    ("state_before_sha256", .str r.stateBeforeSha256),
    ("state_after_sha256", .str r.stateAfterSha256)]

/-- `PostActionVerification`. -/
structure PostActionVerification where
  verificationId : String
  requestId : String
  decisionId : String
  attemptId : String
  tokenId : String
  actionType : String
  targetId : String
  parametersSha256 : String
  status : VerificationStatus
  expectedState : Dict
  observedState : Dict
  changedFields : List String
  unexpectedFields : List String
  rollbackRequired : Bool
  reasonCodes : List String
  deriving Repr

def PostActionVerification.toDict (v : PostActionVerification) : Dict :=
  [("verification_id", .str v.verificationId),
    ("request_id", .str v.requestId),
    ("decision_id", .str v.decisionId),
    ("attempt_id", .str v.attemptId),
    ("token_id", .str v.tokenId),
    ("action_type", .str v.actionType),
    ("target_id", .str v.targetId),
    ("parameters_sha256", .str v.parametersSha256),
    ("status", .str v.status.text),
    ("expected_state", .obj v.expectedState),
    ("observed_state", .obj v.observedState),
    ("changed_fields", strs v.changedFields),
    ("unexpected_fields", strs v.unexpectedFields),
    ("rollback_required", .bool v.rollbackRequired),
    ("reason_codes", strs v.reasonCodes)]

end DecisionFirewall.Phase3
