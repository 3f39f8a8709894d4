import DecisionFirewall.Phase3.Consequence
import DecisionFirewall.Phase3.Evidence

/-!
# Decisions

`phase3/decision.py`: the assessment of the authority, the cascade of decision rules and
the record made of them.

- §1 ordered reasons
- §2 the authority
- §3 the decision
- §4 the evaluation of a request
-/

namespace DecisionFirewall.Phase3

open StageA Lib.Tally

variable {F : Type}

/-! ## §1 Ordered reasons -/

/-- `_REASON_PRIORITY`. -/
def REASON_PRIORITY : List String :=
  ["INVALID_REQUEST", "AGENT_NOT_AUTHENTICATED", "INVOCATION_CREDENTIAL_INVALID",
    "INVOCATION_CREDENTIAL_REJECTED", "AGENT_IDENTITY_MISMATCH", "AGENT_ATTRIBUTE_MISMATCH",
    "AGENT_SECURITY_STATUS_INVALID", "TARGET_UNKNOWN", "TARGET_CLAIM_MISMATCH",
    "ACTION_TARGET_TYPE_PROHIBITED", "PROTECTED_ASSET", "INSUFFICIENT_AUTHORITY",
    "EVIDENCE_SOURCE_UNTRUSTED", "EVIDENCE_SUBJECT_MISMATCH", "EVIDENCE_SOURCE_TYPE_MISMATCH",
    "EVIDENCE_TRUST_CLAIM_MISMATCH", "EVIDENCE_PROVENANCE_INVALID", "EVIDENCE_INTEGRITY_INVALID",
    "EVIDENCE_CONTENT_DIGEST_MISMATCH", "PROMPT_INJECTION_DETECTED", "FUTURE_EVIDENCE",
    "STALE_EVIDENCE", "CONFLICTING_EVIDENCE", "MISSING_EXPECTED_EVIDENCE",
    "INSUFFICIENT_CORROBORATION", "INSUFFICIENT_EVIDENCE_STRENGTH",
    "AUTHENTICATION_SERVICE_DEPENDENCY", "CASCADING_EFFECT_POSSIBLE",
    "HIGH_OPERATIONAL_CONSEQUENCE", "HIGH_ISOLATION_CONSEQUENCE", "HUMAN_APPROVAL_REQUIRED",
    "DURATION_CONSTRAINED", "MANAGEMENT_ACCESS_CONSTRAINED", "AUTHORIZED_AGENT",
    "DECISION_GRADE_EVIDENCE", "ACCEPTABLE_OPERATIONAL_CONSEQUENCE", "REVERSIBLE_ACTION"]

/-- `_ordered_reasons(values)`: the known reasons by priority, then the others sorted. -/
def orderedReasons (values : List String) : List String :=
  REASON_PRIORITY.filter (· ∈ values) ++
    sortedTexts (values.dedup.filter (· ∉ REASON_PRIORITY))

theorem mem_orderedReasons {values : List String} {r : String} :
    r ∈ orderedReasons values ↔ r ∈ values := by
  simp only [orderedReasons, sortedTexts, List.mem_append, List.mem_filter, List.mem_mergeSort,
    List.mem_dedup, decide_eq_true_eq]
  tauto

/-- Sorting puts two lists with the same distinct entries in one order. -/
theorem sortedTexts_eq_of_mem {xs ys : List String} (hx : xs.Nodup) (hy : ys.Nodup)
    (h : ∀ r, r ∈ xs ↔ r ∈ ys) : sortedTexts xs = sortedTexts ys :=
  sortedTexts_perm ((List.perm_ext_iff_of_nodup hx hy).mpr h)

/-- Only which reasons are recorded counts, not how often or in which order. -/
theorem orderedReasons_congr {xs ys : List String} (h : ∀ r, r ∈ xs ↔ r ∈ ys) :
    orderedReasons xs = orderedReasons ys := by
  unfold orderedReasons
  have hfilter : REASON_PRIORITY.filter (· ∈ xs) = REASON_PRIORITY.filter (· ∈ ys) := by
    apply List.filter_congr
    intro r _
    simp only [h r]
  have hsorted : sortedTexts (xs.dedup.filter (· ∉ REASON_PRIORITY)) =
      sortedTexts (ys.dedup.filter (· ∉ REASON_PRIORITY)) := by
    apply sortedTexts_eq_of_mem (xs.nodup_dedup.filter _) (ys.nodup_dedup.filter _)
    intro r
    simp only [List.mem_filter, List.mem_dedup, h r]
  rw [hfilter, hsorted]

/-- A known reason drops out of the order where it drops out of the records. -/
theorem orderedReasons_filter {xs : List String} {reason : String}
    (hknown : reason ∈ REASON_PRIORITY) :
    (orderedReasons xs).filter (· ≠ reason) = orderedReasons (xs.filter (· ≠ reason)) := by
  unfold orderedReasons
  rw [List.filter_append]
  congr 1
  · rw [List.filter_filter]
    apply List.filter_congr
    intro r _
    simp only [List.mem_filter, decide_eq_true_eq, ← Bool.decide_and]
    exact decide_eq_decide.mpr and_comm
  · have hkeep : (sortedTexts (xs.dedup.filter (· ∉ REASON_PRIORITY))).filter (· ≠ reason) =
        sortedTexts (xs.dedup.filter (· ∉ REASON_PRIORITY)) := by
      rw [List.filter_eq_self]
      intro r hr
      simp only [sortedTexts, List.mem_mergeSort, List.mem_filter, decide_eq_true_eq] at hr ⊢
      exact fun heq => hr.2 (heq ▸ hknown)
    rw [hkeep]
    apply sortedTexts_eq_of_mem (xs.nodup_dedup.filter _) ((List.nodup_dedup _).filter _)
    intro r
    simp only [List.mem_filter, List.mem_dedup, decide_eq_true_eq]
    constructor
    · rintro ⟨hr, hnot⟩
      exact ⟨⟨hr, fun heq => hnot (heq ▸ hknown)⟩, hnot⟩
    · rintro ⟨⟨hr, -⟩, hnot⟩
      exact ⟨hr, hnot⟩

/-! ## §2 The authority -/

/-- `attributes_match`: roles and authority are compared as sets. -/
def AttributesMatch (principal : AuthenticatedPrincipal) (claims : AgentClaims) : Prop :=
  principal.type = claims.type ∧ principal.authenticated = claims.authenticated ∧
    principal.roles.toFinset = claims.roles.toFinset ∧
    principal.authority.toFinset = claims.authority.toFinset ∧
    principal.securityStatus = claims.securityStatus

instance decidableAttributesMatch (principal : AuthenticatedPrincipal) (claims : AgentClaims) :
    Decidable (AttributesMatch principal claims) :=
  inferInstanceAs (Decidable (_ ∧ _))

/-- `assess_authority(request, principal, required_authority=…)`. -/
def assessAuthority (claims : AgentClaims) (principal : AuthenticatedPrincipal)
    (requiredAuthority : String) : AuthorityAssessment where
  authenticated := principal.authenticated
  principalId := principal.id
  claimedAgentId := claims.id
  attributesMatch := AttributesMatch principal claims
  trustedRoles := sortedTexts principal.roles
  trustedAuthority := sortedTexts principal.authority
  requiredAuthority := requiredAuthority
  authorized := requiredAuthority ∈ principal.authority
  reasonCodes := orderedReasons (
    flag (principal.authenticationReasonCode ≠ "") principal.authenticationReasonCode ++
    flag (principal.authenticated = false) "AGENT_NOT_AUTHENTICATED" ++
    flag (principal.id ≠ claims.id) "AGENT_IDENTITY_MISMATCH" ++
    flag (¬ AttributesMatch principal claims) "AGENT_ATTRIBUTE_MISMATCH" ++
    flag (principal.securityStatus ≠ .trusted) "AGENT_SECURITY_STATUS_INVALID" ++
    flag (requiredAuthority ∉ principal.authority) "INSUFFICIENT_AUTHORITY")

/-- The reasons that make `identity_fatal`. -/
def IDENTITY_FATAL_REASONS : List String :=
  ["AGENT_NOT_AUTHENTICATED", "AGENT_IDENTITY_MISMATCH", "AGENT_ATTRIBUTE_MISMATCH",
    "AGENT_SECURITY_STATUS_INVALID"]

/-- `identity_fatal`. -/
def AuthorityAssessment.identityFatal (a : AuthorityAssessment) : Bool :=
  IDENTITY_FATAL_REASONS.any fun r => r ∈ a.reasonCodes

/-- No identity reason is fatal exactly to the principal that the request claims. -/
theorem identityFatal_eq_false {claims : AgentClaims} {principal : AuthenticatedPrincipal}
    {requiredAuthority : String}
    (h : (assessAuthority claims principal requiredAuthority).identityFatal = false) :
    principal.authenticated = true ∧ principal.id = claims.id ∧
      AttributesMatch principal claims ∧ principal.securityStatus = .trusted := by
  simp only [AuthorityAssessment.identityFatal, IDENTITY_FATAL_REASONS, List.any_cons,
    List.any_nil, Bool.or_false, Bool.or_eq_false_iff, decide_eq_false_iff_not] at h
  obtain ⟨hauthenticated, hidentity, hattributes, hstatus⟩ := h
  simp only [assessAuthority, mem_orderedReasons, List.mem_append, mem_flag, not_or, not_and]
    at hauthenticated hidentity hattributes hstatus
  refine ⟨?_, ?_, ?_, ?_⟩
  · by_contra hne
    exact hauthenticated.1.1.1.1.2 (Bool.not_eq_true _ |>.mp hne) trivial
  · by_contra hne
    exact hidentity.1.1.1.2 hne trivial
  · by_contra hne
    exact hattributes.1.1.2 hne trivial
  · by_contra hne
    exact hstatus.1.2 hne trivial

/-! ## §3 The decision -/

/-- What `build_decision` is given besides the approval issuer. -/
structure DecisionInputs (F : Type) where
  request : DecisionRequest F
  principal : AuthenticatedPrincipal
  policy : Policy F
  evidence : EvidenceAssessment F
  consequence : ConsequenceAssessment F
  target : TargetRecord
  actionPolicy : ActionPolicy
  decidedAt : Int
  decisionId : String

/-- `_target_claims_match(request, target)`. -/
def TargetClaimsMatch (claims : TargetClaims) (target : TargetRecord) : Prop :=
  claims.id = target.id ∧ claims.type = target.type ∧ claims.criticality = target.criticality ∧
    claims.classification = target.classification ∧
    claims.dependencies.toFinset = target.dependencies.toFinset

instance decidableTargetClaimsMatch (claims : TargetClaims) (target : TargetRecord) :
    Decidable (TargetClaimsMatch claims target) :=
  inferInstanceAs (Decidable (_ ∧ _))

namespace DecisionInputs

variable (inputs : DecisionInputs F)

def requiredAuthority : String :=
  if inputs.target.criticality = .tier0 then inputs.actionPolicy.tier0RequiredAuthority
  else inputs.actionPolicy.requiredAuthority

def authority : AuthorityAssessment :=
  assessAuthority inputs.request.agent inputs.principal inputs.requiredAuthority

def requestedParameters : ActionParameters := inputs.request.action.parameters

/-- The requested duration exceeds the maximum. -/
def DurationConstrained : Prop :=
  inputs.actionPolicy.maximumDurationSeconds < inputs.requestedParameters.durationSeconds

/-- The request gives up the management access that the policy keeps. -/
def ManagementConstrained : Prop :=
  inputs.actionPolicy.preserveManagementRequired = true ∧
    inputs.requestedParameters.preserveManagement = false

instance decidableDurationConstrained : Decidable inputs.DurationConstrained :=
  inferInstanceAs (Decidable (_ < _))

instance decidableManagementConstrained : Decidable inputs.ManagementConstrained :=
  inferInstanceAs (Decidable (_ ∧ _))

def permittedParameters : ActionParameters where
  durationSeconds := if inputs.DurationConstrained then inputs.actionPolicy.maximumDurationSeconds
    else inputs.requestedParameters.durationSeconds
  preserveManagement := if inputs.ManagementConstrained then true
    else inputs.requestedParameters.preserveManagement

def constraints : List Constraint :=
  flag inputs.DurationConstrained
      ⟨"duration_seconds", .int inputs.requestedParameters.durationSeconds,
        .int inputs.actionPolicy.maximumDurationSeconds, "DURATION_CONSTRAINED"⟩ ++
    flag inputs.ManagementConstrained
      ⟨"preserve_management", .bool false, .bool true, "MANAGEMENT_ACCESS_CONSTRAINED"⟩

/-- `conditions[condition]`. -/
def condition : RuleCondition → Bool
  | .identityFatal => inputs.authority.identityFatal
  | .evidenceFatal => inputs.evidence.invalidEvidenceIds ≠ [] ||
      inputs.evidence.poisonedEvidenceIds ≠ []
  | .targetTypeProhibited => inputs.target.type ∉ inputs.actionPolicy.allowedTargetTypes
  | .targetTier0 => inputs.target.criticality = .tier0
  | .consequenceRequiresApproval => inputs.consequence.humanApprovalRequired
  | .authorityInsufficient => !inputs.authority.authorized
  | .evidenceNotAutomationGrade => !inputs.evidence.automationGrade
  | .parameterConstraintsPresent => inputs.constraints ≠ []
  | .default => true

/-- `selected_rule`; `none` is a `StopIteration`. -/
def selectedRule : Option DecisionRule :=
  inputs.policy.decisionRules.find? fun rule => inputs.condition rule.condition

/-- `reasons`, in the order in which they are recorded. -/
def reasons : List String :=
  inputs.authority.reasonCodes ++ inputs.evidence.reasonCodes ++ inputs.consequence.reasonCodes ++
    flag (¬ TargetClaimsMatch inputs.request.target inputs.target) "TARGET_CLAIM_MISMATCH" ++
    flag inputs.DurationConstrained "DURATION_CONSTRAINED" ++
    flag inputs.ManagementConstrained "MANAGEMENT_ACCESS_CONSTRAINED" ++
    flag (inputs.target.type ∉ inputs.actionPolicy.allowedTargetTypes)
      "ACTION_TARGET_TYPE_PROHIBITED" ++
    flag (inputs.authority.authorized = true ∧ inputs.authority.identityFatal = false)
      "AUTHORIZED_AGENT" ++
    flag (inputs.evidence.automationGrade = true) "DECISION_GRADE_EVIDENCE" ++
    flag (inputs.consequence.level = .low ∨ inputs.consequence.level = .medium)
      "ACCEPTABLE_OPERATIONAL_CONSEQUENCE"

def permittedAction (outcome : DecisionOutcome) : Option Command :=
  if outcome = .allow ∨ outcome = .allowConstrained then
    some ⟨NETWORK_ISOLATE, inputs.target.id, inputs.permittedParameters.toDict⟩
  else none

variable [PyFloat F]

/-- `context`. -/
def context (rt : Runtime) (rule : DecisionRule) : Dict :=
  [("request_sha256", .str (inputs.request.requestSha256 rt)),
    ("policy_id", .str inputs.policy.policyId),
    ("policy_version", .str inputs.policy.version),
    ("policy_sha256", .str (inputs.policy.sha256 rt)),
    ("principal", .obj inputs.principal.toDict),
    ("trusted_target", .obj inputs.target.toDict),
    ("authority", .obj inputs.authority.toDict),
    ("evidence", .obj inputs.evidence.toDict),
    ("consequence", .obj inputs.consequence.toDict),
    ("outcome", .str rule.outcome.text),
    ("reason_codes", strs (orderedReasons inputs.reasons)),
    ("applicable_rules", strs [rule.id]),
    ("constraints", .arr (inputs.constraints.map fun c => .obj c.toDict)),
    ("permitted_action",
      ((inputs.permittedAction rule.outcome).map Command.toJson).getD .null)]

/-- `preliminary`. -/
def preliminary (rt : Runtime) (rule : DecisionRule) : DecisionRecord F where
  decisionId := inputs.decisionId
  requestId := inputs.request.requestId
  decidedAt := rt.isoformat (Runtime.truncate inputs.decidedAt)
  policyId := inputs.policy.policyId
  policyVersion := inputs.policy.version
  policySha256 := inputs.policy.sha256 rt
  outcome := rule.outcome
  reasonCodes := orderedReasons inputs.reasons
  applicableRules := [rule.id]
  requestedAction := some inputs.request.action.command
  permittedAction := inputs.permittedAction rule.outcome
  authority := inputs.authority
  evidence := some inputs.evidence
  consequence := some inputs.consequence
  constraints := inputs.constraints
  requestSha256 := inputs.request.requestSha256 rt
  decisionContextSha256 := rt.sha256Json (.obj (inputs.context rt rule))
  approvalRequirement := none

end DecisionInputs

/-- The arguments of the approval issuer. -/
structure ApprovalArgs (F : Type) where
  decision : DecisionRecord F
  actionType : String
  targetId : String
  parameters : ActionParameters
  evidenceSha256 : String
  requiredApprovingAuthority : String
  reasonCodes : List String

/-- `approval_requirement_factory`; `none` is an issuer that raises. -/
abbrev ApprovalIssuer (F : Type) := ApprovalArgs F → Option ApprovalRequirement

/-- `build_decision(…)`; `none` is an exception. -/
def buildDecision [PyFloat F] (rt : Runtime) (inputs : DecisionInputs F)
    (issuer : Option (ApprovalIssuer F)) : Option (DecisionRecord F) := do
  let rule ← inputs.selectedRule
  let preliminary := inputs.preliminary rt rule
  if rule.outcome ≠ .escalate then
    return preliminary
  let issue ← issuer
  let requirement ← issue
    { decision := preliminary
      actionType := NETWORK_ISOLATE
      targetId := inputs.target.id
      parameters := inputs.request.action.parameters
      evidenceSha256 := inputs.request.evidenceSha256 rt
      requiredApprovingAuthority := inputs.requiredAuthority
      reasonCodes := orderedReasons inputs.reasons }
  return { preliminary with approvalRequirement := some requirement }

/-- A decision is its preliminary record, with an approval requirement at most. -/
theorem buildDecision_eq_some [PyFloat F] {rt : Runtime} {inputs : DecisionInputs F}
    {issuer : Option (ApprovalIssuer F)} {d : DecisionRecord F}
    (h : buildDecision rt inputs issuer = some d) :
    ∃ rule requirement, inputs.selectedRule = some rule ∧
      d = { inputs.preliminary rt rule with approvalRequirement := requirement } := by
  unfold buildDecision at h
  obtain ⟨rule, hrule, h⟩ := Option.bind_eq_some_iff.mp h
  by_cases hescalate : rule.outcome ≠ .escalate
  · rw [if_pos hescalate] at h
    exact ⟨rule, none, hrule, (Option.some.inj h).symm⟩
  · rw [if_neg hescalate] at h
    obtain ⟨issue, -, h⟩ := Option.bind_eq_some_iff.mp h
    obtain ⟨requirement, -, h⟩ := Option.bind_eq_some_iff.mp h
    exact ⟨rule, some requirement, hrule, (Option.some.inj h).symm⟩

/-! ## §4 The evaluation of a request -/

section Evaluate

variable [PyFloat F]

/-- The inputs of the decision on a request against its inventory target. -/
def evaluationInputs (policy : Policy F) (principal : AuthenticatedPrincipal) (now : Int)
    (decisionId : String) (request : DecisionRequest F) (target : TargetRecord)
    (evidence : EvidenceAssessment F) : DecisionInputs F where
  request := request
  principal := principal
  policy := policy
  evidence := evidence
  consequence := assessConsequence
    ⟨target, policy.actionPolicy, policy.consequence, request.action.parameters⟩
  target := target
  actionPolicy := policy.actionPolicy
  decidedAt := now
  decisionId := decisionId

/-- The assessments and the decision that the engine makes of a validated request;
`none` is an exception on the way. -/
def evaluateRequest (rt : Runtime) (lib : Primitives) (policy : Policy F)
    (verifier : EvidenceAttestationVerifier) (principal : AuthenticatedPrincipal)
    (now : Int) (decisionId : String) (issuer : Option (ApprovalIssuer F))
    (request : DecisionRequest F) : Option (DecisionRecord F) := do
  let target ← policy.targetRecord request.action.target
  let evidence ← assessEvidence rt lib policy.evidence verifier now request
  buildDecision rt (evaluationInputs policy principal now decisionId request target evidence) issuer

theorem evaluateRequest_eq_some {rt : Runtime} {lib : Primitives} {policy : Policy F}
    {verifier : EvidenceAttestationVerifier} {principal : AuthenticatedPrincipal} {now : Int}
    {decisionId : String} {issuer : Option (ApprovalIssuer F)} {request : DecisionRequest F}
    {d : DecisionRecord F}
    (h : evaluateRequest rt lib policy verifier principal now decisionId issuer request = some d) :
    ∃ target evidence, policy.targetRecord request.action.target = some target ∧
      assessEvidence rt lib policy.evidence verifier now request = some evidence ∧
      buildDecision rt (evaluationInputs policy principal now decisionId request target evidence)
        issuer = some d := by
  unfold evaluateRequest at h
  obtain ⟨target, htarget, h⟩ := Option.bind_eq_some_iff.mp h
  obtain ⟨evidence, hevidence, h⟩ := Option.bind_eq_some_iff.mp h
  exact ⟨target, evidence, htarget, hevidence, h⟩

end Evaluate

end DecisionFirewall.Phase3
