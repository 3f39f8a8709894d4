import DecisionFirewall.Phase3.Attestation

/-!
# The Shipped Policy

`config/phase3_policy.json`, and that it is accepted: the requirements on policies can
be met, and by the policy that the repository runs under.

- §1 the policy
- §2 acceptance
- §3 a request with evidence of every required type
-/

namespace DecisionFirewall.Phase3

variable {F : Type} [PyFloat F]

/-! ## §1 The policy -/

/-- A number with at most two decimals. -/
def hundredths (n : Int) : F := PyFloat.ratio n 100

def shippedEvidence : EvidencePolicyRules F where
  hypothesisClaim := "COMPROMISE"
  maximumAgeSeconds := 3600
  minimumReliability := hundredths 70
  minimumRelevance := hundredths 50
  minimumOverallStrengthForAllow := hundredths 75
  minimumCorroboratingSources := 2
  maximumConflictsForAllow := 0
  trustWeights
    | .high => hundredths 100
    | .medium => hundredths 75
    | .low => hundredths 40
    | .untrusted => hundredths 0
  requiredSourceTypes := ["asset_inventory", "endpoint", "identity", "network", "threat_intel"]
  trustedSources :=
    [⟨"CMDB_PRIMARY", "asset_inventory", hundredths 98, .high⟩,
      ⟨"EDR_PRIMARY", "endpoint", hundredths 96, .high⟩,
      ⟨"IDP_PRIMARY", "identity", hundredths 96, .high⟩,
      ⟨"NETWORK_PRIMARY", "network", hundredths 94, .high⟩,
      ⟨"CTI_PRIMARY", "threat_intel", hundredths 82, .medium⟩]

def shippedConsequence : ConsequencePolicy F where
  factorWeights :=
    { criticality := hundredths 24
      blastRadius := hundredths 18
      downtime := hundredths 13
      missionImpact := hundredths 16
      safetyImpact := hundredths 9
      availabilityImpact := hundredths 12
      dependency := hundredths 8
      isolationConsequence := hundredths 18 }
  criticalityWeights
    | .low => hundredths 10
    | .medium => hundredths 35
    | .high => hundredths 70
    | .tier0 => hundredths 100
  blastRadiusWeights
    | .localHost => hundredths 5
    | .service => hundredths 50
    | .enterprise => hundredths 100
  impactWeights
    | .none => hundredths 0
    | .low => hundredths 10
    | .medium => hundredths 45
    | .high => hundredths 75
    | .critical => hundredths 100
  downtimeReferenceMinutes := 120
  dependencyReferenceCount := 4
  irreversiblePenalty := hundredths 20
  highThreshold := hundredths 50
  criticalThreshold := hundredths 75
  approvalLevels := [.high, .critical]
  approvalIsolationConsequences := [.high, .critical]
  approvalMissionImpacts := [.critical]
  approvalSafetyImpacts := [.high]
  approvalAvailabilityImpacts := [.critical]
  approvalBlastRadii := [.enterprise]
  approvalDowntimeMinutes := 60
  cascadingRequiresApproval := true

def shippedRules : List DecisionRule :=
  [⟨"P3-DENY-IDENTITY", .identityFatal, .deny⟩,
    ⟨"P3-DENY-EVIDENCE-INTEGRITY", .evidenceFatal, .deny⟩,
    ⟨"P3-DENY-ACTION-TARGET", .targetTypeProhibited, .deny⟩,
    ⟨"P3-ESCALATE-PROTECTED-ASSET", .targetTier0, .escalate⟩,
    ⟨"P3-ESCALATE-CONSEQUENCE", .consequenceRequiresApproval, .escalate⟩,
    ⟨"P3-DENY-AUTHORITY", .authorityInsufficient, .deny⟩,
    ⟨"P3-ESCALATE-EVIDENCE", .evidenceNotAutomationGrade, .escalate⟩,
    ⟨"P3-ALLOW-CONSTRAINED", .parameterConstraintsPresent, .allowConstrained⟩,
    ⟨"P3-ALLOW-REVERSIBLE", .default, .allow⟩]

def shippedAction : ActionPolicy where
  reversible := true
  allowedTargetTypes := [.domainController, .workstation]
  requiredAuthority := "endpoint_containment"
  tier0RequiredAuthority := "tier_0_containment"
  maximumDurationSeconds := 3600
  preserveManagementRequired := true
  humanApprovalCriticalities := [.high, .tier0]

def domainController01 : TargetRecord where
  id := "DOMAIN_CONTROLLER_01"
  type := .domainController
  criticality := .tier0
  classification := .restricted
  dependencies := ["AUTHENTICATION_SERVICE", "DIRECTORY_SERVICES", "KERBEROS"]
  isolationConsequence := .critical
  estimatedDowntimeMinutes := 120
  blastRadius := .enterprise
  missionImpact := .critical
  safetyImpact := .medium
  availabilityImpact := .critical
  humanApprovalRequired := true

def workstation042 : TargetRecord where
  id := "WORKSTATION_042"
  type := .workstation
  criticality := .low
  classification := .internal
  dependencies := []
  isolationConsequence := .low
  estimatedDowntimeMinutes := 15
  blastRadius := .localHost
  missionImpact := .low
  safetyImpact := .none
  availabilityImpact := .low
  humanApprovalRequired := false

def shippedPolicy : Policy F where
  policyId := "ADF-PHASE3-SOC-001"
  version := "0.3.0"
  evidence := shippedEvidence
  consequence := shippedConsequence
  decisionRules := shippedRules
  actionPolicy := shippedAction
  targetInventory := [domainController01, workstation042]
  authorizationTtlSeconds := 120
  approvalTtlSeconds := 900

/-! ## §2 Acceptance -/

theorem shippedEvidence_accepted : (shippedEvidence : EvidencePolicyRules ℚ).Accepted where
  hypothesisClaim := rfl
  maximumAge := by decide
  units := ⟨by decide +kernel, by decide +kernel, by decide +kernel, by
    intro l
    cases l <;> decide +kernel⟩
  trustWeights := by decide +kernel
  minimumReliability := by decide +kernel
  minimumRelevance := by decide +kernel
  minimumOverallStrength := by decide +kernel
  minimumCorroboratingSources := by decide
  maximumConflicts := rfl
  sources := by
    have hids : ∀ s ∈ (shippedEvidence : EvidencePolicyRules ℚ).trustedSources,
        IsSchemaIdentifier s.sourceInstance ∧ IsSchemaIdentifier s.sourceType := by
      simp [shippedEvidence, IsSchemaIdentifier]
    have hvalues : ∀ s ∈ (shippedEvidence : EvidencePolicyRules ℚ).trustedSources,
        InUnit s.reliability ∧ s.trustLevel ≠ .untrusted ∧
          PyFloat.ge s.reliability (shippedEvidence : EvidencePolicyRules ℚ).minimumReliability =
            true := by
      decide +kernel
    exact fun s hs => ⟨(hids s hs).1, (hids s hs).2, hvalues s hs⟩
  sourceCount := by decide
  sourceInstances := by decide
  requiredTypes := by simp [shippedEvidence, IsSchemaIdentifier]

theorem shippedConsequence_accepted : (shippedConsequence : ConsequencePolicy ℚ).Accepted where
  factors := by decide +kernel
  units := by
    refine ⟨?_, ?_, ?_, by decide +kernel⟩ <;> intro l <;> cases l <;> decide +kernel
  criticality := by decide +kernel
  blastRadius := by decide +kernel
  impact := by decide +kernel
  references := by decide
  thresholds := by decide +kernel
  cascading := rfl
  approvalLevels := by decide
  approvalIsolation := by decide
  approvalMission := by decide
  approvalSafety := by decide
  approvalAvailability := by decide
  approvalBlast := by decide
  approvalDowntime := by decide
  lists := by decide
  vocabularies := by decide

theorem shippedAction_accepted : shippedAction.Accepted where
  reversible := rfl
  allowedTargetTypes := by decide
  authorities := by simp [shippedAction, IsSchemaIdentifier]
  maximumDuration := by decide
  preserveManagement := rfl
  approvalCriticalities := by decide

theorem domainController01_accepted : domainController01.Accepted where
  id := by simp [domainController01, IsSchemaIdentifier]
  dependencies := by simp [domainController01, IsSchemaIdentifier]
  downtime := by decide
  vocabularies := by decide
  domainController := by decide
  workstation042 := by decide

theorem workstation042_accepted : workstation042.Accepted where
  id := by simp [workstation042, IsSchemaIdentifier]
  dependencies := by decide
  downtime := by decide
  vocabularies := by decide
  domainController := by decide
  workstation042 := by decide

/-- The schema and the safety invariants accept the shipped policy. -/
theorem shippedPolicy_accepted : (shippedPolicy : Policy ℚ).Accepted where
  policyId := by simp [shippedPolicy, IsSchemaIdentifier]
  version := rfl
  evidence := shippedEvidence_accepted
  consequence := shippedConsequence_accepted
  rules := rfl
  ruleIds := by simp [shippedPolicy, shippedRules, IsSchemaIdentifier]
  actionPolicy := shippedAction_accepted
  targets := by
    refine ⟨by decide, by decide, ?_⟩
    intro t ht
    simp only [shippedPolicy, List.mem_cons, List.not_mem_nil, or_false] at ht
    rcases ht with rfl | rfl
    · exact domainController01_accepted
    · exact workstation042_accepted
  requiredTargets := by decide
  authorizationTtl := by decide
  approvalTtl := by decide

/-! ## §3 A request with evidence of every required type -/

/-- A runtime on the first second of 2026. -/
def newYearRuntime : Runtime :=
  .ofInstants Runtime.newYear (Runtime.ofDigests []) (Runtime.ofDigests_isSha256 (by simp))
    Runtime.secondsNamed_newYear

/-- Sixty-four zeros, the digest and the signature of the examples. -/
def zeros : String := "0000000000000000000000000000000000000000000000000000000000000000"

/-- Primitives that sign every text alike and find no pattern. -/
def plainPrimitives : Primitives where
  hmacSha256 _ _ := zeros
  search _ _ := false

def exampleKeys : List (String × Bytes) :=
  [("CMDB_PRIMARY", List.replicate 32 1), ("EDR_PRIMARY", List.replicate 32 2),
    ("IDP_PRIMARY", List.replicate 32 3), ("NETWORK_PRIMARY", List.replicate 32 4),
    ("CTI_PRIMARY", List.replicate 32 5)]

def exampleVerifier : EvidenceAttestationVerifier where
  keys := exampleKeys
  names := by decide
  distinct := by decide
  length := by decide

/-- A fresh, attested item on the workstation from a registered source. -/
def exampleItem (id : String) (source : TrustedSourcePolicy ℚ) (supports : List String) :
    EvidenceItem ℚ where
  id := id
  subjectTargetId := "WORKSTATION_042"
  sourceType := source.sourceType
  sourceInstance := source.sourceInstance
  provenance := ⟨"provenance", true, zeros⟩
  integrity := ⟨.verified, zeros⟩
  observedAt := "2026-01-01T00:00:00+00:00"
  reliability := source.reliability
  trustLevel := source.trustLevel
  supports := supports
  contradicts := []
  relevance := 1
  payload := []
  untrustedText := ""
  numbersOk := trivial

def exampleRequest : DecisionRequest ℚ where
  schemaVersion := "0.3.0"
  requestId := "request-1"
  timestamp := "2026-01-01T00:00:00+00:00"
  agent := ⟨"SOC_AGENT", "AI_AGENT", true, ["responder"], ["endpoint_containment"], .trusted⟩
  action := ⟨"WORKSTATION_042", ⟨600, true⟩⟩
  target := ⟨"WORKSTATION_042", .workstation, .low, .internal, []⟩
  evidence :=
    [exampleItem "e1" ⟨"CMDB_PRIMARY", "asset_inventory", hundredths 98, .high⟩ [],
      exampleItem "e2" ⟨"EDR_PRIMARY", "endpoint", hundredths 96, .high⟩ ["COMPROMISE"],
      exampleItem "e3" ⟨"IDP_PRIMARY", "identity", hundredths 96, .high⟩ ["COMPROMISE"],
      exampleItem "e4" ⟨"NETWORK_PRIMARY", "network", hundredths 94, .high⟩ [],
      exampleItem "e5" ⟨"CTI_PRIMARY", "threat_intel", hundredths 82, .medium⟩ []]
  agentRecommendation := .isolate
  agentConfidence := 1
  context := []

def examplePrincipal : AuthenticatedPrincipal where
  id := "SOC_AGENT"
  type := "AI_AGENT"
  authenticated := true
  roles := ["responder"]
  authority := ["endpoint_containment"]
  securityStatus := .trusted
  identitySource := "resolver"
  humanSession := false
  authenticationReasonCode := ""

end DecisionFirewall.Phase3
