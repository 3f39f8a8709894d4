import DecisionFirewall.Phase3.Models

/-!
# The Policy

`Phase3PolicyConfig` and its parts, with what the policy schema and
`_validate_policy_safety_invariants` require of them.

- §1 evidence rules
- §2 consequence rules
- §3 actions, targets and decision rules
- §4 the policy

A mapping over a closed vocabulary is a function of it. The schema closes the action
catalog to `NETWORK_ISOLATE`, so the tables by action have one entry.
-/

namespace DecisionFirewall.Phase3

open StageA

variable {F : Type}

/-- The identifier pattern of the schemas, `^[A-Za-z0-9][A-Za-z0-9._:-]{0,127}$`: a final
line feed is not part of what `$` lets match. -/
def IsSchemaIdentifier (s : String) : Prop :=
  let core := if s.toList.getLast? = some '\n' then s.toList.dropLast else s.toList
  core.length ≤ 128 ∧ (∃ c ∈ core.head?, c.isAlphanum = true) ∧
    ∀ c ∈ core, c.isAlphanum = true ∨ c ∈ ['.', '_', ':', '-']

instance (s : String) : Decidable (IsSchemaIdentifier s) :=
  inferInstanceAs (Decidable (_ ∧ _ ∧ _))

/-- `unitNumber` of the schema. -/
def InUnit [PyFloat F] (x : F) : Prop :=
  PyFloat.ge x (PyFloat.ofInt 0) = true ∧ PyFloat.ge (PyFloat.ofInt 1) x = true

instance decidableInUnit [PyFloat F] (x : F) : Decidable (InUnit x) :=
  inferInstanceAs (Decidable (_ ∧ _))

/-- Each value of the list is smaller than the next. -/
def StrictlyIncreasing [PyFloat F] (values : List F) : Prop :=
  values.IsChain fun x y => PyFloat.lt x y = true

instance decidableStrictlyIncreasing [PyFloat F] (values : List F) :
    Decidable (StrictlyIncreasing values) :=
  inferInstanceAs (Decidable (List.IsChain _ _))

/-! ## §1 Evidence rules -/

structure TrustedSourcePolicy (F : Type) where
  sourceInstance : String
  sourceType : String
  reliability : F
  trustLevel : TrustLevel
  deriving Repr

def TrustedSourcePolicy.toDict [PyFloat F] (s : TrustedSourcePolicy F) : Dict :=
  [("source_type", .str s.sourceType),
    ("reliability", PyFloat.toJson s.reliability),
    ("trust_level", .str s.trustLevel.text)]

structure EvidencePolicyRules (F : Type) where
  hypothesisClaim : String
  maximumAgeSeconds : Int
  minimumReliability : F
  minimumRelevance : F
  minimumOverallStrengthForAllow : F
  minimumCorroboratingSources : Int
  maximumConflictsForAllow : Int
  trustWeights : TrustLevel → F
  /-- `required_source_types_by_action["NETWORK_ISOLATE"]` -/
  requiredSourceTypes : List String
  trustedSources : List (TrustedSourcePolicy F)

namespace EvidencePolicyRules

/-- `trusted_sources.get(source_instance)`. -/
def trustedSource (rules : EvidencePolicyRules F) (sourceInstance : String) :
    Option (TrustedSourcePolicy F) :=
  rules.trustedSources.find? fun s => s.sourceInstance = sourceInstance

theorem trustedSource_some {rules : EvidencePolicyRules F} {sourceInstance : String}
    {s : TrustedSourcePolicy F} (h : rules.trustedSource sourceInstance = some s) :
    s ∈ rules.trustedSources ∧ s.sourceInstance = sourceInstance :=
  ⟨List.mem_of_find?_eq_some h, by simpa using List.find?_some h⟩

variable [PyFloat F]

def toDict (rules : EvidencePolicyRules F) : Dict :=
  [("hypothesis_claim", .str rules.hypothesisClaim),
    ("maximum_age_seconds", .int rules.maximumAgeSeconds),
    ("minimum_reliability", PyFloat.toJson rules.minimumReliability),
    ("minimum_relevance", PyFloat.toJson rules.minimumRelevance),
    ("minimum_overall_strength_for_allow", PyFloat.toJson rules.minimumOverallStrengthForAllow),
    ("minimum_corroborating_sources", .int rules.minimumCorroboratingSources),
    ("maximum_conflicts_for_allow", .int rules.maximumConflictsForAllow),
    ("trust_weights", .obj ([TrustLevel.high, .medium, .low, .untrusted].map fun l =>
      (l.text, PyFloat.toJson (rules.trustWeights l)))),
    ("required_source_types_by_action", .obj [(NETWORK_ISOLATE, strs rules.requiredSourceTypes)]),
    ("trusted_sources", .obj (rules.trustedSources.map fun s =>
      (s.sourceInstance, .obj s.toDict)))]

/-- What the schema and the safety invariants require of the evidence rules. -/
structure Accepted (rules : EvidencePolicyRules F) : Prop where
  hypothesisClaim : rules.hypothesisClaim = "COMPROMISE"
  maximumAge : 60 ≤ rules.maximumAgeSeconds ∧ rules.maximumAgeSeconds ≤ 604800
  units : InUnit rules.minimumReliability ∧ InUnit rules.minimumRelevance ∧
    InUnit rules.minimumOverallStrengthForAllow ∧ ∀ l, InUnit (rules.trustWeights l)
  trustWeights : PyFloat.lt (rules.trustWeights .medium) (rules.trustWeights .high) = true ∧
    PyFloat.lt (rules.trustWeights .low) (rules.trustWeights .medium) = true ∧
      PyFloat.lt (rules.trustWeights .untrusted) (rules.trustWeights .low) = true ∧
        PyFloat.ge (PyFloat.ofInt 0) (rules.trustWeights .untrusted) = true
  minimumReliability : PyFloat.ge rules.minimumReliability (PyFloat.ratio 1 2) = true
  minimumRelevance : PyFloat.lt (PyFloat.ofInt 0) rules.minimumRelevance = true
  minimumOverallStrength :
    PyFloat.ge rules.minimumOverallStrengthForAllow (PyFloat.ratio 1 2) = true
  minimumCorroboratingSources : 2 ≤ rules.minimumCorroboratingSources ∧
    rules.minimumCorroboratingSources ≤ 16
  maximumConflicts : rules.maximumConflictsForAllow = 0
  sources : ∀ s ∈ rules.trustedSources, IsSchemaIdentifier s.sourceInstance ∧
    IsSchemaIdentifier s.sourceType ∧ InUnit s.reliability ∧ s.trustLevel ≠ .untrusted ∧
      PyFloat.ge s.reliability rules.minimumReliability = true
  sourceCount : 1 ≤ rules.trustedSources.length ∧ rules.trustedSources.length ≤ 64
  sourceInstances : (rules.trustedSources.map TrustedSourcePolicy.sourceInstance).Nodup
  requiredTypes : 1 ≤ rules.requiredSourceTypes.length ∧ rules.requiredSourceTypes.length ≤ 16 ∧
    rules.requiredSourceTypes.Nodup ∧
      ∀ t ∈ rules.requiredSourceTypes, IsSchemaIdentifier t ∧
        t ∈ rules.trustedSources.map TrustedSourcePolicy.sourceType

end EvidencePolicyRules

/-! ## §2 Consequence rules -/

structure FactorWeights (F : Type) where
  criticality : F
  blastRadius : F
  downtime : F
  missionImpact : F
  safetyImpact : F
  availabilityImpact : F
  dependency : F
  isolationConsequence : F
  deriving Repr

/-- The factors by name. -/
def FactorWeights.members (w : FactorWeights F) : List (String × F) :=
  [("criticality", w.criticality),
    ("blast_radius", w.blastRadius),
    ("downtime", w.downtime),
    ("mission_impact", w.missionImpact),
    ("safety_impact", w.safetyImpact),
    ("availability_impact", w.availabilityImpact),
    ("dependency", w.dependency),
    ("isolation_consequence", w.isolationConsequence)]

structure ConsequencePolicy (F : Type) where
  factorWeights : FactorWeights F
  criticalityWeights : TargetCriticality → F
  blastRadiusWeights : BlastRadius → F
  impactWeights : ImpactLevel → F
  downtimeReferenceMinutes : Int
  dependencyReferenceCount : Int
  irreversiblePenalty : F
  highThreshold : F
  criticalThreshold : F
  approvalLevels : List ConsequenceLevel
  approvalIsolationConsequences : List ImpactLevel
  approvalMissionImpacts : List ImpactLevel
  approvalSafetyImpacts : List ImpactLevel
  approvalAvailabilityImpacts : List ImpactLevel
  approvalBlastRadii : List BlastRadius
  approvalDowntimeMinutes : Int
  cascadingRequiresApproval : Bool

namespace ConsequencePolicy

/-- The weights of the three scales in increasing order of severity. -/
def criticalityScale : List TargetCriticality := [.low, .medium, .high, .tier0]

def blastRadiusScale : List BlastRadius := [.localHost, .service, .enterprise]

def impactScale : List ImpactLevel := [.none, .low, .medium, .high, .critical]

variable [PyFloat F]

def toDict (c : ConsequencePolicy F) : Dict :=
  [("factor_weights", .obj (c.factorWeights.members.map fun w => (w.1, PyFloat.toJson w.2))),
    ("criticality_weights", .obj (criticalityScale.map fun l =>
      (l.text, PyFloat.toJson (c.criticalityWeights l)))),
    ("blast_radius_weights", .obj (blastRadiusScale.map fun b =>
      (b.text, PyFloat.toJson (c.blastRadiusWeights b)))),
    ("impact_weights", .obj (impactScale.map fun l =>
      (l.text, PyFloat.toJson (c.impactWeights l)))),
    ("downtime_reference_minutes", .int c.downtimeReferenceMinutes),
    ("dependency_reference_count", .int c.dependencyReferenceCount),
    ("irreversible_penalty", PyFloat.toJson c.irreversiblePenalty),
    ("high_threshold", PyFloat.toJson c.highThreshold),
    ("critical_threshold", PyFloat.toJson c.criticalThreshold),
    ("approval_levels", strs (c.approvalLevels.map ConsequenceLevel.text)),
    ("approval_isolation_consequences",
      strs (c.approvalIsolationConsequences.map ImpactLevel.text)),
    ("approval_mission_impacts", strs (c.approvalMissionImpacts.map ImpactLevel.text)),
    ("approval_safety_impacts", strs (c.approvalSafetyImpacts.map ImpactLevel.text)),
    ("approval_availability_impacts", strs (c.approvalAvailabilityImpacts.map ImpactLevel.text)),
    ("approval_blast_radii", strs (c.approvalBlastRadii.map BlastRadius.text)),
    ("approval_downtime_minutes", .int c.approvalDowntimeMinutes),
    ("cascading_requires_approval", .bool c.cascadingRequiresApproval)]

/-- What the schema and the safety invariants require of the consequence rules. -/
structure Accepted (c : ConsequencePolicy F) : Prop where
  factors : ∀ w ∈ c.factorWeights.members, InUnit w.2 ∧
    PyFloat.lt (PyFloat.ofInt 0) w.2 = true
  units : (∀ l, InUnit (c.criticalityWeights l)) ∧ (∀ b, InUnit (c.blastRadiusWeights b)) ∧
    (∀ l, InUnit (c.impactWeights l)) ∧ InUnit c.irreversiblePenalty ∧ InUnit c.highThreshold ∧
      InUnit c.criticalThreshold
  criticality : StrictlyIncreasing (criticalityScale.map c.criticalityWeights)
  blastRadius : StrictlyIncreasing (blastRadiusScale.map c.blastRadiusWeights)
  impact : StrictlyIncreasing (impactScale.map c.impactWeights)
  references : 1 ≤ c.downtimeReferenceMinutes ∧ c.downtimeReferenceMinutes ≤ 10080 ∧
    1 ≤ c.dependencyReferenceCount ∧ c.dependencyReferenceCount ≤ 64
  thresholds : PyFloat.lt c.highThreshold c.criticalThreshold = true
  cascading : c.cascadingRequiresApproval = true
  approvalLevels : .high ∈ c.approvalLevels ∧ .critical ∈ c.approvalLevels
  approvalIsolation : .high ∈ c.approvalIsolationConsequences ∧
    .critical ∈ c.approvalIsolationConsequences
  approvalMission : .critical ∈ c.approvalMissionImpacts
  approvalSafety : .high ∈ c.approvalSafetyImpacts
  approvalAvailability : .critical ∈ c.approvalAvailabilityImpacts
  approvalBlast : .enterprise ∈ c.approvalBlastRadii
  approvalDowntime : 1 ≤ c.approvalDowntimeMinutes ∧ c.approvalDowntimeMinutes ≤ 60
  lists : c.approvalLevels.Nodup ∧ c.approvalIsolationConsequences.Nodup ∧
    c.approvalMissionImpacts.Nodup ∧ c.approvalSafetyImpacts.Nodup ∧
      c.approvalAvailabilityImpacts.Nodup ∧ c.approvalBlastRadii.Nodup
  vocabularies : .none ∉ c.approvalIsolationConsequences ∧ .none ∉ c.approvalMissionImpacts ∧
    .critical ∉ c.approvalSafetyImpacts ∧ .none ∉ c.approvalAvailabilityImpacts

end ConsequencePolicy

/-! ## §3 Actions, targets and decision rules -/

structure TargetRecord where
  id : String
  type : TargetType
  criticality : TargetCriticality
  classification : TargetClassification
  dependencies : List String
  isolationConsequence : ImpactLevel
  estimatedDowntimeMinutes : Int
  blastRadius : BlastRadius
  missionImpact : ImpactLevel
  safetyImpact : ImpactLevel
  availabilityImpact : ImpactLevel
  humanApprovalRequired : Bool
  deriving DecidableEq, Repr

namespace TargetRecord

def toDict (t : TargetRecord) : Dict :=
  [("type", .str t.type.text),
    ("criticality", .str t.criticality.text),
    ("classification", .str t.classification.text),
    ("dependencies", strs t.dependencies),
    ("isolation_consequence", .str t.isolationConsequence.text),
    ("estimated_downtime_minutes", .int t.estimatedDowntimeMinutes),
    ("blast_radius", .str t.blastRadius.text),
    ("mission_impact", .str t.missionImpact.text),
    ("safety_impact", .str t.safetyImpact.text),
    ("availability_impact", .str t.availabilityImpact.text),
    ("human_approval_required", .bool t.humanApprovalRequired)]

/-- What the schema and the safety invariants require of a target. -/
structure Accepted (t : TargetRecord) : Prop where
  id : IsSchemaIdentifier t.id
  dependencies : t.dependencies.length ≤ 32 ∧ t.dependencies.Nodup ∧
    ∀ d ∈ t.dependencies, IsSchemaIdentifier d
  downtime : 0 ≤ t.estimatedDowntimeMinutes ∧ t.estimatedDowntimeMinutes ≤ 10080
  vocabularies : t.isolationConsequence ≠ .none ∧ t.missionImpact ≠ .none ∧
    t.safetyImpact ≠ .critical ∧ t.availabilityImpact ≠ .none
  domainController : t.type = .domainController → t.criticality = .tier0 ∧
    t.humanApprovalRequired = true ∧
      (t.isolationConsequence = .high ∨ t.isolationConsequence = .critical) ∧
        "AUTHENTICATION_SERVICE" ∈ t.dependencies
  workstation042 : t.id = "WORKSTATION_042" → t.type = .workstation ∧ t.criticality = .low

end TargetRecord

structure ActionPolicy where
  reversible : Bool
  allowedTargetTypes : List TargetType
  requiredAuthority : String
  tier0RequiredAuthority : String
  maximumDurationSeconds : Int
  preserveManagementRequired : Bool
  humanApprovalCriticalities : List TargetCriticality
  deriving DecidableEq, Repr

namespace ActionPolicy

def toDict (a : ActionPolicy) : Dict :=
  [("reversible", .bool a.reversible),
    ("allowed_target_types", strs (a.allowedTargetTypes.map TargetType.text)),
    ("required_authority", .str a.requiredAuthority),
    ("tier_0_required_authority", .str a.tier0RequiredAuthority),
    ("maximum_duration_seconds", .int a.maximumDurationSeconds),
    ("preserve_management_required", .bool a.preserveManagementRequired),
    ("human_approval_criticalities",
      strs (a.humanApprovalCriticalities.map TargetCriticality.text))]

/-- What the schema and the safety invariants require of `NETWORK_ISOLATE`. -/
structure Accepted (a : ActionPolicy) : Prop where
  reversible : a.reversible = true
  allowedTargetTypes : a.allowedTargetTypes ≠ [] ∧ a.allowedTargetTypes.Nodup
  authorities : IsSchemaIdentifier a.requiredAuthority ∧
    IsSchemaIdentifier a.tier0RequiredAuthority
  maximumDuration : 60 ≤ a.maximumDurationSeconds ∧ a.maximumDurationSeconds ≤ 86400
  preserveManagement : a.preserveManagementRequired = true
  approvalCriticalities : .high ∈ a.humanApprovalCriticalities ∧
    .tier0 ∈ a.humanApprovalCriticalities ∧ a.humanApprovalCriticalities.Nodup

end ActionPolicy

inductive RuleCondition where
  | identityFatal
  | evidenceFatal
  | targetTypeProhibited
  | targetTier0
  | consequenceRequiresApproval
  | authorityInsufficient
  | evidenceNotAutomationGrade
  | parameterConstraintsPresent
  | default
  deriving DecidableEq, Repr

def RuleCondition.text : RuleCondition → String
  | .identityFatal => "IDENTITY_FATAL"
  | .evidenceFatal => "EVIDENCE_FATAL"
  | .targetTypeProhibited => "TARGET_TYPE_PROHIBITED"
  | .targetTier0 => "TARGET_TIER_0"
  | .consequenceRequiresApproval => "CONSEQUENCE_REQUIRES_APPROVAL"
  | .authorityInsufficient => "AUTHORITY_INSUFFICIENT"
  | .evidenceNotAutomationGrade => "EVIDENCE_NOT_AUTOMATION_GRADE"
  | .parameterConstraintsPresent => "PARAMETER_CONSTRAINTS_PRESENT"
  | .default => "DEFAULT"

structure DecisionRule where
  id : String
  condition : RuleCondition
  outcome : DecisionOutcome
  deriving DecidableEq, Repr

def DecisionRule.toDict (r : DecisionRule) : Dict :=
  [("id", .str r.id), ("condition", .str r.condition.text), ("outcome", .str r.outcome.text)]

/-- `required_rule_sequence`. -/
def REQUIRED_RULE_SEQUENCE : List (RuleCondition × DecisionOutcome) :=
  [(.identityFatal, .deny), (.evidenceFatal, .deny), (.targetTypeProhibited, .deny),
    (.targetTier0, .escalate), (.consequenceRequiresApproval, .escalate),
    (.authorityInsufficient, .deny), (.evidenceNotAutomationGrade, .escalate),
    (.parameterConstraintsPresent, .allowConstrained), (.default, .allow)]

/-! ## §4 The policy -/

/-- `Phase3PolicyConfig`. -/
structure Policy (F : Type) where
  policyId : String
  version : String
  evidence : EvidencePolicyRules F
  consequence : ConsequencePolicy F
  decisionRules : List DecisionRule
  /-- `action_catalog["NETWORK_ISOLATE"]` -/
  actionPolicy : ActionPolicy
  targetInventory : List TargetRecord
  authorizationTtlSeconds : Int
  approvalTtlSeconds : Int

namespace Policy

/-- `policy.target_record(target_id)`; `none` is a `KeyError`. -/
def targetRecord (p : Policy F) (targetId : String) : Option TargetRecord :=
  p.targetInventory.find? fun t => t.id = targetId

theorem targetRecord_some {p : Policy F} {targetId : String} {t : TargetRecord}
    (h : p.targetRecord targetId = some t) : t ∈ p.targetInventory ∧ t.id = targetId :=
  ⟨List.mem_of_find?_eq_some h, by simpa using List.find?_some h⟩

variable [PyFloat F]

def toDict (p : Policy F) : Dict :=
  [("schema_version", .str "0.3.0"),
    ("policy_id", .str p.policyId),
    ("version", .str p.version),
    ("evidence", .obj p.evidence.toDict),
    ("consequence", .obj p.consequence.toDict),
    ("decision_rules", .arr (p.decisionRules.map fun r => .obj r.toDict)),
    ("action_catalog", .obj [(NETWORK_ISOLATE, .obj p.actionPolicy.toDict)]),
    ("target_inventory", .obj (p.targetInventory.map fun t => (t.id, .obj t.toDict))),
    ("authorization", .obj
      [("ttl_seconds", .int p.authorizationTtlSeconds), ("single_use", .bool true)]),
    ("approval", .obj [("ttl_seconds", .int p.approvalTtlSeconds)])]

/-- `sha256_json(policy.to_dict())`. -/
def sha256 (rt : Runtime) (p : Policy F) : String := rt.sha256Json (.obj p.toDict)

/-- The policy schema and `_validate_policy_safety_invariants` accept the policy. -/
structure Accepted (p : Policy F) : Prop where
  policyId : IsSchemaIdentifier p.policyId
  version : p.version = "0.3.0"
  evidence : p.evidence.Accepted
  consequence : p.consequence.Accepted
  rules : p.decisionRules.map (fun r => (r.condition, r.outcome)) = REQUIRED_RULE_SEQUENCE
  ruleIds : (p.decisionRules.map DecisionRule.id).Nodup ∧
    ∀ r ∈ p.decisionRules, IsSchemaIdentifier r.id
  actionPolicy : p.actionPolicy.Accepted
  targets : (p.targetInventory.map TargetRecord.id).Nodup ∧
    p.targetInventory.length ≤ 128 ∧ ∀ t ∈ p.targetInventory, t.Accepted
  requiredTargets : "DOMAIN_CONTROLLER_01" ∈ p.targetInventory.map TargetRecord.id ∧
    "WORKSTATION_042" ∈ p.targetInventory.map TargetRecord.id
  authorizationTtl : 1 ≤ p.authorizationTtlSeconds ∧ p.authorizationTtlSeconds ≤ 3600
  approvalTtl : 60 ≤ p.approvalTtlSeconds ∧ p.approvalTtlSeconds ≤ 86400

end Policy

end DecisionFirewall.Phase3
