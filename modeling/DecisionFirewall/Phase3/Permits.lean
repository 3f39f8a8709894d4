import DecisionFirewall.Phase3.Decision
import DecisionFirewall.Phase3.ShippedPolicy

/-!
# What a Decision Rests On

Two laws of the evaluation of a request: what the request claims about its target and
recommends to the firewall changes no verdict, and a permit is given only on evidence,
authority and consequence that the policy accepts.

- §1 verdicts
- §2 claims of the request
- §3 permits
-/

namespace DecisionFirewall.Phase3

open StageA Lib.Tally

variable {F : Type}

/-! ## §1 Verdicts -/

/-- Two decisions permit the same for the same reasons, a mismatch of the target claims
aside. -/
structure SameVerdict (d d' : DecisionRecord F) : Prop where
  outcome : d.outcome = d'.outcome
  applicableRules : d.applicableRules = d'.applicableRules
  constraints : d.constraints = d'.constraints
  permittedAction : d.permittedAction = d'.permittedAction
  reasonCodes : d.reasonCodes.filter (· ≠ "TARGET_CLAIM_MISMATCH") =
    d'.reasonCodes.filter (· ≠ "TARGET_CLAIM_MISMATCH")
  authority : d.authority = d'.authority
  evidence : d.evidence = d'.evidence
  consequence : d.consequence = d'.consequence

/-- The inputs of two decisions agree but for what the request says of itself. -/
structure SameInputs (i i' : DecisionInputs F) : Prop where
  agent : i.request.agent = i'.request.agent
  action : i.request.action = i'.request.action
  principal : i.principal = i'.principal
  policy : i.policy = i'.policy
  evidence : i.evidence = i'.evidence
  consequence : i.consequence = i'.consequence
  target : i.target = i'.target
  actionPolicy : i.actionPolicy = i'.actionPolicy

namespace SameInputs

variable {i i' : DecisionInputs F}

theorem requiredAuthority (h : SameInputs i i') : i.requiredAuthority = i'.requiredAuthority := by
  simp only [DecisionInputs.requiredAuthority, h.target, h.actionPolicy]

theorem authority (h : SameInputs i i') : i.authority = i'.authority := by
  simp only [DecisionInputs.authority, h.agent, h.principal, h.requiredAuthority]

theorem durationConstrained (h : SameInputs i i') :
    i.DurationConstrained ↔ i'.DurationConstrained := by
  simp only [DecisionInputs.DurationConstrained, DecisionInputs.requestedParameters, h.action,
    h.actionPolicy]

theorem managementConstrained (h : SameInputs i i') :
    i.ManagementConstrained ↔ i'.ManagementConstrained := by
  simp only [DecisionInputs.ManagementConstrained, DecisionInputs.requestedParameters, h.action,
    h.actionPolicy]

theorem constraints (h : SameInputs i i') : i.constraints = i'.constraints := by
  simp only [DecisionInputs.constraints, DecisionInputs.requestedParameters, flag,
    h.durationConstrained, h.managementConstrained, h.action, h.actionPolicy]

theorem permittedAction (h : SameInputs i i') (outcome : DecisionOutcome) :
    i.permittedAction outcome = i'.permittedAction outcome := by
  simp only [DecisionInputs.permittedAction, DecisionInputs.permittedParameters,
    DecisionInputs.requestedParameters, h.durationConstrained, h.managementConstrained, h.action,
    h.actionPolicy, h.target]

/-- No condition reads what the request claims about its target. -/
theorem condition (h : SameInputs i i') (c : RuleCondition) : i.condition c = i'.condition c := by
  cases c <;>
    simp only [DecisionInputs.condition, h.authority, h.evidence, h.target, h.actionPolicy,
      h.consequence, h.constraints]

theorem selectedRule (h : SameInputs i i') : i.selectedRule = i'.selectedRule := by
  have hcondition : i.condition = i'.condition := funext h.condition
  simp only [DecisionInputs.selectedRule, h.policy, hcondition]

/-- The reasons differ in the target claims at most. -/
theorem reasons (h : SameInputs i i') :
    (orderedReasons i.reasons).filter (· ≠ "TARGET_CLAIM_MISMATCH") =
      (orderedReasons i'.reasons).filter (· ≠ "TARGET_CLAIM_MISMATCH") := by
  have hknown : "TARGET_CLAIM_MISMATCH" ∈ REASON_PRIORITY := by decide
  rw [orderedReasons_filter hknown, orderedReasons_filter hknown]
  apply orderedReasons_congr
  intro r
  simp only [List.mem_filter, decide_eq_true_eq]
  apply and_congr_left
  intro hr
  simp only [DecisionInputs.reasons, List.mem_append, mem_flag, hr, and_false, or_false,
    h.authority, h.evidence, h.consequence, h.durationConstrained, h.managementConstrained,
    h.target, h.actionPolicy]

theorem sameVerdict [PyFloat F] (h : SameInputs i i') (rt : Runtime) (rule : DecisionRule) :
    SameVerdict (i.preliminary rt rule) (i'.preliminary rt rule) where
  outcome := rfl
  applicableRules := rfl
  constraints := h.constraints
  permittedAction := h.permittedAction rule.outcome
  reasonCodes := h.reasons
  authority := h.authority
  evidence := congrArg some h.evidence
  consequence := congrArg some h.consequence

end SameInputs

/-! ## §2 Claims of the request -/

section Claims

variable [PyFloat F]

/-- The evidence is assessed by the action's target and the items alone. -/
theorem assessEvidence_congr (rt : Runtime) (lib : Primitives) (rules : EvidencePolicyRules F)
    (verifier : EvidenceAttestationVerifier) (now : Int) {r r' : DecisionRequest F}
    (haction : r.action = r'.action) (hevidence : r.evidence = r'.evidence) :
    assessEvidence rt lib rules verifier now r = assessEvidence rt lib rules verifier now r' := by
  simp only [assessEvidence, haction, hevidence]

/-- The issuer is asked only where the selected rule escalates. -/
theorem isSome_buildDecision {rt : Runtime} {inputs : DecisionInputs F} {issue : ApprovalIssuer F}
    (hissue : ∀ args, (issue args).isSome = true) :
    (buildDecision rt inputs (some issue)).isSome = inputs.selectedRule.isSome := by
  unfold buildDecision
  cases hrule : inputs.selectedRule with
  | none => rfl
  | some rule =>
    simp only [Option.bind_eq_bind, Option.bind_some]
    by_cases hescalate : rule.outcome ≠ .escalate
    · rw [if_pos hescalate]
      rfl
    · rw [if_neg hescalate, Option.isSome_bind]
      simp only [Option.pure_def, Option.isSome_some, Option.any_true, hissue]

/-- What a request claims about its target, recommends and reports of itself carries no
authority: two requests of one agent for one action on one body of evidence get the same
verdict, and one is decided exactly when the other is, unless an approval issuer
raises. -/
theorem untrusted_claims_carry_no_authority (rt : Runtime) (lib : Primitives)
    (policy : Policy F) (verifier : EvidenceAttestationVerifier)
    (principal : AuthenticatedPrincipal) (now : Int) {r r' : DecisionRequest F}
    (hagent : r.agent = r'.agent) (haction : r.action = r'.action)
    (hevidence : r.evidence = r'.evidence) (decisionId decisionId' : String)
    (issue issue' : ApprovalIssuer F) :
    (∀ d d', evaluateRequest rt lib policy verifier principal now decisionId (some issue) r =
        some d →
      evaluateRequest rt lib policy verifier principal now decisionId' (some issue') r' =
        some d' → SameVerdict d d') ∧
    ((∀ args, (issue args).isSome = true) → (∀ args, (issue' args).isSome = true) →
      (evaluateRequest rt lib policy verifier principal now decisionId (some issue) r).isSome =
        (evaluateRequest rt lib policy verifier principal now decisionId' (some issue')
          r').isSome) := by
  have hassess :=
    assessEvidence_congr rt lib policy.evidence verifier now haction hevidence
  unfold evaluateRequest
  rw [← haction, ← hassess]
  cases htarget : policy.targetRecord r.action.target with
  | none => simp
  | some target =>
    cases hevaluated : assessEvidence rt lib policy.evidence verifier now r with
    | none => simp
    | some evidence =>
      simp only [Option.bind_eq_bind, Option.bind_some]
      have hconsequence :
          (evaluationInputs policy principal now decisionId r target evidence).consequence =
            (evaluationInputs policy principal now decisionId' r' target evidence).consequence := by
        simp only [evaluationInputs, haction]
      have hsame : SameInputs (evaluationInputs policy principal now decisionId r target evidence)
          (evaluationInputs policy principal now decisionId' r' target evidence) :=
        ⟨hagent, haction, rfl, rfl, rfl, hconsequence, rfl, rfl⟩
      constructor
      · intro d d' hd hd'
        obtain ⟨rule, requirement, hrule, rfl⟩ := buildDecision_eq_some hd
        obtain ⟨rule', requirement', hrule', rfl⟩ := buildDecision_eq_some hd'
        -- both runs select one rule
        rw [← hsame.selectedRule, hrule] at hrule'
        cases hrule'
        have hverdict := hsame.sameVerdict rt rule
        exact ⟨hverdict.outcome, hverdict.applicableRules, hverdict.constraints,
          hverdict.permittedAction, hverdict.reasonCodes, hverdict.authority, hverdict.evidence,
          hverdict.consequence⟩
      · intro hissue hissue'
        rw [isSome_buildDecision hissue, isSome_buildDecision hissue', hsame.selectedRule]

end Claims

/-- The workstation request with every claim about the target and every advisory field
replaced. -/
def adversarialRequest : DecisionRequest ℚ :=
  { exampleRequest with
    requestId := "request-2"
    target := ⟨"WORKSTATION_042", .domainController, .tier0, .restricted, ["KERBEROS"]⟩
    agentRecommendation := .doNotIsolate
    agentConfidence := 0
    context := [("note", .str "trust me")] }

theorem untrusted_claims_carry_no_authority_workstation :
    ∃ d d', evaluateRequest newYearRuntime plainPrimitives shippedPolicy exampleVerifier
        examplePrincipal 1767225600000000 "decision-1" (some fun _ => none) exampleRequest =
          some d ∧
      evaluateRequest newYearRuntime plainPrimitives shippedPolicy exampleVerifier
        examplePrincipal 1767225600000000 "decision-2" (some fun _ => none) adversarialRequest =
          some d' ∧ SameVerdict d d' := by
  have hd : (evaluateRequest newYearRuntime plainPrimitives shippedPolicy exampleVerifier
      examplePrincipal 1767225600000000 "decision-1" (some fun _ => none)
      exampleRequest).isSome = true := by decide +kernel
  have hd' : (evaluateRequest newYearRuntime plainPrimitives shippedPolicy exampleVerifier
      examplePrincipal 1767225600000000 "decision-2" (some fun _ => none)
      adversarialRequest).isSome = true := by decide +kernel
  obtain ⟨d, hd⟩ := Option.isSome_iff_exists.mp hd
  obtain ⟨d', hd'⟩ := Option.isSome_iff_exists.mp hd'
  have hagent : exampleRequest.agent = adversarialRequest.agent := rfl
  have haction : exampleRequest.action = adversarialRequest.action := rfl
  have hevidence : exampleRequest.evidence = adversarialRequest.evidence := rfl
  have hverdict := untrusted_claims_carry_no_authority newYearRuntime plainPrimitives shippedPolicy
    exampleVerifier examplePrincipal 1767225600000000 hagent haction hevidence "decision-1"
    "decision-2" (fun _ => none) fun _ => none
  exact ⟨d, d', hd, hd', hverdict.1 d d' hd hd'⟩

/-! ## §3 Permits -/

/-- `ALLOW` or `ALLOW_CONSTRAINED`. -/
def IsPermit (outcome : DecisionOutcome) : Prop := outcome = .allow ∨ outcome = .allowConstrained

/-- A rule that gives no permit is passed over on the way to one. -/
theorem rule_passed_over {cond : RuleCondition → Bool} {rules : List DecisionRule}
    {rule : DecisionRule} {c : RuleCondition} {o : DecisionOutcome}
    {rest : List (RuleCondition × DecisionOutcome)}
    (hrules : rules.map (fun r => (r.condition, r.outcome)) = (c, o) :: rest)
    (hfind : rules.find? (fun r => cond r.condition) = some rule) (ho : ¬ IsPermit o)
    (hpermit : IsPermit rule.outcome) :
    cond c = false ∧ ∃ rules' : List DecisionRule, rules'.map (fun r => (r.condition, r.outcome)) = rest ∧
      rules'.find? (fun r => cond r.condition) = some rule := by
  obtain ⟨r, rules', rfl, hr, hrest⟩ := List.map_eq_cons_iff.mp hrules
  obtain ⟨rfl, rfl⟩ := Prod.mk.inj hr
  rw [List.find?_cons] at hfind
  cases hcond : cond r.condition with
  | true =>
    rw [hcond] at hfind
    cases hfind
    exact absurd hpermit ho
  | false =>
    rw [hcond] at hfind
    exact ⟨rfl, rules', hrest, hfind⟩

/-- The conditions that a permit leaves open: constraints and the default. -/
structure Unblocked (cond : RuleCondition → Bool) : Prop where
  identity : cond .identityFatal = false
  evidence : cond .evidenceFatal = false
  targetType : cond .targetTypeProhibited = false
  tier0 : cond .targetTier0 = false
  consequence : cond .consequenceRequiresApproval = false
  authority : cond .authorityInsufficient = false
  grade : cond .evidenceNotAutomationGrade = false

/-- Under the required sequence a permit is given only past the seven blocking rules. -/
theorem unblocked_of_permit {cond : RuleCondition → Bool} {rules : List DecisionRule}
    {rule : DecisionRule}
    (hrules : rules.map (fun r => (r.condition, r.outcome)) = REQUIRED_RULE_SEQUENCE)
    (hfind : rules.find? (fun r => cond r.condition) = some rule)
    (hpermit : IsPermit rule.outcome) : Unblocked cond := by
  have hdeny : ¬ IsPermit .deny := by simp [IsPermit]
  have hescalate : ¬ IsPermit .escalate := by simp [IsPermit]
  obtain ⟨hidentity, _, hrules, hfind⟩ := rule_passed_over hrules hfind hdeny hpermit
  obtain ⟨hevidence, _, hrules, hfind⟩ := rule_passed_over hrules hfind hdeny hpermit
  obtain ⟨htype, _, hrules, hfind⟩ := rule_passed_over hrules hfind hdeny hpermit
  obtain ⟨htier0, _, hrules, hfind⟩ := rule_passed_over hrules hfind hescalate hpermit
  obtain ⟨hconsequence, _, hrules, hfind⟩ := rule_passed_over hrules hfind hescalate hpermit
  obtain ⟨hauthority, _, hrules, hfind⟩ := rule_passed_over hrules hfind hdeny hpermit
  obtain ⟨hgrade, -⟩ := rule_passed_over hrules hfind hescalate hpermit
  exact ⟨hidentity, hevidence, htype, htier0, hconsequence, hauthority, hgrade⟩

/-- What an unblocked decision was made on. -/
theorem Unblocked.facts {inputs : DecisionInputs F} (h : Unblocked inputs.condition) :
    inputs.authority.identityFatal = false ∧
      inputs.target.type ∈ inputs.actionPolicy.allowedTargetTypes ∧
      inputs.target.criticality ≠ .tier0 ∧ inputs.consequence.humanApprovalRequired = false ∧
      inputs.authority.authorized = true ∧ inputs.evidence.automationGrade = true := by
  refine ⟨h.identity, ?_, ?_, h.consequence, ?_, ?_⟩
  · simpa [DecisionInputs.condition] using h.targetType
  · simpa [DecisionInputs.condition] using h.tier0
  · simpa [DecisionInputs.condition] using h.authority
  · simpa [DecisionInputs.condition] using h.grade

section Permit

variable [PyFloat F]

/-- What a permit says of one evidence item. -/
structure SoundItem (rt : Runtime) (lib : Primitives) (rules : EvidencePolicyRules F)
    (verifier : EvidenceAttestationVerifier) (now : Int) (target : String)
    (item : EvidenceItem F) : Prop where
  subject : item.subjectTargetId = target
  source : ∃ s, rules.trustedSource item.sourceInstance = some s ∧
    s.sourceType = item.sourceType ∧ PyFloat.isclose item.reliability s.reliability = true ∧
      item.trustLevel = s.trustLevel
  attested : item.provenance.id ≠ "" ∧ item.provenance.verified = true ∧
    verifier.verify lib item = true
  intact : item.integrity.status = .verified ∧ item.ContentDigestMatches rt
  fresh : ∃ t, parseTimestamp rt item.observedAt = some t ∧ t ≤ now ∧
    now - t ≤ rules.maximumAgeSeconds * 1000000
  clean : ∀ pattern ∈ INSTRUCTION_PATTERNS,
    lib.search pattern (EvidenceInputs.serializedContent item) = false
  consistent : rules.hypothesisClaim ∉ item.contradicts

/-- What a permit says of the request, the principal and the target. -/
structure SoundPermit (rt : Runtime) (lib : Primitives) (policy : Policy F)
    (verifier : EvidenceAttestationVerifier) (principal : AuthenticatedPrincipal) (now : Int)
    (request : DecisionRequest F) (d : DecisionRecord F) : Prop where
  authenticated : principal.authenticated = true
  trusted : principal.securityStatus = .trusted
  identity : principal.id = request.agent.id ∧ AttributesMatch principal request.agent
  evidence : ∀ item ∈ request.evidence,
    SoundItem rt lib policy.evidence verifier now request.action.target item
  corroboration : ∃ sources : List String, sources.Nodup ∧
    max 2 policy.evidence.minimumCorroboratingSources ≤ sources.length ∧
      ∀ s ∈ sources, (∃ record, policy.evidence.trustedSource s = some record) ∧
        ∃ item ∈ request.evidence, item.sourceInstance = s ∧
          policy.evidence.hypothesisClaim ∈ item.supports
  required : ∀ t ∈ policy.evidence.requiredSourceTypes,
    ∃ item ∈ request.evidence, item.sourceType = t
  target : ∃ target, policy.targetRecord request.action.target = some target ∧
    target.criticality ≠ .high ∧ target.criticality ≠ .tier0 ∧
      target.type ∈ policy.actionPolicy.allowedTargetTypes
  authority : policy.actionPolicy.requiredAuthority ∈ principal.authority
  consequence : ∃ c, d.consequence = some c ∧ c.level ≠ .high ∧ c.level ≠ .critical ∧
    c.cascadingEffectPossible = false ∧
      c.downtimeMinutes < policy.consequence.approvalDowntimeMinutes ∧ c.downtimeMinutes < 60
  permitted : ∃ p : ActionParameters,
    d.permittedAction = some ⟨NETWORK_ISOLATE, request.action.target, p.toDict⟩ ∧
      p.durationSeconds ≤ policy.actionPolicy.maximumDurationSeconds ∧
      p.durationSeconds ≤ request.action.parameters.durationSeconds ∧ p.preserveManagement = true

/-- Evidence of automation grade is sound item by item. -/
theorem soundItem_of_automationGrade [LawfulPyFloat F] {inputs : EvidenceInputs F}
    {items : List (EvidenceItem F)} {rows : List (EvidenceItem F × Int)}
    (hrules : inputs.rules.Accepted) (hread : inputs.readItems items = some rows)
    (hgrade : EvidenceTally.AutomationGrade inputs rows) {item : EvidenceItem F}
    (hitem : item ∈ items) :
    SoundItem inputs.runtime inputs.lib inputs.rules inputs.verifier inputs.now inputs.target
      item := by
  obtain ⟨t, ht, hrow⟩ := EvidenceInputs.mem_of_readItems hread hitem
  obtain ⟨hadmitted, hfresh⟩ := hgrade.admitted _ hrow
  have hage := (EvidenceInputs.freshness_eq_fresh
    ⟨by have := hrules.maximumAge; omega, hrules.maximumAge.2⟩).mp hfresh
  have hconflicts : (EvidenceTally.run inputs rows).conflictInstances = [] := by
    have := hgrade.conflicts
    rw [hrules.maximumConflicts] at this
    exact List.length_eq_zero_iff.mp (by omega)
  have hvalid := (inputs.valid_iff_admitted item (inputs.now - t)).mpr hadmitted
  exact {
    subject := hadmitted.subject
    source := hadmitted.source
    attested := hadmitted.provenance
    intact := hadmitted.integrity
    fresh := ⟨t, ht, by omega, hage.2⟩
    clean := by
      have hclean := hadmitted.clean
      simpa only [EvidenceInputs.poisoned, List.any_eq_false, Bool.not_eq_true] using hclean
    consistent := EvidenceTally.not_contradicts hconflicts hrow hvalid }

/-- Evidence of automation grade is corroborated by distinct registered sources. -/
theorem corroboration_of_automationGrade {inputs : EvidenceInputs F}
    {items : List (EvidenceItem F)} {rows : List (EvidenceItem F × Int)}
    (hrules : inputs.rules.Accepted) (hread : inputs.readItems items = some rows)
    (hgrade : EvidenceTally.AutomationGrade inputs rows) :
    ∃ sources : List String, sources.Nodup ∧
      max 2 inputs.rules.minimumCorroboratingSources ≤ sources.length ∧
        ∀ s ∈ sources, (∃ record, inputs.rules.trustedSource s = some record) ∧
          ∃ item ∈ items, item.sourceInstance = s ∧
            inputs.rules.hypothesisClaim ∈ item.supports := by
  refine ⟨(EvidenceTally.run inputs rows).corroboratingInstances.map Prod.snd,
    EvidenceTally.nodup_corroboratingInstances, ?_, ?_⟩
  · have hmin := hgrade.corroboration
    have htwo := hrules.minimumCorroboratingSources.1
    rw [List.length_map]
    omega
  · intro s hs
    obtain ⟨key, hkey, rfl⟩ := List.mem_map.mp hs
    obtain ⟨row, hrow, hcorroborates, rfl⟩ := EvidenceTally.mem_corroboratingInstances.mp hkey
    simp only [EvidenceInputs.corroborates, EvidenceInputs.supportsHypothesis, Bool.and_eq_true,
      decide_eq_true_eq] at hcorroborates
    obtain ⟨⟨⟨hvalid, -⟩, hsupports⟩, -⟩ := hcorroborates
    obtain ⟨record, hrecord, -⟩ := ((inputs.valid_iff_admitted _ _).mp hvalid).source
    exact ⟨⟨record, hrecord⟩, row.1, EvidenceInputs.fst_mem_of_readItems hread hrow, rfl, hsupports⟩

omit [PyFloat F] in
theorem permittedAction_of_permit {inputs : DecisionInputs F} {outcome : DecisionOutcome}
    (h : IsPermit outcome) : inputs.permittedAction outcome =
      some ⟨NETWORK_ISOLATE, inputs.target.id, inputs.permittedParameters.toDict⟩ :=
  if_pos h

omit [PyFloat F] in
/-- The parameters that a decision permits keep within the policy and the request. -/
theorem permittedParameters_le (inputs : DecisionInputs F)
    (hpreserve : inputs.actionPolicy.preserveManagementRequired = true) :
    inputs.permittedParameters.durationSeconds ≤ inputs.actionPolicy.maximumDurationSeconds ∧
      inputs.permittedParameters.durationSeconds ≤ inputs.requestedParameters.durationSeconds ∧
      inputs.permittedParameters.preserveManagement = true := by
  refine ⟨?_, ?_, ?_⟩
  · by_cases h : inputs.DurationConstrained
    · simp only [DecisionInputs.permittedParameters, if_pos h, le_refl]
    · simp only [DecisionInputs.permittedParameters, if_neg h]
      exact not_lt.mp h
  · by_cases h : inputs.DurationConstrained
    · simp only [DecisionInputs.permittedParameters, if_pos h]
      exact le_of_lt h
    · simp only [DecisionInputs.permittedParameters, if_neg h, le_refl]
  · by_cases h : inputs.ManagementConstrained
    · simp only [DecisionInputs.permittedParameters, if_pos h]
    · simp only [DecisionInputs.permittedParameters, if_neg h]
      by_contra hfalse
      exact h ⟨hpreserve, Bool.not_eq_true _ |>.mp hfalse⟩

/-- Soundness of a permit: the evaluation allows an action only for the trusted principal
that the request names, on attested, intact, fresh and consistent evidence of enough
distinct registered sources, against a target and with a consequence that need no human
approval. -/
theorem permit_sound [LawfulPyFloat F] (rt : Runtime) (lib : Primitives) (policy : Policy F)
    (hpolicy : policy.Accepted) (verifier : EvidenceAttestationVerifier)
    (principal : AuthenticatedPrincipal) (now : Int) (decisionId : String)
    (issuer : Option (ApprovalIssuer F)) (request : DecisionRequest F) (d : DecisionRecord F)
    (h : evaluateRequest rt lib policy verifier principal now decisionId issuer request = some d)
    (hpermit : d.outcome = .allow ∨ d.outcome = .allowConstrained) :
    SoundPermit rt lib policy verifier principal now request d := by
  obtain ⟨target, evidence, htarget, hevidence, h⟩ := evaluateRequest_eq_some h
  obtain ⟨rule, requirement, hrule, rfl⟩ := buildDecision_eq_some h
  have hrulePermit : IsPermit rule.outcome := hpermit
  obtain ⟨hidentity, htype, htier0, happroval, hauthority, hautomation⟩ :=
    (unblocked_of_permit hpolicy.rules hrule hrulePermit).facts
  obtain ⟨hauthenticated, hid, hattributes, htrusted⟩ := identityFatal_eq_false hidentity
  have hle := permittedParameters_le
    (evaluationInputs policy principal now decisionId request target evidence)
    hpolicy.actionPolicy.preserveManagement
  -- the tallies behind the evidence assessment
  obtain ⟨rows, hread, rfl⟩ := Option.map_eq_some_iff.mp hevidence
  have hgrade := EvidenceTally.automationGrade_sound hautomation
  have hunattended := unattended_of_not_humanApproval
    ⟨target, policy.actionPolicy, policy.consequence, request.action.parameters⟩
    hpolicy.consequence hpolicy.actionPolicy (of_decide_eq_false happroval)
  have htargetId := (Policy.targetRecord_some htarget).2
  exact {
    authenticated := hauthenticated
    trusted := htrusted
    identity := ⟨hid, hattributes⟩
    evidence := fun item hitem =>
      soundItem_of_automationGrade hpolicy.evidence hread hgrade hitem
    corroboration := corroboration_of_automationGrade hpolicy.evidence hread hgrade
    required := by
      intro t ht
      obtain ⟨row, hrow, htype⟩ := hgrade.required t ht
      exact ⟨row.1, EvidenceInputs.fst_mem_of_readItems hread hrow, htype⟩
    target := ⟨target, htarget, hunattended.criticality.1, htier0, htype⟩
    authority := by
      have hrequired := of_decide_eq_true hauthority
      rwa [DecisionInputs.requiredAuthority, if_neg htier0] at hrequired
    consequence := by
      refine ⟨_, rfl, hunattended.level.1, hunattended.level.2, hunattended.cascading,
        hunattended.downtime, ?_⟩
      exact lt_of_lt_of_le hunattended.downtime hpolicy.consequence.approvalDowntime.2
    permitted := by
      refine ⟨_, ?_, hle⟩
      rw [← htargetId]
      exact permittedAction_of_permit hrulePermit }

end Permit

theorem permit_sound_workstation :
    ∃ d, evaluateRequest newYearRuntime plainPrimitives shippedPolicy exampleVerifier
        examplePrincipal 1767225600000000 "decision-1" none exampleRequest = some d ∧
      SoundPermit newYearRuntime plainPrimitives shippedPolicy exampleVerifier examplePrincipal
        1767225600000000 exampleRequest d := by
  have houtcome : (evaluateRequest newYearRuntime plainPrimitives shippedPolicy exampleVerifier
      examplePrincipal 1767225600000000 "decision-1" none exampleRequest).map
        DecisionRecord.outcome = some .allow := by decide +kernel
  obtain ⟨d, hd, hallow⟩ := Option.map_eq_some_iff.mp houtcome
  exact ⟨d, hd, permit_sound newYearRuntime plainPrimitives shippedPolicy shippedPolicy_accepted
    exampleVerifier examplePrincipal 1767225600000000 "decision-1" none exampleRequest d hd
    (.inl hallow)⟩

end DecisionFirewall.Phase3
