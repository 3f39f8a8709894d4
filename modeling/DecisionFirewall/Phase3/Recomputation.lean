import DecisionFirewall.Phase3.Verifier
import DecisionFirewall.Phase3.ShippedPolicy

/-!
# What a Verified Digest Stands For

The verifier compares the members of a decision with `==`, and the digest that it signs is
taken of canonical JSON. The two agree exactly where the values are of the JSON types that
the recomputed decision has in the same places.

- §1 members of a recomputed decision
- §2 equal members and one digest
- §3 a tampered denial
- §4 the verified digest
-/

namespace DecisionFirewall.Phase3

open StageA

variable {F : Type}

/-! ## §1 Members of a recomputed decision -/

@[simp] theorem plain_strs (xs : List String) : (strs xs).Plain :=
  Json.plain_arr (by simp)

section Plain

variable [PyFloat F]

theorem AuthorityAssessment.plain (a : AuthorityAssessment) : (Json.obj a.toDict).Plain :=
  Json.plain_obj (by simp [toDict]) (by simp [toDict])

theorem Command.plain_of_parameters (type target : String) (p : ActionParameters) :
    (Command.toJson ⟨type, target, p.toDict⟩).Plain := by
  have hparameters : (Json.obj p.toDict).Plain :=
    Json.plain_obj (by simp [ActionParameters.toDict]) (by simp [ActionParameters.toDict])
  exact Json.plain_obj (by simp) (by simp [hparameters])

variable [LawfulPyFloat F]

theorem EvidenceItemAssessment.plain (i : EvidenceItemAssessment F) :
    (Json.obj i.toDict).Plain :=
  Json.plain_obj (by simp [toDict]) (by simp [toDict])

theorem EvidenceAssessment.plain (e : EvidenceAssessment F) : (Json.obj e.toDict).Plain := by
  have hitems : (Json.arr (e.assessedItems.map fun i => .obj i.toDict)).Plain :=
    Json.plain_arr (by simpa using fun i _ => i.plain)
  exact Json.plain_obj (by simp [toDict]) (by simp [toDict, hitems])

theorem ConsequenceAssessment.plain (c : ConsequenceAssessment F) : (Json.obj c.toDict).Plain :=
  Json.plain_obj (by simp [toDict]) (by simp [toDict])

namespace DecisionInputs

variable (inputs : DecisionInputs F)

omit [PyFloat F] [LawfulPyFloat F] in
theorem plain_constraints : (Json.arr (inputs.constraints.map fun c => .obj c.toDict)).Plain := by
  apply Json.plain_arr
  intro j hj
  obtain ⟨c, hc, rfl⟩ := List.mem_map.mp hj
  have hvalues : c.requested.Plain ∧ c.permitted.Plain := by
    simp only [constraints, List.mem_append, Lib.Tally.mem_flag] at hc
    rcases hc with ⟨-, rfl⟩ | ⟨-, rfl⟩ <;> exact ⟨by simp, by simp⟩
  exact Json.plain_obj (by simp [Constraint.toDict]) (by simp [Constraint.toDict, hvalues])

omit [PyFloat F] [LawfulPyFloat F] in
theorem plain_permittedAction (outcome : DecisionOutcome) :
    (((inputs.permittedAction outcome).map Command.toJson).getD .null).Plain := by
  unfold permittedAction
  split_ifs with h
  · exact Command.plain_of_parameters _ _ _
  · exact Json.plain_null

/-- Every open member of a decision that was computed is a plain value. -/
theorem wellFormed_preliminary (rt : Runtime) (rule : DecisionRule) :
    (inputs.preliminary rt rule).object.WellFormed := by
  have hplain : ∀ j : Json, j.Plain → (PyVal.ofJson j).KeysOk ∧ (PyVal.ofJson j).toJson.NumbersOk :=
    fun j hj => ⟨hj.1, by rw [PyVal.toJson_ofJson]; exact hj.2⟩
  intro v hv
  simp only [DecisionObject.values, List.mem_cons, List.not_mem_nil, or_false] at hv
  rcases hv with rfl | rfl | rfl | rfl | rfl | rfl
  · exact hplain _ (Command.plain_of_parameters _ _ _)
  · exact hplain _ (inputs.plain_permittedAction rule.outcome)
  · exact hplain _ (AuthorityAssessment.plain _)
  · exact hplain _ (EvidenceAssessment.plain _)
  · exact hplain _ (ConsequenceAssessment.plain _)
  · exact hplain _ inputs.plain_constraints

end DecisionInputs

/-- Every decision that `evaluateRequest` computes is a plain value. -/
theorem wellFormed_of_evaluateRequest {rt : Runtime} {lib : Primitives} {policy : Policy F}
    {verifier : EvidenceAttestationVerifier} {principal : AuthenticatedPrincipal} {now : Int}
    {decisionId : String} {issuer : Option (ApprovalIssuer F)} {request : DecisionRequest F}
    {d : DecisionRecord F}
    (h : evaluateRequest rt lib policy verifier principal now decisionId issuer request = some d) :
    d.object.WellFormed := by
  obtain ⟨target, evidence, -, -, hbuild⟩ := evaluateRequest_eq_some h
  obtain ⟨rule, requirement, -, rfl⟩ := buildDecision_eq_some hbuild
  exact DecisionInputs.wellFormed_preliminary _ rt rule

end Plain

/-! ## §2 Equal members and one digest -/

namespace DecisionObject

/-- The scalar members and the lists of texts agree. -/
structure SameTexts (d e : DecisionObject) : Prop where
  decisionId : d.decisionId = e.decisionId
  requestId : d.requestId = e.requestId
  decidedAt : d.decidedAt = e.decidedAt
  policyId : d.policyId = e.policyId
  policyVersion : d.policyVersion = e.policyVersion
  policySha256 : d.policySha256 = e.policySha256
  outcome : d.outcome = e.outcome
  reasonCodes : d.reasonCodes = e.reasonCodes
  applicableRules : d.applicableRules = e.applicableRules
  requestSha256 : d.requestSha256 = e.requestSha256
  decisionContextSha256 : d.decisionContextSha256 = e.decisionContextSha256

/-- The members of open type have the same JSON types in the same places. -/
structure SameTypes (d e : DecisionObject) : Prop where
  requestedAction : d.requestedAction.SameKinds e.requestedAction
  permittedAction : d.permittedAction.SameKinds e.permittedAction
  authority : d.authority.SameKinds e.authority
  evidence : d.evidence.SameKinds e.evidence
  consequence : d.consequence.SameKinds e.consequence
  constraints : d.constraints.SameKinds e.constraints

/-- The members of open type are equal in Python. -/
structure SameValues (F : Type) [PyFloat F] (d e : DecisionObject) : Prop where
  requestedAction : PyVal.pyEq F d.requestedAction e.requestedAction = true
  permittedAction : PyVal.pyEq F d.permittedAction e.permittedAction = true
  authority : PyVal.pyEq F d.authority e.authority = true
  evidence : PyVal.pyEq F d.evidence e.evidence = true
  consequence : PyVal.pyEq F d.consequence e.consequence = true
  constraints : PyVal.pyEq F d.constraints e.constraints = true

theorem numbersOk_authorizationProjection {d : DecisionObject} (h : d.WellFormed) :
    Json.NumbersOkFields d.authorizationProjection := by
  have hvalue : ∀ v ∈ d.values, v.toJson.NumbersOk := fun v hv => (h v hv).2
  simp only [values, List.forall_mem_cons] at hvalue
  obtain ⟨h₁, h₂, h₃, h₄, h₅, h₆, -⟩ := hvalue
  simp [authorizationProjection, Json.NumbersOkFields, Json.NumbersOk, strs, h₁, h₂, h₃, h₄, h₅, h₆]

variable [PyFloat F] {d e : DecisionObject}

/-- One canonical text of two equal decisions, read member by member. -/
theorem canonicalJson_eq_iff (hd : d.WellFormed) (he : e.WellFormed) (htexts : d.SameTexts e)
    (hvalues : d.SameValues F e) :
    canonicalJson (.obj d.authorizationProjection) =
      canonicalJson (.obj e.authorizationProjection) ↔ d.SameTypes e := by
  have hkd : ∀ v ∈ d.values, v.KeysOk := fun v hv => (hd v hv).1
  have hke : ∀ v ∈ e.values, v.KeysOk := fun v hv => (he v hv).1
  simp only [values, List.forall_mem_cons] at hkd hke
  obtain ⟨d₁, d₂, d₃, d₄, d₅, d₆, -⟩ := hkd
  obtain ⟨e₁, e₂, e₃, e₄, e₅, e₆, -⟩ := hke
  constructor
  · intro h
    have hkeys : d.authorizationProjection.map Prod.fst =
        e.authorizationProjection.map Prod.fst := rfl
    have hnodup : (d.authorizationProjection.map Prod.fst).Nodup := by
      simp [authorizationProjection]
    have hsorted := Json.values_eq_of_canonicalJson (numbersOk_authorizationProjection hd)
      (numbersOk_authorizationProjection he) hkeys hnodup h
    simp only [authorizationProjection, List.map_cons, List.map_nil, List.cons.injEq,
      and_true] at hsorted
    obtain ⟨-, -, -, -, -, -, -, -, -, h₁, h₂, h₃, h₄, h₅, h₆, -⟩ := hsorted
    exact {
      requestedAction := PyVal.sameKinds_of_sorted_eq F _ _ e₁ hvalues.requestedAction h₁
      permittedAction := PyVal.sameKinds_of_sorted_eq F _ _ e₂ hvalues.permittedAction h₂
      authority := PyVal.sameKinds_of_sorted_eq F _ _ e₃ hvalues.authority h₃
      evidence := PyVal.sameKinds_of_sorted_eq F _ _ e₄ hvalues.evidence h₄
      consequence := PyVal.sameKinds_of_sorted_eq F _ _ e₅ hvalues.consequence h₅
      constraints := PyVal.sameKinds_of_sorted_eq F _ _ e₆ hvalues.constraints h₆ }
  · intro h
    -- the sorted values agree, and the text is read off them
    have h₁ := PyVal.sorted_eq_of_sameKinds F _ _ d₁ hvalues.requestedAction h.requestedAction
    have h₂ := PyVal.sorted_eq_of_sameKinds F _ _ d₂ hvalues.permittedAction h.permittedAction
    have h₃ := PyVal.sorted_eq_of_sameKinds F _ _ d₃ hvalues.authority h.authority
    have h₄ := PyVal.sorted_eq_of_sameKinds F _ _ d₄ hvalues.evidence h.evidence
    have h₅ := PyVal.sorted_eq_of_sameKinds F _ _ d₅ hvalues.consequence h.consequence
    have h₆ := PyVal.sorted_eq_of_sameKinds F _ _ d₆ hvalues.constraints h.constraints
    have hsorted : (Json.obj d.authorizationProjection).sorted =
        (Json.obj e.authorizationProjection).sorted := by
      simp only [authorizationProjection, Json.sorted, Json.sortedFields, h₁, h₂, h₃, h₄, h₅, h₆,
        htexts.decisionId, htexts.requestId, htexts.decidedAt, htexts.policyId,
        htexts.policyVersion, htexts.policySha256, htexts.outcome, htexts.reasonCodes,
        htexts.applicableRules, htexts.requestSha256, htexts.decisionContextSha256]
    rw [canonicalJson, canonicalJson, Json.render_eq_text, Json.render_eq_text, hsorted]

end DecisionObject

/-- What a recomputed decision copies from its inputs. -/
structure CopiesInputs [PyFloat F] (rt : Runtime) (policy : Policy F) (now : Int)
    (decisionId : String) (request : DecisionRequest F) (d : DecisionRecord F) : Prop where
  decisionId : d.decisionId = decisionId
  requestId : d.requestId = request.requestId
  decidedAt : d.decidedAt = rt.isoformat (Runtime.truncate now)
  policyId : d.policyId = policy.policyId
  policyVersion : d.policyVersion = policy.version
  policySha256 : d.policySha256 = policy.sha256 rt
  requestSha256 : d.requestSha256 = request.requestSha256 rt

theorem copiesInputs_of_evaluateRequest [PyFloat F] {rt : Runtime} {lib : Primitives}
    {policy : Policy F} {verifier : EvidenceAttestationVerifier}
    {principal : AuthenticatedPrincipal} {now : Int} {decisionId : String}
    {issuer : Option (ApprovalIssuer F)} {request : DecisionRequest F} {d : DecisionRecord F}
    (h : evaluateRequest rt lib policy verifier principal now decisionId issuer request = some d) :
    CopiesInputs rt policy now decisionId request d := by
  obtain ⟨target, evidence, -, -, hbuild⟩ := evaluateRequest_eq_some h
  obtain ⟨rule, requirement, -, rfl⟩ := buildDecision_eq_some hbuild
  exact ⟨rfl, rfl, rfl, rfl, rfl, rfl, rfl⟩

section Verified

variable [PyFloat F] {rt : Runtime} {lib : Primitives} {v : IndependentDecisionVerifier}
  {args : VerifyArgs F} {readings : VerifyReadings} {expected : DecisionRecord F}

/-- A verified decision equals the recomputed one as Python sees it. -/
theorem same_of_succeeds (h : v.Succeeds rt lib args readings)
    (hexpected : v.recompute rt lib args args.principal = some expected) :
    args.decision.SameTexts expected.object ∧ args.decision.SameValues F expected.object := by
  obtain ⟨requestTime, ⟨request, policy, target, expected'⟩, hconfirmed⟩ :=
    IndependentDecisionVerifier.succeeds_iff.mp h
  obtain rfl : request = args.request := hconfirmed.request
  obtain rfl : policy = args.policy := hconfirmed.policy
  -- one recomputation
  have hsame : expected' = expected := by
    have hrecomputed := hconfirmed.recomputed
    rw [hexpected] at hrecomputed
    exact (Option.some.inj hrecomputed).symm
  subst hsame
  have hcopies := copiesInputs_of_evaluateRequest hexpected
  have hdecidedAt := hcopies.decidedAt
  rw [Runtime.truncate_truncate] at hdecidedAt
  obtain ⟨houtcome, hreasons, hrules, hrequested, hpermitted, hconstraints, hsha, hcontext⟩ :=
    hconfirmed.decision
  constructor
  · exact {
      decisionId := hcopies.decisionId.symm
      requestId := hconfirmed.requestBinding.1.trans hcopies.requestId.symm
      decidedAt := hconfirmed.chronology.2.2.trans hdecidedAt.symm
      policyId := hconfirmed.policyBinding.1.trans hcopies.policyId.symm
      policyVersion := hconfirmed.policyBinding.2.1.trans hcopies.policyVersion.symm
      policySha256 := hconfirmed.policyBinding.2.2.trans hcopies.policySha256.symm
      outcome := houtcome
      reasonCodes := hreasons
      applicableRules := hrules
      requestSha256 := hsha
      decisionContextSha256 := hcontext }
  · exact ⟨hrequested, hpermitted, hconfirmed.authority, hconfirmed.evidence,
      hconfirmed.consequence, hconstraints⟩

/-- A decision that Python sees as the recomputed one is verified, if its bindings outside
the record are in order. -/
theorem succeeds_of_same {requestTime : Int} {target : TargetRecord}
    (hrevalidated : args.request.Revalidated rt args.evaluatedAt)
    (hresolution :
      v.principalResolver.verifyResolution lib args.principalResolution = some args.principal)
    (htarget : args.policy.targetRecord args.request.action.target = some target)
    (hsupplied : args.target = target)
    (htime : parseTimestamp rt args.request.timestamp = some requestTime)
    (hbefore : requestTime ≤ Runtime.truncate args.evaluatedAt)
    (hclock : |readings.verifierNow - Runtime.truncate args.evaluatedAt| ≤ 5000000)
    (hexpected : v.recompute rt lib args args.principal = some expected)
    (htexts : args.decision.SameTexts expected.object)
    (hvalues : args.decision.SameValues F expected.object)
    (hrequested : args.decision.requestedTarget = some (.str args.request.action.target))
    (hpresence : ApprovalPresence args.decision)
    (happroval : approvalValid rt ⟨args.request, args.policy, target, expected⟩ args.decision lib
      v.approvalGate = some true) :
    v.Succeeds rt lib args readings := by
  have hcopies := copiesInputs_of_evaluateRequest hexpected
  have hdecidedAt := hcopies.decidedAt
  rw [Runtime.truncate_truncate] at hdecidedAt
  refine IndependentDecisionVerifier.succeeds_iff.mpr
    ⟨requestTime, ⟨args.request, args.policy, target, expected⟩, ?_⟩
  exact {
    revalidated := hrevalidated
    request := rfl
    policy := rfl
    resolution := hresolution
    trustedTarget := htarget
    suppliedTarget := hsupplied
    timestamp := htime
    chronology := ⟨hbefore, hclock, htexts.decidedAt.trans hdecidedAt⟩
    recomputed := hexpected
    requestedTarget := ⟨_, hrequested, by simp [PyVal.pyEq], (Policy.targetRecord_some htarget).2.symm⟩
    requestBinding := ⟨htexts.requestId.trans hcopies.requestId,
      htexts.requestSha256.trans hcopies.requestSha256⟩
    policyBinding := ⟨htexts.policyId.trans hcopies.policyId,
      htexts.policyVersion.trans hcopies.policyVersion,
      htexts.policySha256.trans hcopies.policySha256⟩
    authority := hvalues.authority
    evidence := hvalues.evidence
    consequence := hvalues.consequence
    decision := ⟨htexts.outcome, htexts.reasonCodes, htexts.applicableRules,
      hvalues.requestedAction, hvalues.permittedAction, hvalues.constraints,
      htexts.requestSha256, htexts.decisionContextSha256⟩
    approvalPresence := hpresence
    approval := happroval }

/-- A record that has the same texts and values as itself. -/
theorem DecisionObject.SameValues.refl [LawfulPyFloat F] {d : DecisionObject}
    (h : d.WellFormed) : d.SameValues F d := by
  have hkeys : ∀ v ∈ d.values, PyVal.pyEq F v v = true := fun v hv =>
    PyVal.pyEq_refl F v (h v hv).1
  simp only [DecisionObject.values, List.forall_mem_cons] at hkeys
  obtain ⟨h₁, h₂, h₃, h₄, h₅, h₆, -⟩ := hkeys
  exact ⟨h₁, h₂, h₃, h₄, h₅, h₆⟩

end Verified

/-! ## §3 A tampered denial -/

/-- The example request passes the validation at its own time. -/
theorem exampleRequest_validated {rt : Runtime}
    (hread : parseTimestamp rt "2026-01-01T00:00:00+00:00" = some 1767225600000000) :
    exampleRequest.Validated rt 1767225600000000 where
  depth := by decide +kernel
  schemaVersion := rfl
  requestId := by simp [exampleRequest, IsSchemaIdentifier]
  agent := ⟨by simp [exampleRequest, IsSchemaIdentifier],
    by simp [exampleRequest, IsIdentifierSet, IsSchemaIdentifier],
    by simp [exampleRequest, IsIdentifierSet, IsSchemaIdentifier]⟩
  action := ⟨by simp [exampleRequest, IsSchemaIdentifier], by decide⟩
  target := ⟨by simp [exampleRequest, IsSchemaIdentifier],
    by simp [exampleRequest, IsIdentifierSet]⟩
  evidence := by
    refine ⟨by decide, by decide, ?_⟩
    have hdigest : IsHexDigest zeros := by simp [IsHexDigest, zeros]
    have hclaims : IsClaimSet [] ∧ IsClaimSet ["COMPROMISE"] := by
      simp [IsClaimSet, IsClaimCode]
    intro item hitem
    simp only [exampleRequest, List.mem_cons, List.not_mem_nil, or_false] at hitem
    rcases hitem with rfl | rfl | rfl | rfl | rfl <;>
      exact ⟨by simp [exampleItem, IsSchemaIdentifier], ⟨hdigest, hdigest⟩, by decide +kernel,
        by simp [exampleItem, hclaims], by decide, by decide⟩
  confidence := by decide +kernel
  context := ⟨by decide, (encodedSize_le _).trans (by decide)⟩
  targetBinding := rfl
  evidenceIds := by decide
  payloads := by
    intro item hitem
    have hpayload : item.payload = [] := by
      simp only [exampleRequest, List.mem_cons, List.not_mem_nil, or_false] at hitem
      rcases hitem with rfl | rfl | rfl | rfl | rfl <;> rfl
    rw [hpayload]
    exact (encodedSize_le _).trans (by decide)
  stances := by decide
  times := by
    refine ⟨1767225600000000, hread, by decide, ?_⟩
    intro item hitem
    have hobserved : item.observedAt = "2026-01-01T00:00:00+00:00" := by
      simp only [exampleRequest, List.mem_cons, List.not_mem_nil, or_false] at hitem
      rcases hitem with rfl | rfl | rfl | rfl | rfl <;> rfl
    exact ⟨1767225600000000, by rw [hobserved]; exact hread, by decide⟩

theorem exampleRequest_revalidated {rt : Runtime}
    (hread : parseTimestamp rt "2026-01-01T00:00:00+00:00" = some 1767225600000000) :
    exampleRequest.Revalidated rt 1767225600000000 :=
  ⟨(encodedSize_le _).trans (by decide +kernel), exampleRequest_validated hread⟩

/-- The example request, written at another time. -/
def exampleRequestAt (timestamp : String) : DecisionRequest ℚ :=
  { exampleRequest with timestamp := timestamp }

/-- A principal whose status has changed since the request was written. -/
def degradedPrincipal : AuthenticatedPrincipal :=
  { examplePrincipal with securityStatus := .degraded }

def exampleResolver : TrustedPrincipalResolver where
  records := [(zeros, degradedPrincipal)]
  signingKey := List.replicate 32 7
  instanceId := "principal-resolver-1"
  nonempty := by decide
  registered := by
    intro r hr
    rw [List.mem_singleton.mp hr]
    exact ⟨rfl, by decide, by decide⟩
  digests := by decide
  ids := by decide

def exampleGate : HumanApprovalGate where
  signingKey := List.replicate 32 6
  ttlSeconds := 3600
  issuerInstanceId := "approval-issuer-1"
  requirements := []
  issuedDecisionIds := []
  key := by decide
  ttl := by decide

def exampleDecisionVerifier : IndependentDecisionVerifier where
  signingKey := List.replicate 32 8
  attestationVerifier := exampleVerifier
  approvalGate := exampleGate
  principalResolver := exampleResolver
  verifierInstanceId := "verifier-1"
  key := by decide

/-- The decision on a request of a degraded principal is a denial, whatever the evidence. -/
theorem exists_denial {rt : Runtime}
    (hread : parseTimestamp rt "2026-01-01T00:00:00+00:00" = some 1767225600000000)
    (timestamp : String) (issuer : Option (ApprovalIssuer ℚ)) :
    ∃ d, evaluateRequest rt plainPrimitives shippedPolicy exampleVerifier degradedPrincipal
        1767225600000000 "decision-1" issuer (exampleRequestAt timestamp) = some d ∧
      d.requestedAction = some exampleRequest.action.command ∧ d.outcome = .deny ∧
      d.approvalRequirement = none := by
  obtain ⟨evidence, hevidence⟩ : ∃ evidence, assessEvidence rt plainPrimitives
      (shippedPolicy : Policy ℚ).evidence exampleVerifier 1767225600000000
        (exampleRequestAt timestamp) = some evidence := by
    simp [assessEvidence, EvidenceInputs.readItems, exampleRequestAt, exampleRequest,
      exampleItem, hread]
  have htarget : (shippedPolicy : Policy ℚ).targetRecord exampleRequest.action.target =
      some workstation042 := by decide +kernel
  let inputs := evaluationInputs shippedPolicy degradedPrincipal 1767225600000000 "decision-1"
    (exampleRequestAt timestamp) workstation042 evidence
  have hfatal : (assessAuthority exampleRequest.agent degradedPrincipal
      (shippedPolicy : Policy ℚ).actionPolicy.requiredAuthority).identityFatal = true := by
    decide +kernel
  obtain ⟨rule, hrule, houtcome⟩ : ∃ rule, inputs.selectedRule = some rule ∧
      rule.outcome = .deny := by
    refine ⟨_, List.find?_cons_of_pos ?_, rfl⟩
    exact hfatal
  refine ⟨inputs.preliminary rt rule, ?_, rfl, houtcome, rfl⟩
  unfold evaluateRequest
  rw [show (exampleRequestAt timestamp).action = exampleRequest.action from rfl, htarget, hevidence]
  unfold buildDecision
  simp only [Option.bind_eq_bind, Option.bind_some]
  rw [show (evaluationInputs shippedPolicy degradedPrincipal 1767225600000000 "decision-1"
    (exampleRequestAt timestamp) workstation042 evidence).selectedRule = some rule from hrule]
  simp [houtcome, inputs]

/-- The request of a decision with `1` for `True`. -/
def tamperedAction : PyVal :=
  .dict [("type", .str NETWORK_ISOLATE), ("target", .str "WORKSTATION_042"),
    ("parameters", .dict [("duration_seconds", .int 600), ("preserve_management", .int 1)])]

/-- A digest that tells texts of even length from texts of odd length. -/
def paritySha256 (text : String) : String :=
  if text.length % 2 = 0 then zeros
  else "1111111111111111111111111111111111111111111111111111111111111111"

theorem paritySha256_isSha256 (text : String) : IsSha256 (paritySha256 text) := by
  unfold paritySha256
  split_ifs <;> decide

theorem parity_eq_of_paritySha256 {s t : String} (h : paritySha256 s = paritySha256 t) :
    s.length % 2 = t.length % 2 := by
  have hne : zeros ≠ "1111111111111111111111111111111111111111111111111111111111111111" := by
    decide
  unfold paritySha256 at h
  split_ifs at h with hs ht ht
  · omega
  · exact absurd h hne
  · exact absurd h.symm hne
  · omega

def parityRuntime : Runtime :=
  .ofInstants Runtime.newYear paritySha256 paritySha256_isSha256 Runtime.secondsNamed_newYear

/-- The tampered action is three characters shorter than the action of the request. -/
theorem length_tamperedAction : tamperedAction.toJson.render.length + 3 =
    (exampleRequest.action.command.toJson).render.length := by
  simp only [tamperedAction, PyVal.toJson, PyVal.toJsonFields, Command.toJson,
    ActionRequest.command, ActionParameters.toDict, exampleRequest]
  rw [length_render_obj (by simp), length_render_obj (by simp)]
  simp only [List.map_cons, List.map_nil, List.sum_cons, List.sum_nil]
  rw [length_render_obj (by simp), length_render_obj (by simp)]
  simp only [List.map_cons, List.map_nil, List.sum_cons, List.sum_nil]
  have hone : (Json.int 1).render.length = 1 := by decide
  have htrue : (Json.bool true).render.length = 4 := by decide
  omega

/-- The record with the tampered action in the place of its own. -/
def DecisionObject.tampered (d : DecisionObject) : DecisionObject :=
  { d with requestedAction := tamperedAction }

/-- The arguments under which the tampered denial is verified. -/
def tamperedArgs (d : DecisionObject) : VerifyArgs ℚ where
  request := exampleRequest
  principal := degradedPrincipal
  principalResolution := exampleResolver.resolution plainPrimitives "resolution-1" zeros
    degradedPrincipal
  policy := shippedPolicy
  target := workstation042
  decision := d.tampered
  evaluatedAt := 1767225600000000

/-- Tampering changes the parity of the length of the digested text. -/
theorem digest_tampered_ne {d : DecisionObject}
    (haction : d.requestedAction.toJson = exampleRequest.action.command.toJson) :
    d.tampered.authorizationSha256 parityRuntime ≠ d.authorizationSha256 parityRuntime := by
  intro heq
  have hparity := parity_eq_of_paritySha256 heq
  have hlength := length_tamperedAction
  rw [length_canonicalJson, length_canonicalJson,
    length_render_obj (by simp [DecisionObject.authorizationProjection]),
    length_render_obj (by simp [DecisionObject.authorizationProjection])] at hparity
  simp only [DecisionObject.authorizationProjection, DecisionObject.tampered, List.map_cons,
    List.map_nil, List.sum_cons, List.sum_nil, haction] at hparity
  omega

def exampleReadings : VerifyReadings := ⟨1767225600000000, 1767225600000000, "verification-1"⟩

/-- Some denial is verified with its action tampered. -/
theorem exists_tampered_denial :
    ∃ d : DecisionRecord ℚ, d.object.tampered.WellFormed ∧
      exampleDecisionVerifier.Succeeds parityRuntime plainPrimitives (tamperedArgs d.object)
        exampleReadings ∧
      exampleDecisionVerifier.recompute parityRuntime plainPrimitives (tamperedArgs d.object)
        degradedPrincipal = some d ∧
      d.object.tampered.authorizationSha256 parityRuntime ≠
        d.authorizationSha256 parityRuntime := by
  have hread : parseTimestamp parityRuntime "2026-01-01T00:00:00+00:00" =
      some 1767225600000000 := by decide +kernel
  obtain ⟨d, hd, haction, houtcome, happroval⟩ := exists_denial hread "2026-01-01T00:00:00+00:00"
    (some fun _ => none)
  have hplain := wellFormed_of_evaluateRequest hd
  have hsame := DecisionObject.SameValues.refl (F := ℚ) hplain
  have hpresent : d.object.tampered.approvalRequirement = none := happroval
  have haction' : d.object.requestedAction = .ofJson exampleRequest.action.command.toJson := by
    simp only [DecisionRecord.object, haction, Option.map_some, Option.getD_some]
  have hexpected : exampleDecisionVerifier.recompute parityRuntime plainPrimitives
      (tamperedArgs d.object) degradedPrincipal = some d := by
    have hdecisionId : d.object.tampered.decisionId = "decision-1" :=
      (copiesInputs_of_evaluateRequest hd).decisionId
    have hinstant : Runtime.truncate 1767225600000000 = 1767225600000000 := by decide
    unfold IndependentDecisionVerifier.recompute tamperedArgs
    simp only [hpresent, hdecisionId, hinstant]
    exact hd
  have htarget : (shippedPolicy : Policy ℚ).targetRecord exampleRequest.action.target =
      some workstation042 := by decide +kernel
  have hnow : (1767225600000000 : Int) ≤ Runtime.truncate 1767225600000000 ∧
      |(1767225600000000 : Int) - Runtime.truncate 1767225600000000| ≤ 5000000 := by decide
  have hequal : PyVal.pyEq ℚ tamperedAction (.ofJson exampleRequest.action.command.toJson) =
      true := by decide +kernel
  refine ⟨d, ?_, ?_, hexpected, ?_⟩
  · -- the tampered member is a plain value as well
    have hmembers : ∀ v ∈ d.object.values.tail, v.KeysOk ∧ v.toJson.NumbersOk :=
      fun v hv => hplain v (List.mem_of_mem_tail hv)
    refine List.forall_mem_cons.mpr ⟨⟨?_, ?_⟩, hmembers⟩
    · simp [DecisionObject.tampered, tamperedAction, PyVal.KeysOk,
        PyVal.KeysOkFields]
    · simp [DecisionObject.tampered, tamperedAction, PyVal.toJson,
        PyVal.toJsonFields, Json.NumbersOk, Json.NumbersOkFields]
  · refine succeeds_of_same (exampleRequest_revalidated hread)
      (exampleResolver.verifyResolution_resolution _ _ _ _) htarget rfl hread hnow.1 hnow.2
      hexpected ⟨rfl, rfl, rfl, rfl, rfl, rfl, rfl, rfl, rfl, rfl, rfl⟩ ?_ rfl ?_ ?_
    · refine ⟨?_, hsame.permittedAction, hsame.authority, hsame.evidence, hsame.consequence,
        hsame.constraints⟩
      -- `1 == True`
      rw [haction']
      exact hequal
    · have hdenied : d.object.tampered.outcome ≠ DecisionOutcome.escalate.text := by
        simp [DecisionObject.tampered, DecisionRecord.object, houtcome, DecisionOutcome.text]
      exact ⟨fun h => absurd h hdenied, fun h => absurd h (by simp [tamperedArgs, hpresent])⟩
    · simp [tamperedArgs, approvalValid, hpresent]
  · have hdigest := digest_tampered_ne (d := d.object) (by rw [haction', PyVal.toJson_ofJson])
    unfold DecisionObject.authorizationSha256 at hdigest
    rw [d.authorizationProjection_object] at hdigest
    exact hdigest

/-! ## §4 The verified digest -/

/-- The verified digest is that of the recomputed decision exactly when the open members
of the decision have its JSON types, unless the digest collides on the two texts. -/
theorem verified_digest_iff [PyFloat F] [LawfulPyFloat F] {rt : Runtime} {lib : Primitives}
    {v : IndependentDecisionVerifier} {args : VerifyArgs F} {readings : VerifyReadings}
    {expected : DecisionRecord F} (hdecision : args.decision.WellFormed)
    (h : v.Succeeds rt lib args readings)
    (hexpected : v.recompute rt lib args args.principal = some expected)
    (hsha : Set.InjOn rt.sha256 {canonicalJson (.obj args.decision.authorizationProjection),
      canonicalJson (.obj expected.object.authorizationProjection)}) :
    args.decision.authorizationSha256 rt = expected.authorizationSha256 rt ↔
      args.decision.SameTypes expected.object := by
  obtain ⟨htexts, hvalues⟩ := same_of_succeeds h hexpected
  have hplain := wellFormed_of_evaluateRequest hexpected
  rw [← DecisionObject.canonicalJson_eq_iff hdecision hplain htexts hvalues]
  unfold DecisionObject.authorizationSha256 DecisionRecord.authorizationSha256 Runtime.sha256Json
  rw [← expected.authorizationProjection_object]
  constructor
  · intro heq
    exact hsha (by simp) (by simp) heq
  · intro heq
    rw [heq]

/-- A tampered record is verified and signed under a digest that is not the recomputed
decision's. -/
theorem verified_digest_differs :
    ∃ (rt : Runtime) (lib : Primitives) (v : IndependentDecisionVerifier) (args : VerifyArgs ℚ)
      (readings : VerifyReadings) (expected : DecisionRecord ℚ),
      args.decision.WellFormed ∧ v.Succeeds rt lib args readings ∧
        v.recompute rt lib args args.principal = some expected ∧
        args.decision.authorizationSha256 rt ≠ expected.authorizationSha256 rt := by
  obtain ⟨d, hplain, hsucceeds, hexpected, hdigest⟩ := exists_tampered_denial
  exact ⟨parityRuntime, plainPrimitives, exampleDecisionVerifier, tamperedArgs d.object,
    exampleReadings, d, hplain, hsucceeds, hexpected, hdigest⟩

theorem verified_digest_iff_tampered :
    ∃ d : DecisionRecord ℚ, (d.object.tampered.authorizationSha256 parityRuntime =
      d.authorizationSha256 parityRuntime ↔ d.object.tampered.SameTypes d.object) := by
  obtain ⟨d, hplain, hsucceeds, hexpected, hdigest⟩ := exists_tampered_denial
  refine ⟨d, @verified_digest_iff ℚ _ _ parityRuntime plainPrimitives exampleDecisionVerifier
    (tamperedArgs d.object) exampleReadings d hplain hsucceeds hexpected ?_⟩
  -- two texts with different digests do not collide
  have hdigest' := hdigest
  unfold DecisionObject.authorizationSha256 DecisionRecord.authorizationSha256
    Runtime.sha256Json at hdigest'
  rw [← d.authorizationProjection_object] at hdigest'
  intro x hx y hy heq
  rcases hx with rfl | rfl <;> rcases hy with rfl | rfl
  · rfl
  · exact absurd heq hdigest'
  · exact absurd heq.symm hdigest'
  · rfl

end DecisionFirewall.Phase3
