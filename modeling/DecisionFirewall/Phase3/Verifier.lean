import DecisionFirewall.Base.PyVal
import DecisionFirewall.Phase3.Approval
import DecisionFirewall.Phase3.Identity
import DecisionFirewall.Phase3.Requests

/-!
# The Independent Decision Verifier

`phase3/verifier.py`: the decision is recomputed at the whole second of its evaluation and
compared, field by field, with the record that is to be verified.

- §1 decisions as they are received
- §2 the checks
- §3 the verification
- §4 what a passed verification has compared
-/

namespace DecisionFirewall.Phase3

open StageA

variable {F : Type}

/-! ## §1 Decisions as they are received -/

/-- A `DecisionRecord` with whatever values its constructor admits: texts where it requires
exact strings, values made of JSON scalars elsewhere. An assessment stands as the
dictionary of its fields, an absent one as `None`. -/
structure DecisionObject where
  decisionId : String
  requestId : String
  decidedAt : String
  policyId : String
  policyVersion : String
  policySha256 : String
  outcome : String
  reasonCodes : List String
  applicableRules : List String
  requestedAction : PyVal
  permittedAction : PyVal
  authority : PyVal
  evidence : PyVal
  consequence : PyVal
  constraints : PyVal
  requestSha256 : String
  decisionContextSha256 : String
  approvalRequirement : Option ApprovalRequirement

namespace DecisionObject

/-- The members whose type the constructor leaves open. -/
def values (d : DecisionObject) : List PyVal :=
  [d.requestedAction, d.permittedAction, d.authority, d.evidence, d.consequence, d.constraints]

/-- The constructor admits the values: keys are distinct, and numbers are written as numbers. -/
def WellFormed (d : DecisionObject) : Prop :=
  ∀ v ∈ d.values, v.KeysOk ∧ v.toJson.NumbersOk

/-- `to_dict()` without latency, explanation and approval requirement. -/
def authorizationProjection (d : DecisionObject) : Dict :=
  [("decision_id", .str d.decisionId),
    ("request_id", .str d.requestId),
    ("decided_at", .str d.decidedAt),
    ("policy_id", .str d.policyId),
    ("policy_version", .str d.policyVersion),
    ("policy_sha256", .str d.policySha256),
    ("outcome", .str d.outcome),
    ("reason_codes", strs d.reasonCodes),
    ("applicable_rules", strs d.applicableRules),
    ("requested_action", d.requestedAction.toJson),
    ("permitted_action", d.permittedAction.toJson),
    ("authority", d.authority.toJson),
    ("evidence", d.evidence.toJson),
    ("consequence", d.consequence.toJson),
    ("constraints", d.constraints.toJson),
    ("request_sha256", .str d.requestSha256),
    ("decision_context_sha256", .str d.decisionContextSha256)]

/-- `authorization_sha256()`. -/
def authorizationSha256 (rt : Runtime) (d : DecisionObject) : String :=
  rt.sha256Json (.obj d.authorizationProjection)

/-- `requested_action.get("target")`; `none` is an `AttributeError`. -/
def requestedTarget (d : DecisionObject) : Option PyVal :=
  match d.requestedAction with
  | .dict fields => some ((fields.lookup "target").getD .none)
  | _ => Option.none

end DecisionObject

/-- The record as the engine hands it on. -/
def DecisionRecord.object [PyFloat F] (d : DecisionRecord F) : DecisionObject where
  decisionId := d.decisionId
  requestId := d.requestId
  decidedAt := d.decidedAt
  policyId := d.policyId
  policyVersion := d.policyVersion
  policySha256 := d.policySha256
  outcome := d.outcome.text
  reasonCodes := d.reasonCodes
  applicableRules := d.applicableRules
  requestedAction := .ofJson ((d.requestedAction.map Command.toJson).getD (.obj []))
  permittedAction := .ofJson ((d.permittedAction.map Command.toJson).getD .null)
  authority := .ofJson (.obj d.authority.toDict)
  evidence := .ofJson ((d.evidence.map fun e => Json.obj e.toDict).getD .null)
  consequence := .ofJson ((d.consequence.map fun c => Json.obj c.toDict).getD .null)
  constraints := .ofJson (.arr (d.constraints.map fun c => .obj c.toDict))
  requestSha256 := d.requestSha256
  decisionContextSha256 := d.decisionContextSha256
  approvalRequirement := d.approvalRequirement

theorem DecisionRecord.authorizationProjection_object [PyFloat F] (d : DecisionRecord F) :
    d.object.authorizationProjection = d.authorizationProjection := by
  simp only [DecisionObject.authorizationProjection, DecisionRecord.object, PyVal.toJson_ofJson,
    DecisionRecord.authorizationProjection]

/-! ## §2 The checks -/

/-- `IndependentDecisionVerifier`. -/
structure IndependentDecisionVerifier where
  signingKey : Bytes
  attestationVerifier : EvidenceAttestationVerifier
  approvalGate : HumanApprovalGate
  principalResolver : TrustedPrincipalResolver
  verifierInstanceId : String
  key : 32 ≤ signingKey.length

/-- The arguments of `verify`. -/
structure VerifyArgs (F : Type) where
  request : DecisionRequest F
  principal : AuthenticatedPrincipal
  principalResolution : ResolvedPrincipal
  policy : Policy F
  target : TargetRecord
  decision : DecisionObject
  evaluatedAt : Int

/-- What `verify` reads from its clock, first and last, and from its identifier source. -/
structure VerifyReadings where
  verifierNow : Int
  verifiedAt : Int
  verificationId : String

/-- What the checks compare a decision with. -/
structure Recomputed (F : Type) where
  request : DecisionRequest F
  policy : Policy F
  /-- the inventory record -/
  target : TargetRecord
  /-- `expected` -/
  expected : DecisionRecord F

section Checks

variable [PyFloat F] (rt : Runtime) (re : Recomputed F) (d : DecisionObject)

def RequestBinding : Prop :=
  d.requestId = re.request.requestId ∧ d.requestSha256 = re.request.requestSha256 rt

def PolicyBinding : Prop :=
  d.policyId = re.policy.policyId ∧ d.policyVersion = re.policy.version ∧
    d.policySha256 = re.policy.sha256 rt

/-- `decision.authority == expected.authority`, and likewise below. -/
def AuthorityRecomputed : Prop := PyVal.pyEq F d.authority re.expected.object.authority = true

def EvidenceRecomputed : Prop := PyVal.pyEq F d.evidence re.expected.object.evidence = true

def ConsequenceRecomputed : Prop :=
  PyVal.pyEq F d.consequence re.expected.object.consequence = true

/-- The `core_fields` agree. -/
def DecisionRecomputed : Prop :=
  d.outcome = re.expected.outcome.text ∧ d.reasonCodes = re.expected.reasonCodes ∧
    d.applicableRules = re.expected.applicableRules ∧
    PyVal.pyEq F d.requestedAction re.expected.object.requestedAction = true ∧
    PyVal.pyEq F d.permittedAction re.expected.object.permittedAction = true ∧
    PyVal.pyEq F d.constraints re.expected.object.constraints = true ∧
    d.requestSha256 = re.expected.requestSha256 ∧
    d.decisionContextSha256 = re.expected.decisionContextSha256

/-- The approval requirement carries the bindings of the decision. -/
def ApprovalBound (a : ApprovalRequirement) : Prop :=
  d.outcome = DecisionOutcome.escalate.text ∧ a.requestId = re.request.requestId ∧
    a.decisionId = d.decisionId ∧ a.decisionContextSha256 = d.decisionContextSha256 ∧
    a.policySha256 = d.policySha256 ∧ a.policyId = d.policyId ∧
    a.policyVersion = d.policyVersion ∧ a.actionType = NETWORK_ISOLATE ∧
    a.targetId = re.target.id ∧
    a.parametersSha256 = rt.sha256Json (.obj re.request.action.parameters.toDict) ∧
    a.evidenceSha256 = re.request.evidenceSha256 rt ∧
    a.requiredApprovingAuthority = re.expected.authority.requiredAuthority ∧
    a.reasonCodes = re.expected.reasonCodes

instance decidableRequestBinding : Decidable (RequestBinding rt re d) :=
  inferInstanceAs (Decidable (_ ∧ _))

instance decidablePolicyBinding : Decidable (PolicyBinding rt re d) :=
  inferInstanceAs (Decidable (_ ∧ _))

instance decidableAuthorityRecomputed : Decidable (AuthorityRecomputed re d) :=
  inferInstanceAs (Decidable (_ = _))

instance decidableEvidenceRecomputed : Decidable (EvidenceRecomputed re d) :=
  inferInstanceAs (Decidable (_ = _))

instance decidableConsequenceRecomputed : Decidable (ConsequenceRecomputed re d) :=
  inferInstanceAs (Decidable (_ = _))

instance decidableDecisionRecomputed : Decidable (DecisionRecomputed re d) :=
  inferInstanceAs (Decidable (_ ∧ _))

instance decidableApprovalBound (a : ApprovalRequirement) : Decidable (ApprovalBound rt re d a) :=
  inferInstanceAs (Decidable (_ ∧ _))

/-- The decision carries an approval requirement exactly where it escalates. -/
def ApprovalPresence : Prop :=
  d.outcome = DecisionOutcome.escalate.text ↔ d.approvalRequirement.isSome = true

instance decidableApprovalPresence : Decidable (ApprovalPresence d) :=
  inferInstanceAs (Decidable (_ ↔ _))

/-- `approval_valid`; `none` is an exception that is not an `ApprovalError`. -/
def approvalValid (lib : Primitives) (gate : HumanApprovalGate) : Option Bool :=
  match d.approvalRequirement with
  | none => some true
  | some a => match gate.verifyRequirement rt lib a with
    | .ok () => some (ApprovalBound rt re d a)
    | .error (.approval _) => some false
    | .error .timestamp => none

/-- The request precedes the whole second of the evaluation, which the verifier's clock
and the decision agree with. -/
def ChronologyValid (requestTime evaluatedAt verifierNow : Int) : Prop :=
  requestTime ≤ evaluatedAt ∧ |verifierNow - evaluatedAt| ≤ 5000000 ∧
    d.decidedAt = rt.isoformat evaluatedAt

instance decidableChronologyValid (requestTime evaluatedAt verifierNow : Int) :
    Decidable (ChronologyValid rt d requestTime evaluatedAt verifierNow) :=
  inferInstanceAs (Decidable (_ ∧ _))

/-- `requested_action.get("target")` is the target of the request, which is the
inventory's. -/
def TargetBinding (requestedTarget : PyVal) : Prop :=
  PyVal.pyEq F requestedTarget (.str re.request.action.target) = true ∧
    re.request.action.target = re.target.id

instance decidableTargetBinding (requestedTarget : PyVal) :
    Decidable (TargetBinding re requestedTarget) :=
  inferInstanceAs (Decidable (_ ∧ _))

/-- `checks`. -/
def verificationChecks (chronology resolutionValid targetMatches approval : Bool)
    (requestedTarget : PyVal) : List VerificationCheck :=
  [⟨"P3-VERIFY-REQUEST-BINDING", chronology && decide (RequestBinding rt re d),
      "Decision must bind the exact validated request."⟩,
    ⟨"P3-VERIFY-POLICY-BINDING", PolicyBinding rt re d,
      "Decision must bind the loaded policy identity and version."⟩,
    ⟨"P3-VERIFY-PRINCIPAL-BINDING", resolutionValid && decide (AuthorityRecomputed re d),
      "Decision authority must be independently recomputed from the trusted principal."⟩,
    ⟨"P3-VERIFY-TARGET-BINDING", targetMatches && decide (TargetBinding re requestedTarget),
      "Requested action and trusted target must agree."⟩,
    ⟨"P3-VERIFY-EVIDENCE-RECOMPUTATION", EvidenceRecomputed re d,
      "Evidence must match the separately recomputed assessment."⟩,
    ⟨"P3-VERIFY-CONSEQUENCE-RECOMPUTATION", ConsequenceRecomputed re d,
      "Consequence must match the separately recomputed assessment."⟩,
    ⟨"P3-VERIFY-DECISION-RECOMPUTATION", DecisionRecomputed re d,
      "Outcome, rules, command, constraints, and context digest must be recomputed."⟩,
    ⟨"P3-VERIFY-APPROVAL-ORIGIN", approval && decide (ApprovalPresence d),
      "Escalation approval must be signed, registered, and exactly decision-bound."⟩]

end Checks

/-! ## §3 The verification -/

/-- `DecisionVerification`. -/
structure SignedVerification extends DecisionVerification where
  signature : String
  deriving DecidableEq, Repr

namespace IndependentDecisionVerifier

variable [PyFloat F] (rt : Runtime) (lib : Primitives) (v : IndependentDecisionVerifier)

/-- `_sign(value)`. -/
def sign (value : Dict) : String := lib.hmacSha256 v.signingKey (canonicalJson (.obj value))

/-- `principal` once the resolution has been tried, and `resolution_valid`. -/
def resolvedPrincipal (args : VerifyArgs F) : AuthenticatedPrincipal × Bool :=
  match v.principalResolver.verifyResolution lib args.principalResolution with
  | some resolved => (resolved, resolved = args.principal)
  | none => (args.principal, false)

/-- `expected`: the decision recomputed at the whole second of the evaluation. -/
def recompute (args : VerifyArgs F) (principal : AuthenticatedPrincipal) :
    Option (DecisionRecord F) :=
  evaluateRequest rt lib args.policy v.attestationVerifier principal
    (Runtime.truncate args.evaluatedAt) args.decision.decisionId
    (some fun _ => args.decision.approvalRequirement) args.request

/-- `verify(…)`; `none` is an exception. -/
def verify (args : VerifyArgs F) (readings : VerifyReadings) : Option SignedVerification := do
  if ¬ args.request.Revalidated rt args.evaluatedAt then
    none
  else
    let (principal, resolutionValid) := v.resolvedPrincipal lib args
    let target ← args.policy.targetRecord args.request.action.target
    let requestTime ← parseTimestamp rt args.request.timestamp
    let expected ← v.recompute rt lib args principal
    let re : Recomputed F := ⟨args.request, args.policy, target, expected⟩
    let requestedTarget ← args.decision.requestedTarget
    let approval ← approvalValid rt re args.decision lib v.approvalGate
    let checks := verificationChecks rt re args.decision
      (ChronologyValid rt args.decision requestTime (Runtime.truncate args.evaluatedAt)
        readings.verifierNow)
      resolutionValid (args.target = target) approval requestedTarget
    let unsigned : DecisionVerification :=
      { verificationId := readings.verificationId
        verifierInstanceId := v.verifierInstanceId
        decisionId := args.decision.decisionId
        decisionContextSha256 := args.decision.decisionContextSha256
        decisionSha256 := args.decision.authorizationSha256 rt
        requestSha256 := args.request.requestSha256 rt
        principalId := principal.id
        principalResolutionSha256 := rt.sha256Json (.obj args.principalResolution.toDict)
        policySha256 := args.policy.sha256 rt
        passed := checks.all VerificationCheck.passed
        checks := checks
        blockingReasonCodes := (checks.filter fun c => !c.passed).map VerificationCheck.check
        verifiedAt := rt.isoformat (Runtime.truncate readings.verifiedAt) }
    return { unsigned with signature := v.sign lib unsigned.toDict }

/-- `verify` reports success. -/
def Succeeds (args : VerifyArgs F) (readings : VerifyReadings) : Prop :=
  ∃ verification, v.verify rt lib args readings = some verification ∧ verification.passed = true

/-! ## §4 What a passed verification has compared -/

/-- Every check passes against a recomputed decision. -/
structure Confirmed (args : VerifyArgs F) (readings : VerifyReadings) (requestTime : Int)
    (re : Recomputed F) : Prop where
  revalidated : args.request.Revalidated rt args.evaluatedAt
  request : re.request = args.request
  policy : re.policy = args.policy
  resolution :
    v.principalResolver.verifyResolution lib args.principalResolution = some args.principal
  trustedTarget : args.policy.targetRecord args.request.action.target = some re.target
  suppliedTarget : args.target = re.target
  timestamp : parseTimestamp rt args.request.timestamp = some requestTime
  chronology : ChronologyValid rt args.decision requestTime (Runtime.truncate args.evaluatedAt)
    readings.verifierNow
  recomputed : v.recompute rt lib args args.principal = some re.expected
  requestedTarget : ∃ t, args.decision.requestedTarget = some t ∧ TargetBinding re t
  requestBinding : RequestBinding rt re args.decision
  policyBinding : PolicyBinding rt re args.decision
  authority : AuthorityRecomputed re args.decision
  evidence : EvidenceRecomputed re args.decision
  consequence : ConsequenceRecomputed re args.decision
  decision : DecisionRecomputed re args.decision
  approvalPresence : ApprovalPresence args.decision
  approval : approvalValid rt re args.decision lib v.approvalGate = some true

variable {rt lib v} {args : VerifyArgs F} {readings : VerifyReadings}

omit [PyFloat F] in
theorem resolvedPrincipal_valid (h : (v.resolvedPrincipal lib args).2 = true) :
    v.principalResolver.verifyResolution lib args.principalResolution = some args.principal ∧
      (v.resolvedPrincipal lib args).1 = args.principal := by
  unfold resolvedPrincipal at h ⊢
  cases hresolved : v.principalResolver.verifyResolution lib args.principalResolution with
  | none => simp [hresolved] at h
  | some resolved =>
    simp only [hresolved, decide_eq_true_eq] at h
    subst h
    exact ⟨rfl, rfl⟩

omit [PyFloat F] in
theorem resolvedPrincipal_eq
    (h : v.principalResolver.verifyResolution lib args.principalResolution =
      some args.principal) :
    v.resolvedPrincipal lib args = (args.principal, true) := by
  simp [resolvedPrincipal, h]

/-- A verification succeeds exactly when every comparison does. -/
theorem succeeds_iff : v.Succeeds rt lib args readings ↔
    ∃ requestTime re, v.Confirmed rt lib args readings requestTime re := by
  constructor
  · rintro ⟨verification, hverify, hpassed⟩
    unfold verify at hverify
    split_ifs at hverify with hvalid
    simp only [Option.bind_eq_bind, Option.bind_eq_some_iff, Option.pure_def,
      Option.some.injEq] at hverify
    obtain ⟨target, htarget, requestTime, htime, expected, hexpected, requested, hrequested,
      approval, happroval, rfl⟩ := hverify
    simp only [verificationChecks, List.all_cons, List.all_nil, Bool.and_true, Bool.and_eq_true,
      decide_eq_true_eq] at hpassed
    obtain ⟨⟨hchronology, hrequest⟩, hpolicy, ⟨hresolution, hauthority⟩, ⟨hsupplied, hbinding⟩,
      hevidence, hconsequence, hdecision, happroved, hpresence⟩ := hpassed
    obtain ⟨hresolved, hprincipal⟩ := resolvedPrincipal_valid hresolution
    rw [hprincipal] at hexpected
    subst happroved
    exact ⟨requestTime, ⟨args.request, args.policy, target, expected⟩, {
      revalidated := hvalid
      request := rfl
      policy := rfl
      resolution := hresolved
      trustedTarget := htarget
      suppliedTarget := hsupplied
      timestamp := htime
      chronology := hchronology
      recomputed := hexpected
      requestedTarget := ⟨requested, hrequested, hbinding⟩
      requestBinding := hrequest
      policyBinding := hpolicy
      authority := hauthority
      evidence := hevidence
      consequence := hconsequence
      decision := hdecision
      approvalPresence := hpresence
      approval := happroval }⟩
  · rintro ⟨requestTime, ⟨request, policy, target, expected⟩, h⟩
    obtain rfl : request = args.request := h.request
    obtain rfl : policy = args.policy := h.policy
    obtain ⟨requested, hrequested, hbinding⟩ := h.requestedTarget
    unfold Succeeds verify
    rw [if_neg (not_not_intro h.revalidated), resolvedPrincipal_eq h.resolution]
    simp only [Option.bind_eq_bind, h.trustedTarget, h.timestamp, h.recomputed, hrequested,
      h.approval, Option.bind_some, Option.pure_def, Option.some.injEq, exists_eq_left']
    simp only [verificationChecks, List.all_cons, List.all_nil, Bool.and_true, Bool.and_eq_true,
      decide_eq_true_eq]
    exact ⟨⟨h.chronology, h.requestBinding⟩, h.policyBinding, ⟨trivial, h.authority⟩,
      ⟨h.suppliedTarget, hbinding⟩, h.evidence, h.consequence, h.decision, trivial,
      h.approvalPresence⟩

end IndependentDecisionVerifier

end DecisionFirewall.Phase3
