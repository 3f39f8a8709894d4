import DecisionFirewall.Phase3.Decision

/-!
# Approval Requirements

The part of `phase3/approval.py` that decisions meet: the gate issues a requirement for
an escalated decision, registers it, and later recognises it.

- §1 the gate
- §2 issuing
- §3 verifying
-/

namespace DecisionFirewall.Phase3

open StageA

variable {F : Type}

/-! ## §1 The gate -/

/-- `HumanApprovalGate`: its configuration and what it has issued. -/
structure HumanApprovalGate where
  signingKey : Bytes
  ttlSeconds : Int
  issuerInstanceId : String
  requirements : List ApprovalRequirement
  issuedDecisionIds : List String
  key : 32 ≤ signingKey.length
  ttl : 60 ≤ ttlSeconds ∧ ttlSeconds ≤ 86400

/-- What the signature of a requirement covers. -/
def ApprovalRequirement.signed (r : ApprovalRequirement) : Dict :=
  r.scope ++ [("scope_sha256", .str r.scopeSha256)]

namespace HumanApprovalGate

variable (rt : Runtime) (lib : Primitives) (gate : HumanApprovalGate)

/-- `__sign(value)`. -/
def sign (value : Dict) : String := lib.hmacSha256 gate.signingKey (canonicalJson (.obj value))

/-- `__requirements.get(approval_id)`. -/
def registered (approvalId : String) : Option ApprovalRequirement :=
  gate.requirements.find? fun r => r.approvalId = approvalId

/-! ## §2 Issuing -/

/-- The requirement that the gate issues at `now` and `expires`. -/
def requirement (now expires : Int) (approvalId : String) (args : ApprovalArgs F) :
    ApprovalRequirement :=
  let base : ApprovalRequirement :=
    { approvalId := approvalId
      issuerInstanceId := gate.issuerInstanceId
      requestId := args.decision.requestId
      decisionId := args.decision.decisionId
      decisionContextSha256 := args.decision.decisionContextSha256
      policyId := args.decision.policyId
      policyVersion := args.decision.policyVersion
      policySha256 := args.decision.policySha256
      actionType := args.actionType
      targetId := args.targetId
      parametersSha256 := rt.sha256Json (.obj args.parameters.toDict)
      evidenceSha256 := args.evidenceSha256
      reasonCodes := args.reasonCodes
      requiredApprovingAuthority := args.requiredApprovingAuthority
      createdAt := rt.isoformat now
      expiresAt := rt.isoformat expires
      scopeSha256 := ""
      signature := ""
      status := "PENDING" }
  let withScope := { base with scopeSha256 := rt.sha256Json (.obj base.scope) }
  { withScope with signature := gate.sign lib withScope.signed }

/-- `issue_requirement(…)` at a reading of the clock, under a new approval identifier;
`none` is an exception. -/
def issueRequirement (clock : Int) (approvalId : String) (args : ApprovalArgs F) :
    Option ApprovalRequirement :=
  if args.decision.outcome ≠ .escalate ∨ args.decision.permittedAction.isSome ∨
      args.decision.approvalRequirement.isSome then none
  else if args.reasonCodes = [] ∨
      args.requiredApprovingAuthority ≠ args.decision.authority.requiredAuthority ∨
      args.reasonCodes ≠ args.decision.reasonCodes then none
  else do
    let expires ← rt.addSeconds (Runtime.truncate clock) gate.ttlSeconds
    let issued := gate.requirement rt lib (Runtime.truncate clock) expires approvalId args
    if (gate.registered approvalId).isSome ∨ args.decision.decisionId ∈ gate.issuedDecisionIds then
      none
    else some issued

/-- The gate once it has issued the requirement of a decision. -/
def register (r : ApprovalRequirement) : HumanApprovalGate :=
  { gate with
    requirements := gate.requirements ++ [r]
    issuedDecisionIds := gate.issuedDecisionIds ++ [r.decisionId] }

/-! ## §3 Verifying -/

/-- `verify_requirement` raises. -/
inductive RequirementError where
  /-- `ApprovalError` -/
  | approval (reasonCode : String)
  /-- a `ValueError` of a timestamp -/
  | timestamp
  deriving DecidableEq, Repr

/-- `verify_requirement(requirement, check_time=False)`. -/
def verifyRequirement (r : ApprovalRequirement) : Except RequirementError Unit :=
  if rt.sha256Json (.obj r.scope) ≠ r.scopeSha256 then
    .error (.approval "APPROVAL_SCOPE_DIGEST_INVALID")
  else if gate.sign lib r.signed ≠ r.signature then
    .error (.approval "APPROVAL_SIGNATURE_INVALID")
  else if r.issuerInstanceId ≠ gate.issuerInstanceId then
    .error (.approval "APPROVAL_ISSUER_MISMATCH")
  else if gate.registered r.approvalId ≠ some r then
    .error (.approval "APPROVAL_NOT_REGISTERED")
  else if r.status ≠ "PENDING" ∨ r.reasonCodes = [] then
    .error (.approval "APPROVAL_STATUS_INVALID")
  else match rt.fromisoformat r.createdAt, rt.fromisoformat r.expiresAt with
    | some created, some expires =>
      if expires ≤ created then .error (.approval "APPROVAL_TIME_INVALID") else .ok ()
    | _, _ => .error .timestamp

variable {rt lib gate}

theorem registered_register {r : ApprovalRequirement}
    (hnew : (gate.registered r.approvalId).isSome = false) :
    (gate.register r).registered r.approvalId = some r := by
  have hnone : gate.requirements.find? (fun q => q.approvalId = r.approvalId) = none :=
    Option.isSome_eq_false_iff.mp hnew |> Option.isNone_iff_eq_none.mp
  simp only [registered, register, List.find?_append, hnone, Option.none_or]
  simp

/-- What a requirement has passed that verifies. -/
theorem verifyRequirement_eq_ok {r : ApprovalRequirement} {created expires : Int}
    (hscope : rt.sha256Json (.obj r.scope) = r.scopeSha256)
    (hsignature : gate.sign lib r.signed = r.signature)
    (hissuer : r.issuerInstanceId = gate.issuerInstanceId)
    (hregistered : gate.registered r.approvalId = some r)
    (hstatus : r.status = "PENDING" ∧ r.reasonCodes ≠ [])
    (hcreated : rt.fromisoformat r.createdAt = some created)
    (hexpires : rt.fromisoformat r.expiresAt = some expires) (hlt : created < expires) :
    gate.verifyRequirement rt lib r = .ok () := by
  unfold verifyRequirement
  rw [if_neg (not_not_intro hscope), if_neg (not_not_intro hsignature),
    if_neg (not_not_intro hissuer), if_neg (not_not_intro hregistered), if_neg, hcreated, hexpires]
  · exact if_neg (not_le.mpr hlt)
  · exact fun h => h.elim (fun hne => hne hstatus.1) hstatus.2

/-- What the gate issues, and when. -/
theorem issueRequirement_eq_some {clock : Int} {approvalId : String} {args : ApprovalArgs F}
    {r : ApprovalRequirement} (h : gate.issueRequirement rt lib clock approvalId args = some r) :
    ∃ expires, rt.addSeconds (Runtime.truncate clock) gate.ttlSeconds = some expires ∧
      r = gate.requirement rt lib (Runtime.truncate clock) expires approvalId args ∧
      args.reasonCodes ≠ [] ∧ (gate.registered approvalId).isSome = false := by
  unfold issueRequirement at h
  split_ifs at h with houtcome hscope hcollision
  · simp at h
  obtain ⟨expires, hexpires, h⟩ := Option.bind_eq_some_iff.mp h
  simp only [not_or, Bool.not_eq_true] at hcollision hscope
  exact ⟨expires, hexpires, (Option.some.inj h).symm, hscope.1, hcollision.1⟩

/-- The gate recognises what it issued and registered. -/
theorem verifyRequirement_register {clock : Int} {approvalId : String} {args : ApprovalArgs F}
    {r : ApprovalRequirement} (hclock : rt.IsDatetime clock)
    (h : gate.issueRequirement rt lib clock approvalId args = some r) :
    (gate.register r).verifyRequirement rt lib r = .ok () := by
  obtain ⟨expires, hexpires, rfl, hreasons, hnew⟩ := issueRequirement_eq_some h
  -- the interval is nonempty, and both of its ends read back
  unfold Runtime.addSeconds at hexpires
  split_ifs at hexpires with hdatetime
  cases hexpires
  have hpositive := gate.ttl.1
  exact verifyRequirement_eq_ok rfl rfl rfl (registered_register hnew) ⟨rfl, hreasons⟩
    hclock.truncate.2.2 hdatetime.2.2 (by omega)

end HumanApprovalGate

end DecisionFirewall.Phase3
