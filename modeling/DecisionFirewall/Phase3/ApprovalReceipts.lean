import DecisionFirewall.Phase3.Approval
import DecisionFirewall.Phase3.Identity

/-!
# Approval Receipts

`HumanApprovalGate.approve` of `phase3/approval.py` and `approve_for_reevaluation` of the
engine: a human approval becomes one `APPROVAL_RECORDED` row of the audit, and the receipt
that is made for it waits until the row is there.

- §1 receipts and audit rows
- §2 the review of an approval
- §3 committing the receipt
- §4 runs
- §5 one call
- §6 all calls
-/

namespace DecisionFirewall.Phase3

open StageA (DecisionOutcome)

/-! ## §1 Receipts and audit rows -/

/-- `ApprovalReceipt`. -/
structure ApprovalReceipt where
  receiptId : String
  issuerInstanceId : String
  approvalId : String
  requestId : String
  decisionId : String
  approverId : String
  approvingAuthority : String
  actionType : String
  targetId : String
  parametersSha256 : String
  evidenceSha256 : String
  requirementScopeSha256 : String
  approvedAt : String
  signature : String
  status : String
  deriving DecidableEq, Repr

/-- What the signature of a receipt covers. -/
def ApprovalReceipt.base (r : ApprovalReceipt) : Dict :=
  [("receipt_id", .str r.receiptId),
    ("issuer_instance_id", .str r.issuerInstanceId),
    ("approval_id", .str r.approvalId),
    ("request_id", .str r.requestId),
    ("decision_id", .str r.decisionId),
    ("approver_id", .str r.approverId),
    ("approving_authority", .str r.approvingAuthority),
    ("action_type", .str r.actionType),
    ("target_id", .str r.targetId),
    ("parameters_sha256", .str r.parametersSha256),
    ("evidence_sha256", .str r.evidenceSha256),
    ("requirement_scope_sha256", .str r.requirementScopeSha256),
    ("approved_at", .str r.approvedAt),
    ("status", .str r.status)]

/-- `expected_full_payload`. -/
def receiptPayload (intakeId requestId decisionId approvalId : String) (r : ApprovalReceipt) :
    Dict :=
  [("intake_id", .str intakeId),
    ("request_id", .str requestId),
    ("decision_id", .str decisionId),
    ("approval_id", .str approvalId),
    ("receipt_id", .str r.receiptId),
    ("issuer_instance_id", .str r.issuerInstanceId),
    ("approver_id", .str r.approverId),
    ("approving_authority", .str r.approvingAuthority),
    ("action_type", .str r.actionType),
    ("target_id", .str r.targetId),
    ("parameters_sha256", .str r.parametersSha256),
    ("evidence_sha256", .str r.evidenceSha256),
    ("requirement_scope_sha256", .str r.requirementScopeSha256),
    ("status", .str r.status),
    ("approved_at", .str r.approvedAt),
    ("reevaluation_required", .bool true),
    ("authorization_produced", .bool false)]

/-- A row of the audit, as far as approvals read it. -/
structure AuditEntry where
  recordType : String
  payload : Dict
  deriving Repr

/-- The member is this text. -/
def AuditEntry.names (row : AuditEntry) (member text : String) : Bool :=
  match row.payload.lookup member with
  | some (.str s) => s = text
  | _ => false

/-- The row is an `APPROVAL_RECORDED` row of the approval. -/
def AuditEntry.recordsApproval (approvalId : String) (row : AuditEntry) : Bool :=
  row.recordType = "APPROVAL_RECORDED" && row.names "approval_id" approvalId

/-! ## §2 The review of an approval -/

/-- What leaves `approve_for_reevaluation` by exception. -/
inductive ApproveError where
  /-- `ApprovalError` -/
  | approval (reasonCode : String)
  | other
  deriving DecidableEq, Repr

/-- `if not p: raise ApprovalError(reason)`. -/
def requireApproval (p : Prop) [Decidable p] (reason : String) : Except ApproveError Unit :=
  if p then .ok () else .error (.approval reason)

/-- The gate with the approvals that are used and the receipts that wait for their row. -/
structure ReceiptGate extends HumanApprovalGate where
  used : List String
  pendingReceipts : List (String × ApprovalReceipt)

/-- The arguments of `approve_for_reevaluation`. -/
structure ApproveArgs where
  requirement : ApprovalRequirement
  credential : Bytes
  actionType : String
  targetId : String
  parameters : Json
  evidenceSha256 : String

/-- How the append of the row ends: it returns, it raises after the row is visible, or it
raises without a row. -/
inductive AppendOutcome where
  | recorded
  | visible
  | absent
  deriving DecidableEq, Repr

/-- What a call meets: the clock, the identifiers that are allocated, whether the audit can
be read under the lock and again for the commit, the append, and whether the lock is
released without an exception. -/
structure ApproveAnswers (rt : Runtime) where
  now : {t : Int // rt.IsDatetime t}
  resolutionId : String
  receiptId : String
  auditReads : Bool
  commitReads : Bool
  append : AppendOutcome
  releases : Bool

section Review

variable (rt : Runtime) (lib : Primitives) (sha256 : Bytes → String)
  (resolver : TrustedPrincipalResolver) (gate : ReceiptGate)

/-- `verify_requirement(requirement, evaluated_at=now)`. -/
def verifyRequirementAt (now : Int) (r : ApprovalRequirement) : Except ApproveError Unit :=
  match gate.verifyRequirement rt lib r with
  | .error (.approval reason) => .error (.approval reason)
  | .error .timestamp => .error .other
  | .ok () =>
    match rt.fromisoformat r.createdAt, rt.fromisoformat r.expiresAt with
    | some created, some expires => do
      requireApproval (created ≤ now) "APPROVAL_NOT_YET_VALID"
      requireApproval (now < expires) "APPROVAL_EXPIRED"
    | _, _ => .error .other

/-- The principal of the credential. -/
def resolveApprover (resolutionId : String) (credential : Bytes) :
    Except ApproveError AuthenticatedPrincipal :=
  match resolver.resolve lib sha256 resolutionId credential with
  | .error _ => .error (.approval "APPROVER_CREDENTIAL_REJECTED")
  | .ok resolution =>
    match resolver.verifyResolution lib resolution with
    | none => .error (.approval "APPROVER_CREDENTIAL_REJECTED")
    | some approver => .ok approver

/-- The checks on the approver. -/
def checkApprover (r : ApprovalRequirement) (approver : AuthenticatedPrincipal) :
    Except ApproveError Unit := do
  requireApproval (approver.authenticated = true ∧ approver.securityStatus = .trusted)
    "APPROVER_NOT_AUTHENTICATED"
  requireApproval (approver.humanSession = true ∧
    (approver.type = "HUMAN_ANALYST" ∨ approver.type = "HUMAN_OPERATOR") ∧
      "HUMAN_APPROVER" ∈ approver.roles) "APPROVER_NOT_HUMAN"
  requireApproval (r.requiredApprovingAuthority ∈ approver.authority)
    "APPROVER_AUTHORITY_INSUFFICIENT"

/-- The bindings of the reviewed scope. -/
def checkScope (args : ApproveArgs) (parameters : Dict) : Except ApproveError Unit := do
  requireApproval (args.requirement.actionType = args.actionType) "APPROVAL_ACTION_MISMATCH"
  requireApproval (args.requirement.targetId = args.targetId) "APPROVAL_TARGET_MISMATCH"
  requireApproval (args.requirement.parametersSha256 = rt.sha256Json (.obj parameters))
    "APPROVAL_PARAMETERS_MISMATCH"
  requireApproval (args.requirement.evidenceSha256 = args.evidenceSha256)
    "APPROVAL_EVIDENCE_MISMATCH"

/-- The receipt that the gate makes. -/
def newReceipt (args : ApproveArgs) (approverId receiptId : String) (now : Int) :
    ApprovalReceipt :=
  let unsigned : ApprovalReceipt :=
    { receiptId := receiptId
      issuerInstanceId := gate.issuerInstanceId
      approvalId := args.requirement.approvalId
      requestId := args.requirement.requestId
      decisionId := args.requirement.decisionId
      approverId := approverId
      approvingAuthority := args.requirement.requiredApprovingAuthority
      actionType := args.actionType
      targetId := args.targetId
      parametersSha256 := args.requirement.parametersSha256
      evidenceSha256 := args.evidenceSha256
      requirementScopeSha256 := args.requirement.scopeSha256
      approvedAt := rt.isoformat now
      signature := ""
      status := "APPROVED_FOR_REEVALUATION" }
  { unsigned with signature := gate.sign lib unsigned.base }

/-- The pending receipt has the bindings that are under review. -/
def ApprovalReceipt.Reviewed (receipt : ApprovalReceipt) (args : ApproveArgs)
    (approverId : String) : Prop :=
  receipt.approverId = approverId ∧
    receipt.approvingAuthority = args.requirement.requiredApprovingAuthority ∧
    receipt.actionType = args.actionType ∧ receipt.targetId = args.targetId ∧
    receipt.parametersSha256 = args.requirement.parametersSha256 ∧
    receipt.evidenceSha256 = args.evidenceSha256 ∧
    receipt.requirementScopeSha256 = args.requirement.scopeSha256

instance (receipt : ApprovalReceipt) (args : ApproveArgs) (approverId : String) :
    Decidable (receipt.Reviewed args approverId) :=
  inferInstanceAs (Decidable (_ ∧ _ ∧ _ ∧ _ ∧ _ ∧ _ ∧ _))

/-- The receipt under the lock of the gate: the pending one, or a new one. -/
def lockedReceipt (args : ApproveArgs) (approverId receiptId : String) (now : Int) :
    Except ApproveError ApprovalReceipt := do
  requireApproval (args.requirement.approvalId ∉ gate.used) "APPROVAL_REPLAY"
  requireApproval (gate.registered args.requirement.approvalId = some args.requirement)
    "APPROVAL_NOT_REGISTERED"
  match gate.pendingReceipts.lookup args.requirement.approvalId with
  | none => do
    requireApproval (receiptId ≠ "") "APPROVAL_RECEIPT_ID_INVALID"
    pure (newReceipt rt lib gate args approverId receiptId now)
  | some receipt => do
    requireApproval (receipt.Reviewed args approverId) "APPROVAL_PENDING_CONFLICT"
    pure receipt

/-- `normalized_parameters`; a JSON object is its own exact copy. -/
def normalizeParameters : Json → Except ApproveError Dict
  | .obj parameters => .ok parameters
  | _ => .error (.approval "APPROVAL_SCOPE_TYPE_INVALID")

/-- `approve(...)` up to the commit: the receipt that is to be committed. -/
def review (args : ApproveArgs) (answers : ApproveAnswers rt) :
    Except ApproveError ApprovalReceipt := do
  requireApproval (args.actionType ≠ "" ∧ args.targetId ≠ "" ∧ args.evidenceSha256 ≠ "")
    "APPROVAL_SCOPE_TYPE_INVALID"
  let parameters ← normalizeParameters args.parameters
  let now := Runtime.truncate answers.now.1
  verifyRequirementAt rt lib gate now args.requirement
  let approver ← resolveApprover lib sha256 resolver answers.resolutionId args.credential
  checkApprover args.requirement approver
  checkScope rt args parameters
  lockedReceipt rt lib gate args approver.id answers.receiptId now

end Review

/-! ## §3 Committing the receipt -/

/-- The firewall as far as approvals change it. -/
structure ApprovalState where
  gate : ReceiptGate
  rows : List AuditEntry

/-- How a call ends. -/
structure ApproveOutcome where
  result : Except ApproveError ApprovalReceipt
  state : ApprovalState

section Commit

variable (rt : Runtime) (lib : Primitives) (sha256 : Bytes → String)
  (resolver : TrustedPrincipalResolver) (str : Json → String)

/-- `str(value)`, where `str` writes the values that are no texts. -/
def strOf : Json → String
  | .str s => s
  | v => str v

/-- `intake_id`, from the last row of the decision; `none` is a `KeyError`. -/
def intakeId (rows : List AuditEntry) (r : ApprovalRequirement) : Option String :=
  match (rows.filter fun row => row.names "decision_id" r.decisionId).getLast? with
  | none => some ("approval-" ++ r.requestId)
  | some row => (row.payload.lookup "intake_id").map (strOf str)

/-- The payload of the row that the receipt needs. -/
def expectedPayload (intake : String) (r : ApprovalRequirement) (receipt : ApprovalReceipt) :
    Dict :=
  receiptPayload intake r.requestId r.decisionId r.approvalId receipt

/-- `commit_receipt(receipt)`: an exception or not, and the rows that it leaves. -/
def commitReceipt (rows : List AuditEntry) (intake : String) (r : ApprovalRequirement)
    (receipt : ApprovalReceipt) (answers : ApproveAnswers rt) :
    Except ApproveError Unit × List AuditEntry :=
  let expected := expectedPayload intake r receipt
  if answers.commitReads = false then (.error .other, rows)
  else match rows.filter (AuditEntry.recordsApproval r.approvalId) with
    | [] =>
      match answers.append with
      | .recorded => (.ok (), rows ++ [⟨"APPROVAL_RECORDED", expected⟩])
      | .visible => (.error .other, rows ++ [⟨"APPROVAL_RECORDED", expected⟩])
      | .absent => (.error .other, rows)
    | [row] =>
      if canonicalJson (.obj row.payload) = canonicalJson (.obj expected) then (.ok (), rows)
      else (.error (.approval "APPROVAL_AUDIT_CONFLICT"), rows)
    | _ :: _ :: _ => (.error (.approval "APPROVAL_AUDIT_CONFLICT"), rows)

/-- `setdefault(approval_id, receipt)`. -/
def ReceiptGate.hold (gate : ReceiptGate) (approvalId : String) (receipt : ApprovalReceipt) :
    ReceiptGate :=
  { gate with pendingReceipts :=
      match gate.pendingReceipts.lookup approvalId with
      | some _ => gate.pendingReceipts
      | none => (approvalId, receipt) :: gate.pendingReceipts }

/-- The receipt is committed. -/
def ReceiptGate.spend (gate : ReceiptGate) (approvalId : String) : ReceiptGate :=
  { gate with
    used := approvalId :: gate.used
    pendingReceipts := gate.pendingReceipts.filter fun p => p.1 ≠ approvalId }

/-- `approve(...)` with the commit of the engine. -/
def approve (args : ApproveArgs) (answers : ApproveAnswers rt) (intake : String)
    (s : ApprovalState) : ApproveOutcome :=
  match review rt lib sha256 resolver s.gate args answers with
  | .error e => ⟨.error e, s⟩
  | .ok receipt =>
    let held := s.gate.hold args.requirement.approvalId receipt
    match commitReceipt rt s.rows intake args.requirement receipt answers with
    | (.error e, rows) => ⟨.error e, ⟨held, rows⟩⟩
    | (.ok (), rows) => ⟨.ok receipt, ⟨held.spend args.requirement.approvalId, rows⟩⟩

/-- `approve_for_reevaluation(...)`. -/
def approveForReevaluation (args : ApproveArgs) (answers : ApproveAnswers rt)
    (s : ApprovalState) : ApproveOutcome :=
  if answers.auditReads = false then ⟨.error .other, s⟩
  else match intakeId str s.rows args.requirement with
    | none => ⟨.error .other, s⟩
    | some intake =>
      let outcome := approve rt lib sha256 resolver args answers intake s
      if answers.releases then outcome else ⟨.error .other, outcome.state⟩

end Commit

/-! ## §4 Runs -/

/-- What happens to the approvals of a firewall: a call, a new requirement, a row that
another operation appends, or a restart, after which the gate has issued nothing. -/
inductive ApprovalEvent (rt : Runtime) (F : Type) where
  | approve (args : ApproveArgs) (answers : ApproveAnswers rt)
  | issue (clock : {t : Int // rt.IsDatetime t}) (approvalId : String) (args : ApprovalArgs F)
  | record (row : AuditEntry) (otherType : row.recordType ≠ "APPROVAL_RECORDED")
      (intake : (row.payload.lookup "intake_id").isSome = true)
  | restart (gate : HumanApprovalGate)

/-- A gate that has issued nothing. -/
def freshGate (gate : HumanApprovalGate) : ReceiptGate where
  toHumanApprovalGate := { gate with requirements := [], issuedDecisionIds := [] }
  used := []
  pendingReceipts := []

/-- The receipt that a call returns. -/
def ApproveOutcome.returned (outcome : ApproveOutcome) : List ApprovalReceipt :=
  match outcome.result with
  | .ok receipt => [receipt]
  | .error _ => []

section Runs

variable (rt : Runtime) (lib : Primitives) (sha256 : Bytes → String)
  (resolver : TrustedPrincipalResolver) (str : Json → String) {F : Type}

/-- One event: the state after it and the receipt that it returns. -/
def ApprovalState.step (s : ApprovalState) :
    ApprovalEvent rt F → ApprovalState × List ApprovalReceipt
  | .approve args answers =>
    let outcome := approveForReevaluation rt lib sha256 resolver str args answers s
    (outcome.state, outcome.returned)
  | .issue clock approvalId args =>
    match s.gate.issueRequirement rt lib clock.1 approvalId args with
    | none => (s, [])
    | some r =>
      ({ s with gate := { s.gate with toHumanApprovalGate := s.gate.register r } }, [])
  | .record row _ _ => ({ s with rows := s.rows ++ [row] }, [])
  | .restart gate => ({ s with gate := freshGate gate }, [])

end Runs

/-! ## §5 One call -/

section Calls

variable {rt : Runtime} {lib : Primitives} {sha256 : Bytes → String}
  {resolver : TrustedPrincipalResolver} {str : Json → String}

/-- The audit has the row of the receipt. -/
def Audited (rows : List AuditEntry) (r : ApprovalReceipt) : Prop :=
  ∃ row ∈ rows, row.recordType = "APPROVAL_RECORDED" ∧
    ∃ intake, canonicalJson (.obj row.payload) =
      canonicalJson (.obj (receiptPayload intake r.requestId r.decisionId r.approvalId r))

theorem Audited.append {rows more : List AuditEntry} {r : ApprovalReceipt}
    (h : Audited rows r) : Audited (rows ++ more) r := by
  obtain ⟨row, hrow, hspec⟩ := h
  exact ⟨row, List.mem_append_left _ hrow, hspec⟩

theorem requireApproval_bind_eq_ok {α : Type} {p : Prop} [Decidable p] {reason : String}
    {next : Except ApproveError α} {x : α} :
    (requireApproval p reason >>= fun _ => next) = .ok x ↔ p ∧ next = .ok x := by
  unfold requireApproval
  by_cases hp : p
  · rw [if_pos hp]
    exact ⟨fun h => ⟨hp, h⟩, fun h => h.2⟩
  · rw [if_neg hp]
    exact ⟨fun h => (by cases h), fun h => absurd h.1 hp⟩

theorem except_bind_eq_ok {α β : Type} {x : Except ApproveError α} {next : α → Except ApproveError β}
    {y : β} : (x >>= next) = .ok y ↔ ∃ a, x = .ok a ∧ next a = .ok y := by
  cases x with
  | error e => exact ⟨fun h => (by cases h), fun ⟨_, h, _⟩ => (by cases h)⟩
  | ok a =>
    refine ⟨fun h => ⟨a, rfl, h⟩, fun ⟨_, h, h'⟩ => ?_⟩
    cases h
    exact h'

/-- A receipt under review is the pending one of a registered requirement, or it names that
requirement. -/
theorem review_eq_ok {gate : ReceiptGate} {args : ApproveArgs} {answers : ApproveAnswers rt}
    {receipt : ApprovalReceipt} (h : review rt lib sha256 resolver gate args answers = .ok receipt) :
    gate.registered args.requirement.approvalId = some args.requirement ∧
      (gate.pendingReceipts.lookup args.requirement.approvalId = some receipt ∨
        gate.pendingReceipts.lookup args.requirement.approvalId = none ∧
          receipt.approvalId = args.requirement.approvalId ∧
          receipt.requestId = args.requirement.requestId ∧
          receipt.decisionId = args.requirement.decisionId) := by
  unfold review at h
  obtain ⟨-, h⟩ := requireApproval_bind_eq_ok.mp h
  obtain ⟨parameters, -, h⟩ := except_bind_eq_ok.mp h
  obtain ⟨_, -, h⟩ := except_bind_eq_ok.mp h
  obtain ⟨approver, -, h⟩ := except_bind_eq_ok.mp h
  obtain ⟨_, -, h⟩ := except_bind_eq_ok.mp h
  obtain ⟨_, -, h⟩ := except_bind_eq_ok.mp h
  unfold lockedReceipt at h
  obtain ⟨-, h⟩ := requireApproval_bind_eq_ok.mp h
  obtain ⟨hregistered, h⟩ := requireApproval_bind_eq_ok.mp h
  refine ⟨hregistered, ?_⟩
  cases hpending : gate.pendingReceipts.lookup args.requirement.approvalId with
  | none =>
    rw [hpending] at h
    obtain ⟨-, h⟩ := requireApproval_bind_eq_ok.mp h
    cases h
    exact .inr ⟨rfl, rfl, rfl, rfl⟩
  | some pending =>
    rw [hpending] at h
    obtain ⟨-, h⟩ := requireApproval_bind_eq_ok.mp h
    cases h
    exact .inl rfl

/-- The commit appends the row of the receipt only where the approval has none, and it
returns only where the row is there. -/
theorem commitReceipt_spec (rows : List AuditEntry) (intake : String) (r : ApprovalRequirement)
    (receipt : ApprovalReceipt) (answers : ApproveAnswers rt) :
    ((commitReceipt rt rows intake r receipt answers).2 = rows ∨
      rows.filter (AuditEntry.recordsApproval r.approvalId) = [] ∧
        (commitReceipt rt rows intake r receipt answers).2 =
          rows ++ [⟨"APPROVAL_RECORDED", expectedPayload intake r receipt⟩]) ∧
      ((commitReceipt rt rows intake r receipt answers).1 = .ok () →
        ∃ row ∈ (commitReceipt rt rows intake r receipt answers).2,
          row.recordType = "APPROVAL_RECORDED" ∧ canonicalJson (.obj row.payload) =
            canonicalJson (.obj (expectedPayload intake r receipt))) := by
  unfold commitReceipt
  by_cases hreads : answers.commitReads = false
  · simp [hreads]
  · simp only [hreads]
    cases hrows : rows.filter (AuditEntry.recordsApproval r.approvalId) with
    | nil =>
      cases answers.append with
      | recorded =>
        exact ⟨.inr ⟨rfl, rfl⟩, fun _ => ⟨⟨"APPROVAL_RECORDED", expectedPayload intake r receipt⟩,
          List.mem_append_right _ (List.mem_singleton_self _), rfl, rfl⟩⟩
      | visible => exact ⟨.inr ⟨rfl, rfl⟩, fun h => by cases h⟩
      | absent => exact ⟨.inl rfl, fun h => by cases h⟩
    | cons row rest =>
      cases rest with
      | nil =>
        dsimp only
        have hrow : row ∈ rows.filter (AuditEntry.recordsApproval r.approvalId) := by
          rw [hrows]
          exact List.mem_singleton_self row
        have htype : row.recordType = "APPROVAL_RECORDED" := by
          have hrecords := (List.mem_filter.mp hrow).2
          simp only [AuditEntry.recordsApproval, Bool.and_eq_true, decide_eq_true_eq] at hrecords
          exact hrecords.1
        by_cases heq : canonicalJson (.obj row.payload) =
            canonicalJson (.obj (expectedPayload intake r receipt))
        · rw [if_pos heq]
          exact ⟨.inl rfl, fun _ => ⟨row, (List.mem_filter.mp hrow).1, htype, heq⟩⟩
        · rw [if_neg heq]
          exact ⟨.inl rfl, fun h => by cases h⟩
      | cons row' rest => exact ⟨.inl rfl, fun h => by cases h⟩

/-- The receipt of a review names the registered requirement, if the pending receipts do. -/
def PendingNamed (gate : ReceiptGate) : Prop :=
  ∀ p ∈ gate.pendingReceipts, ∃ r, gate.registered p.1 = some r ∧ p.2.approvalId = p.1 ∧
    p.2.requestId = r.requestId ∧ p.2.decisionId = r.decisionId

theorem review_named {gate : ReceiptGate} {args : ApproveArgs} {answers : ApproveAnswers rt}
    {receipt : ApprovalReceipt} (hpending : PendingNamed gate)
    (h : review rt lib sha256 resolver gate args answers = .ok receipt) :
    gate.registered args.requirement.approvalId = some args.requirement ∧
      receipt.approvalId = args.requirement.approvalId ∧
      receipt.requestId = args.requirement.requestId ∧
      receipt.decisionId = args.requirement.decisionId := by
  obtain ⟨hregistered, hreceipt⟩ := review_eq_ok h
  refine ⟨hregistered, ?_⟩
  rcases hreceipt with hlookup | ⟨-, hnew⟩
  · obtain ⟨l₁, l₂, hentries, -⟩ := List.lookup_eq_some_iff.mp hlookup
    obtain ⟨r, hr, hid, hrequest, hdecision⟩ :=
      hpending (args.requirement.approvalId, receipt) (by rw [hentries]; simp)
    rw [hregistered] at hr
    cases hr
    exact ⟨hid, hrequest, hdecision⟩
  · exact hnew

/-- Holding a receipt for a registered requirement keeps the pending receipts named. -/
theorem pendingNamed_hold {gate : ReceiptGate} {r : ApprovalRequirement} {receipt : ApprovalReceipt}
    (hpending : PendingNamed gate) (hregistered : gate.registered r.approvalId = some r)
    (hreceipt : receipt.approvalId = r.approvalId ∧ receipt.requestId = r.requestId ∧
      receipt.decisionId = r.decisionId) : PendingNamed (gate.hold r.approvalId receipt) := by
  intro p hp
  unfold ReceiptGate.hold at hp
  cases hlookup : gate.pendingReceipts.lookup r.approvalId with
  | some pending =>
    rw [hlookup] at hp
    exact hpending p hp
  | none =>
    rw [hlookup] at hp
    rcases List.mem_cons.mp hp with rfl | hp
    · exact ⟨r, hregistered, hreceipt⟩
    · exact hpending p hp

theorem pendingNamed_spend {gate : ReceiptGate} (hpending : PendingNamed gate)
    (approvalId : String) : PendingNamed (gate.spend approvalId) :=
  fun p hp => hpending p (List.mem_filter.mp hp).1

/-- A requirement that is issued later does not change the registered ones. -/
theorem pendingNamed_register {gate : ReceiptGate} (hpending : PendingNamed gate)
    (r : ApprovalRequirement) :
    PendingNamed { gate with toHumanApprovalGate := gate.register r } := by
  intro p hp
  obtain ⟨q, hq, hspec⟩ := hpending p hp
  refine ⟨q, ?_, hspec⟩
  simp only [HumanApprovalGate.registered] at hq
  simp [HumanApprovalGate.registered, HumanApprovalGate.register, List.find?_append, hq]

/-! ## §6 All calls -/

/-- The rows of an approval. -/
def approvalRows (rows : List AuditEntry) (approvalId : String) : List AuditEntry :=
  rows.filter (AuditEntry.recordsApproval approvalId)

/-- The times of a registered requirement read back. -/
def TimesRead (rt : Runtime) (gate : ReceiptGate) : Prop :=
  ∀ r ∈ gate.requirements, (rt.fromisoformat r.createdAt).isSome = true ∧
    (rt.fromisoformat r.expiresAt).isSome = true

/-- What every run keeps: one row for an approval at most, a row for every receipt that was
returned, pending receipts of registered requirements, rows with an intake, and
requirements whose times read back. -/
structure SingleUse (rt : Runtime) (s : ApprovalState) (returned : List ApprovalReceipt) :
    Prop where
  single : ∀ approvalId, (approvalRows s.rows approvalId).length ≤ 1
  audited : ∀ r ∈ returned, Audited s.rows r
  pending : PendingNamed s.gate
  intakes : ∀ row ∈ s.rows, (row.payload.lookup "intake_id").isSome = true
  times : TimesRead rt s.gate

@[simp] theorem names_receiptPayload {recordType intake requestId decisionId approvalId text : String}
    {receipt : ApprovalReceipt} :
    AuditEntry.names ⟨recordType, receiptPayload intake requestId decisionId approvalId receipt⟩
      "approval_id" text = decide (approvalId = text) := rfl

/-- The row that a commit appends is the only one of its approval. -/
theorem single_append {rows : List AuditEntry} {intake : String} {r : ApprovalRequirement}
    {receipt : ApprovalReceipt} (hsingle : ∀ approvalId, (approvalRows rows approvalId).length ≤ 1)
    (hnone : approvalRows rows r.approvalId = []) (approvalId : String) :
    (approvalRows (rows ++ [⟨"APPROVAL_RECORDED", expectedPayload intake r receipt⟩])
      approvalId).length ≤ 1 := by
  unfold approvalRows at hnone hsingle ⊢
  rw [List.filter_append, List.length_append]
  by_cases hid : r.approvalId = approvalId
  · subst hid
    rw [hnone]
    exact (Nat.zero_add _).trans_le (List.length_filter_le _ _)
  · have hother : [(⟨"APPROVAL_RECORDED", expectedPayload intake r receipt⟩ : AuditEntry)].filter
        (AuditEntry.recordsApproval approvalId) = [] := by
      simp [AuditEntry.recordsApproval, expectedPayload, hid]
    rw [hother]
    exact hsingle approvalId

/-- A call of `approve` keeps the invariant, and its receipt is in the audit. -/
theorem approve_singleUse {args : ApproveArgs} {answers : ApproveAnswers rt} {intake : String}
    {s : ApprovalState} {returned : List ApprovalReceipt} (h : SingleUse rt s returned) :
    SingleUse rt (approve rt lib sha256 resolver args answers intake s).state
      (returned ++ (approve rt lib sha256 resolver args answers intake s).returned) := by
  unfold approve
  cases hreview : review rt lib sha256 resolver s.gate args answers with
  | error e => simpa [ApproveOutcome.returned] using h
  | ok receipt =>
    obtain ⟨hregistered, hnamed⟩ := review_named h.pending hreview
    have hheld := pendingNamed_hold h.pending hregistered hnamed
    obtain ⟨hrows, hcommitted⟩ := commitReceipt_spec s.rows intake args.requirement receipt answers
    dsimp only
    generalize commitReceipt rt s.rows intake args.requirement receipt answers = commit
      at hrows hcommitted ⊢
    obtain ⟨result, rows⟩ := commit
    -- the rows are the ones before, or they have the row of the receipt in addition
    have hsingle : ∀ approvalId, (approvalRows rows approvalId).length ≤ 1 := by
      rcases hrows with rfl | ⟨hnone, rfl⟩
      · exact h.single
      · exact single_append h.single hnone
    have hkept : ∀ r ∈ returned, Audited rows r := by
      intro r hr
      rcases hrows with rfl | ⟨-, rfl⟩
      · exact h.audited r hr
      · exact (h.audited r hr).append
    have hintakes : ∀ row ∈ rows, (row.payload.lookup "intake_id").isSome = true := by
      intro row hrow
      rcases hrows with rfl | ⟨-, rfl⟩
      · exact h.intakes row hrow
      · rcases List.mem_append.mp hrow with hrow | hrow
        · exact h.intakes row hrow
        · rw [List.mem_singleton.mp hrow]
          rfl
    cases result with
    | error e =>
      exact ⟨hsingle, by simpa [ApproveOutcome.returned] using hkept, hheld, hintakes, h.times⟩
    | ok _ =>
      obtain ⟨row, hrow, htype, hpayload⟩ := hcommitted rfl
      refine ⟨hsingle, ?_, pendingNamed_spend hheld _, hintakes, h.times⟩
      intro r hr
      rcases List.mem_append.mp hr with hr | hr
      · exact hkept r hr
      · rw [List.mem_singleton.mp hr]
        refine ⟨row, hrow, htype, intake, ?_⟩
        rw [hpayload, expectedPayload, hnamed.1, hnamed.2.1, hnamed.2.2]

theorem approveForReevaluation_singleUse {args : ApproveArgs} {answers : ApproveAnswers rt}
    {s : ApprovalState} {returned : List ApprovalReceipt} (h : SingleUse rt s returned) :
    SingleUse rt (approveForReevaluation rt lib sha256 resolver str args answers s).state
      (returned ++ (approveForReevaluation rt lib sha256 resolver str args answers s).returned) := by
  unfold approveForReevaluation
  by_cases hreads : answers.auditReads = false
  · rw [if_pos hreads]
    simpa [ApproveOutcome.returned] using h
  rw [if_neg hreads]
  cases intakeId str s.rows args.requirement with
  | none => simpa [ApproveOutcome.returned] using h
  | some intake =>
    have hcall : SingleUse rt (approve rt lib sha256 resolver args answers intake s).state
        (returned ++ (approve rt lib sha256 resolver args answers intake s).returned) :=
      approve_singleUse h
    dsimp only
    by_cases hreleases : answers.releases = true
    · rw [if_pos hreleases]
      exact hcall
    · -- the receipt is not returned, but its row stays
      rw [if_neg hreleases]
      exact ⟨hcall.single, fun r hr => hcall.audited r (List.mem_append_left _
        (by simpa [ApproveOutcome.returned] using hr)), hcall.pending, hcall.intakes, hcall.times⟩

/-- A requirement that the gate issues has times that read back. -/
theorem times_of_issued {gate : HumanApprovalGate} {clock : {t : Int // rt.IsDatetime t}}
    {approvalId : String} {F : Type} {args : ApprovalArgs F} {r : ApprovalRequirement}
    (h : gate.issueRequirement rt lib clock.1 approvalId args = some r) :
    (rt.fromisoformat r.createdAt).isSome = true ∧ (rt.fromisoformat r.expiresAt).isSome = true := by
  obtain ⟨expires, hexpires, rfl, -, -⟩ := HumanApprovalGate.issueRequirement_eq_some h
  unfold Runtime.addSeconds at hexpires
  split_ifs at hexpires with hdatetime
  cases hexpires
  refine ⟨?_, ?_⟩
  · show (rt.fromisoformat (rt.isoformat (Runtime.truncate clock.1))).isSome = true
    rw [clock.2.truncate.2.2]
    rfl
  · show (rt.fromisoformat (rt.isoformat _)).isSome = true
    rw [hdatetime.2.2]
    rfl

/-- The step lemma. -/
theorem SingleUse.step {F : Type} {s : ApprovalState} {returned : List ApprovalReceipt}
    (h : SingleUse rt s returned) (e : ApprovalEvent rt F) :
    SingleUse rt (s.step rt lib sha256 resolver str e).1
      (returned ++ (s.step rt lib sha256 resolver str e).2) := by
  cases e with
  | approve args answers => exact approveForReevaluation_singleUse h
  | issue clock approvalId args =>
    simp only [ApprovalState.step]
    cases hissue : s.gate.issueRequirement rt lib clock.1 approvalId args with
    | none => simpa using h
    | some r =>
      rw [List.append_nil]
      refine ⟨h.single, h.audited, pendingNamed_register h.pending r, h.intakes, ?_⟩
      intro q hq
      rcases List.mem_append.mp hq with hq | hq
      · exact h.times q hq
      · rw [List.mem_singleton.mp hq]
        exact times_of_issued hissue
  | record row otherType intake =>
    simp only [ApprovalState.step, List.append_nil]
    refine ⟨?_, fun r hr => (h.audited r hr).append, h.pending, ?_, h.times⟩
    · -- a row of another type is no row of an approval
      intro approvalId
      have hother : approvalRows (s.rows ++ [row]) approvalId = approvalRows s.rows approvalId := by
        simp [approvalRows, AuditEntry.recordsApproval, otherType]
      rw [hother]
      exact h.single approvalId
    · intro q hq
      rcases List.mem_append.mp hq with hq | hq
      · exact h.intakes q hq
      · rw [List.mem_singleton.mp hq]
        exact intake
  | restart gate =>
    simp only [ApprovalState.step, List.append_nil]
    exact ⟨h.single, h.audited, fun p hp => absurd hp List.not_mem_nil, h.intakes,
      fun r hr => absurd hr List.not_mem_nil⟩

/-- Nothing but an `ApprovalError` leaves the computation. -/
def OnlyApproval {α : Type} (x : Except ApproveError α) : Prop :=
  ∀ e, x = .error e → ∃ reason, e = .approval reason

theorem OnlyApproval.bind {α β : Type} {x : Except ApproveError α}
    {next : α → Except ApproveError β} (hx : OnlyApproval x)
    (hnext : ∀ a, OnlyApproval (next a)) : OnlyApproval (x >>= next) := by
  intro e h
  cases x with
  | error _ =>
    cases h
    exact hx _ rfl
  | ok a => exact hnext a e h

end Calls

end DecisionFirewall.Phase3
