import DecisionFirewall.Base.Dict

/-!
# Audit Records

The record types the engine writes, the rows of the audit log and their hash chain
(`AuditLogger`, `validate_phase3_audit_chain`).

The payload of a row is an object: the engine appends nothing else.
-/

namespace DecisionFirewall.Phase3

/-! ## §1 Record types -/

/-- `record_type`; `other` is a type that the engine does not write. -/
inductive RecordType where
  | requestReceived
  | requestRejected
  | requestValidated
  | identityEvaluated
  | evidenceEvaluated
  | consequenceEvaluated
  | policyEvaluated
  | policyEvaluationFailed
  | controlPlaneFailure
  | decisionVerified
  | decisionProduced
  | approvalRequirementProduced
  | approvalRecorded
  | authorizationNotIssued
  | authorizationProduced
  | brokerSkipped
  | brokerInvoked
  | brokerRejected
  | brokerFailure
  | actionSkipped
  | actionAttempted
  | verificationSkipped
  | verificationPerformed
  | postEffectAccountingFailure
  | finalStateRecorded
  | recoveryStarted
  | recoveryEvidenceAssessed
  | recoveryFinalized
  | other (name : String)
  deriving DecidableEq, Repr

namespace RecordType

def text : RecordType → String
  | .requestReceived => "REQUEST_RECEIVED"
  | .requestRejected => "REQUEST_REJECTED"
  | .requestValidated => "REQUEST_VALIDATED"
  | .identityEvaluated => "IDENTITY_EVALUATED"
  | .evidenceEvaluated => "EVIDENCE_EVALUATED"
  | .consequenceEvaluated => "CONSEQUENCE_EVALUATED"
  | .policyEvaluated => "POLICY_EVALUATED"
  | .policyEvaluationFailed => "POLICY_EVALUATION_FAILED"
  | .controlPlaneFailure => "CONTROL_PLANE_FAILURE"
  | .decisionVerified => "DECISION_VERIFIED"
  | .decisionProduced => "DECISION_PRODUCED"
  | .approvalRequirementProduced => "APPROVAL_REQUIREMENT_PRODUCED"
  | .approvalRecorded => "APPROVAL_RECORDED"
  | .authorizationNotIssued => "AUTHORIZATION_NOT_ISSUED"
  | .authorizationProduced => "AUTHORIZATION_PRODUCED"
  | .brokerSkipped => "BROKER_SKIPPED"
  | .brokerInvoked => "BROKER_INVOKED"
  | .brokerRejected => "BROKER_REJECTED"
  | .brokerFailure => "BROKER_FAILURE"
  | .actionSkipped => "ACTION_SKIPPED"
  | .actionAttempted => "ACTION_ATTEMPTED"
  | .verificationSkipped => "VERIFICATION_SKIPPED"
  | .verificationPerformed => "VERIFICATION_PERFORMED"
  | .postEffectAccountingFailure => "POST_EFFECT_ACCOUNTING_FAILURE"
  | .finalStateRecorded => "FINAL_STATE_RECORDED"
  | .recoveryStarted => "RECOVERY_STARTED"
  | .recoveryEvidenceAssessed => "RECOVERY_EVIDENCE_ASSESSED"
  | .recoveryFinalized => "RECOVERY_FINALIZED"
  | .other name => name

/-- `record_type.startswith("RECOVERY_")`. -/
def isRecovery : RecordType → Bool
  | .recoveryStarted | .recoveryEvidenceAssessed | .recoveryFinalized => true
  | .other name => name.startsWith "RECOVERY_"
  | _ => false

end RecordType

/-! ## §2 Rows -/

structure Row where
  sequence : Nat
  recordedAt : String
  recordType : RecordType
  previousHash : String
  payload : Dict
  recordHash : String
  deriving Repr

namespace Row

/-- The row without its hash. -/
def body (r : Row) : Json :=
  .obj [
    ("sequence", .int r.sequence),
    ("recorded_at", .str r.recordedAt),
    ("record_type", .str r.recordType.text),
    ("previous_hash", .str r.previousHash),
    ("payload", .obj r.payload)]

/-- The whole row as read back. -/
def toJson (r : Row) : Json :=
  .obj [
    ("sequence", .int r.sequence),
    ("recorded_at", .str r.recordedAt),
    ("record_type", .str r.recordType.text),
    ("previous_hash", .str r.previousHash),
    ("payload", .obj r.payload),
    ("record_hash", .str r.recordHash)]

end Row

/-! ## §3 The chain -/

/-- `"0" * 64`. -/
def GENESIS_HASH : String := "0000000000000000000000000000000000000000000000000000000000000000"

/-- The rows from position `sequence` on continue a chain that ends in `previous`. -/
def ChainFrom (rt : Runtime) : Nat → String → List Row → Prop
  | _, _, [] => True
  | sequence, previous, r :: rows =>
    r.sequence = sequence ∧ r.previousHash = previous ∧ r.recordHash = rt.sha256Json r.body ∧
      ChainFrom rt (sequence + 1) r.recordHash rows

instance decidableChainFrom (rt : Runtime) :
    (sequence : Nat) → (previous : String) → (rows : List Row) →
      Decidable (ChainFrom rt sequence previous rows)
  | _, _, [] => isTrue trivial
  | sequence, _, r :: rows =>
    have := decidableChainFrom rt (sequence + 1) r.recordHash rows
    inferInstanceAs (Decidable (_ ∧ _ ∧ _ ∧ _))

/-- `validate_phase3_audit_chain(rows)`. -/
def AuditChainOk (rt : Runtime) (rows : List Row) : Prop := ChainFrom rt 0 GENESIS_HASH rows

instance (rt : Runtime) (rows : List Row) : Decidable (AuditChainOk rt rows) :=
  inferInstanceAs (Decidable (ChainFrom rt _ _ _))

/-- `self.previous_hash`. -/
def lastHash (rows : List Row) : String := (rows.getLast?.map Row.recordHash).getD GENESIS_HASH

/-- The row that `AuditLogger.append` adds to the log. -/
def nextRow (rt : Runtime) (rows : List Row) (recordedAt : String) (recordType : RecordType)
    (payload : Dict) : Row :=
  let r : Row := ⟨rows.length, recordedAt, recordType, lastHash rows, payload, ""⟩
  { r with recordHash := rt.sha256Json r.body }

@[simp] theorem nextRow_recordType (rt : Runtime) (rows : List Row) (recordedAt : String)
    (recordType : RecordType) (payload : Dict) :
    (nextRow rt rows recordedAt recordType payload).recordType = recordType := rfl

@[simp] theorem nextRow_payload (rt : Runtime) (rows : List Row) (recordedAt : String)
    (recordType : RecordType) (payload : Dict) :
    (nextRow rt rows recordedAt recordType payload).payload = payload := rfl

theorem chainFrom_append {rt : Runtime} {sequence : Nat} {previous : String}
    {rows rows' : List Row} :
    ChainFrom rt sequence previous (rows ++ rows') ↔ ChainFrom rt sequence previous rows ∧
      ChainFrom rt (sequence + rows.length)
        ((rows.getLast?.map Row.recordHash).getD previous) rows' := by
  induction rows generalizing sequence previous with
  | nil => simp [ChainFrom]
  | cons r rows ih =>
    have hlast : (((r :: rows).getLast?.map Row.recordHash).getD previous) =
        (rows.getLast?.map Row.recordHash).getD r.recordHash := by
      cases rows with
      | nil => rfl
      | cons r' rows => simp [List.getLast?_eq_some_getLast]
    rw [hlast]
    simp only [List.cons_append, ChainFrom, ih, List.length_cons, and_assoc]
    have hn : sequence + 1 + rows.length = sequence + (rows.length + 1) := by omega
    rw [hn]

/-- An append keeps the chain. -/
theorem auditChainOk_append {rt : Runtime} {rows : List Row} (h : AuditChainOk rt rows)
    (recordedAt : String) (recordType : RecordType) (payload : Dict) :
    AuditChainOk rt (rows ++ [nextRow rt rows recordedAt recordType payload]) := by
  refine chainFrom_append.mpr ⟨h, ?_⟩
  simp [ChainFrom, nextRow, lastHash, Row.body]

end DecisionFirewall.Phase3
