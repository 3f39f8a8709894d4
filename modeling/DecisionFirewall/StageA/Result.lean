import DecisionFirewall.Base.Runtime

/-!
# Terminal Results and Recovery Summaries

The two JSON columns of the control ledger and the adapter receipts, with the
checks their constructors make (`RequestLookupResult.__post_init__`,
`_validate_recovery_summary`).

A column that holds canonical JSON is represented by the object its text encodes.
`_load_json_object` refuses every text that is not the canonical encoding of an
object, so no ledger that is ever accepted is lost.
-/

namespace DecisionFirewall.StageA

/-! ## §1 Closed vocabularies -/

/-- `_DECISION_OUTCOMES`. -/
inductive DecisionOutcome where
  | allow
  | deny
  | escalate
  | allowConstrained
  | notDurablyRecorded
  deriving DecidableEq, Repr

/-- `_REQUEST_DISPOSITIONS`. -/
inductive Disposition where
  | completedVerified
  | deniedNoEffect
  | failedNoEffect
  | abortedNoEffect
  | recoveryRequired
  | unknownEffect
  deriving DecidableEq, Repr

/-- `_VERIFICATION_STATUSES`. -/
inductive VerificationStatus where
  | verified
  | failed
  | partialEffect
  | unexpectedEffect
  | rollbackRequired
  | notApplicable
  | notPerformed
  | notDurablyRecorded
  deriving DecidableEq, Repr

/-- `_TERMINAL_ATTEMPT_STATES`. -/
inductive EffectState where
  | verifiedEffect
  | failedNoEffect
  | recoveryRequired
  | unknownEffect
  deriving DecidableEq, Repr

def DecisionOutcome.text : DecisionOutcome → String
  | .allow => "ALLOW"
  | .deny => "DENY"
  | .escalate => "ESCALATE"
  | .allowConstrained => "ALLOW_CONSTRAINED"
  | .notDurablyRecorded => "NOT_DURABLY_RECORDED"

def Disposition.text : Disposition → String
  | .completedVerified => "COMPLETED_VERIFIED"
  | .deniedNoEffect => "DENIED_NO_EFFECT"
  | .failedNoEffect => "FAILED_NO_EFFECT"
  | .abortedNoEffect => "ABORTED_NO_EFFECT"
  | .recoveryRequired => "RECOVERY_REQUIRED"
  | .unknownEffect => "UNKNOWN_EFFECT"

def VerificationStatus.text : VerificationStatus → String
  | .verified => "VERIFIED"
  | .failed => "FAILED"
  | .partialEffect => "PARTIAL"
  | .unexpectedEffect => "UNEXPECTED_EFFECT"
  | .rollbackRequired => "ROLLBACK_REQUIRED"
  | .notApplicable => "NOT_APPLICABLE"
  | .notPerformed => "NOT_PERFORMED"
  | .notDurablyRecorded => "NOT_DURABLY_RECORDED"

def EffectState.text : EffectState → String
  | .verifiedEffect => "VERIFIED_EFFECT"
  | .failedNoEffect => "FAILED_NO_EFFECT"
  | .recoveryRequired => "RECOVERY_REQUIRED"
  | .unknownEffect => "UNKNOWN_EFFECT"

/-- `disposition_states` of `complete_request`, `lookup_request_result` and
`_validate_control_relations`. -/
def Disposition.effectState : Disposition → Option EffectState
  | .completedVerified => some .verifiedEffect
  | .failedNoEffect => some .failedNoEffect
  | .recoveryRequired => some .recoveryRequired
  | .unknownEffect => some .unknownEffect
  | .deniedNoEffect | .abortedNoEffect => none

/-- Outcomes under which an authorization may exist. -/
def DecisionOutcome.IsAllow (o : DecisionOutcome) : Prop :=
  o = .allow ∨ o = .allowConstrained

instance (o : DecisionOutcome) : Decidable o.IsAllow :=
  inferInstanceAs (Decidable (_ ∨ _))

/-! ## §2 The terminal result -/

def REQUEST_LOOKUP_SCHEMA_VERSION : String := "stage-a-request-lookup-v1"

/-- `RequestLookupResult`; the constant `authorization=None` is left out. -/
structure RequestLookupResult where
  schemaVersion : String
  principalId : String
  requestId : String
  requestSha256 : String
  disposition : Disposition
  decisionId : String
  decisionOutcome : DecisionOutcome
  decisionSha256 : String
  decisionContextSha256 : String
  policySha256 : String
  verificationStatus : VerificationStatus
  verificationSha256 : Option String
  attemptId : Option String
  adapterReceiptSha256 : Option String
  targetStateSha256 : Option String
  decidedAt : String
  terminalAt : String
  recoveryRequired : Bool
  reasonCodes : List String
  replayed : Bool
  executionAttemptedThisCall : Bool
  newDecision : Bool
  newAuthorization : Bool
  newEffect : Bool
  deriving DecidableEq, Repr

namespace RequestLookupResult

/-- `summary_only_statuses`: no verification digest was recorded. -/
def IsSummaryOnly (s : VerificationStatus) : Prop :=
  s = .notApplicable ∨ s = .notPerformed ∨ s = .notDurablyRecorded

instance (s : VerificationStatus) : Decidable (IsSummaryOnly s) :=
  inferInstanceAs (Decidable (_ ∨ _))

/-- Disposition and decision outcome agree. -/
def DispositionOutcomeOk (d : Disposition) (o : DecisionOutcome) : Prop :=
  match d with
  | .deniedNoEffect => o = .deny ∨ o = .escalate
  | .abortedNoEffect => o = .notDurablyRecorded
  | .completedVerified | .failedNoEffect | .recoveryRequired | .unknownEffect => o.IsAllow

instance (d : Disposition) (o : DecisionOutcome) : Decidable (DispositionOutcomeOk d o) := by
  cases d <;> unfold DispositionOutcomeOk <;> infer_instance

/-- The branch on `attempt_id` and the disposition in `__post_init__`. -/
def EffectFieldsOk (r : RequestLookupResult) : Prop :=
  match r.attemptId, r.disposition with
  | none, d =>
    (d = .deniedNoEffect ∨ d = .abortedNoEffect) ∧ r.adapterReceiptSha256 = none ∧
      r.targetStateSha256 = none ∧ r.verificationSha256 = none ∧ r.recoveryRequired = false ∧
      (r.verificationStatus = .notApplicable ∨ r.verificationStatus = .notPerformed)
  | some _, .completedVerified =>
    r.adapterReceiptSha256.isSome = true ∧ r.targetStateSha256.isSome = true ∧
      r.verificationSha256.isSome = true ∧ r.verificationStatus = .verified ∧
      r.recoveryRequired = false
  | some _, .failedNoEffect =>
    r.adapterReceiptSha256.isSome = true ∧ r.targetStateSha256.isSome = true ∧
      r.recoveryRequired = false ∧ r.verificationStatus ≠ .verified
  | some _, .recoveryRequired =>
    r.recoveryRequired = true ∧ r.verificationStatus ≠ .verified ∧
      r.adapterReceiptSha256.isSome = true ∧ r.targetStateSha256.isSome = true
  | some _, .unknownEffect =>
    r.recoveryRequired = true ∧ r.verificationStatus ≠ .verified ∧
      r.adapterReceiptSha256.isSome = r.targetStateSha256.isSome
  | some _, .deniedNoEffect | some _, .abortedNoEffect => False

instance (r : RequestLookupResult) : Decidable r.EffectFieldsOk := by
  unfold EffectFieldsOk
  split <;> infer_instance

/-- `__post_init__` raises nothing. -/
structure PostInit (rt : Runtime) (r : RequestLookupResult) : Prop where
  schemaVersion : r.schemaVersion = REQUEST_LOOKUP_SCHEMA_VERSION
  principalId : IsIdentifier r.principalId
  requestId : IsIdentifier r.requestId
  decisionId : IsIdentifier r.decisionId
  decidedAt : IsIdentifier r.decidedAt
  terminalAt : IsIdentifier r.terminalAt
  requestSha256 : IsSha256 r.requestSha256
  decisionSha256 : IsSha256 r.decisionSha256
  decisionContextSha256 : IsSha256 r.decisionContextSha256
  policySha256 : IsSha256 r.policySha256
  verificationSha256 : ∀ s ∈ r.verificationSha256, IsSha256 s
  adapterReceiptSha256 : ∀ s ∈ r.adapterReceiptSha256, IsSha256 s
  targetStateSha256 : ∀ s ∈ r.targetStateSha256, IsSha256 s
  attemptId : ∀ s ∈ r.attemptId, IsIdentifier s
  outcome : DispositionOutcomeOk r.disposition r.decisionOutcome
  noNewWork : r.executionAttemptedThisCall = false ∧ r.newDecision = false ∧
    r.newAuthorization = false ∧ r.newEffect = false
  reasonCodes : r.reasonCodes.length ≤ 32 ∧ ∀ c ∈ r.reasonCodes, c ≠ "" ∧ c.length ≤ 128
  effectFields : r.EffectFieldsOk
  chronology : rt.AtMost r.decidedAt r.terminalAt
  summaryOnly : IsSummaryOnly r.verificationStatus ↔ r.verificationSha256 = none

instance (rt : Runtime) (r : RequestLookupResult) : Decidable (PostInit rt r) :=
  decidable_of_iff
    ((r.schemaVersion = REQUEST_LOOKUP_SCHEMA_VERSION ∧ IsIdentifier r.principalId ∧
      IsIdentifier r.requestId ∧ IsIdentifier r.decisionId ∧ IsIdentifier r.decidedAt ∧
      IsIdentifier r.terminalAt ∧ IsSha256 r.requestSha256 ∧ IsSha256 r.decisionSha256 ∧
      IsSha256 r.decisionContextSha256 ∧ IsSha256 r.policySha256) ∧
     ((∀ s ∈ r.verificationSha256, IsSha256 s) ∧ (∀ s ∈ r.adapterReceiptSha256, IsSha256 s) ∧
      (∀ s ∈ r.targetStateSha256, IsSha256 s) ∧ (∀ s ∈ r.attemptId, IsIdentifier s)) ∧
     (DispositionOutcomeOk r.disposition r.decisionOutcome ∧
      (r.executionAttemptedThisCall = false ∧ r.newDecision = false ∧
        r.newAuthorization = false ∧ r.newEffect = false) ∧
      (r.reasonCodes.length ≤ 32 ∧ ∀ c ∈ r.reasonCodes, c ≠ "" ∧ c.length ≤ 128) ∧
      r.EffectFieldsOk ∧ rt.AtMost r.decidedAt r.terminalAt ∧
      (IsSummaryOnly r.verificationStatus ↔ r.verificationSha256 = none)))
    ⟨fun ⟨⟨a, b, c, d, e, f, g, h, i, j⟩, ⟨k, l, m, n⟩, o, p, q, s, t, u⟩ =>
      ⟨a, b, c, d, e, f, g, h, i, j, k, l, m, n, o, p, q, s, t, u⟩,
     fun ⟨a, b, c, d, e, f, g, h, i, j, k, l, m, n, o, p, q, s, t, u⟩ =>
      ⟨⟨a, b, c, d, e, f, g, h, i, j⟩, ⟨k, l, m, n⟩, o, p, q, s, t, u⟩⟩

/-- `to_dict()`. -/
def toDict (r : RequestLookupResult) : Json :=
  .obj [
    ("schema_version", .str r.schemaVersion),
    ("principal_id", .str r.principalId),
    ("request_id", .str r.requestId),
    ("request_sha256", .str r.requestSha256),
    ("disposition", .str r.disposition.text),
    ("decision_id", .str r.decisionId),
    ("decision_outcome", .str r.decisionOutcome.text),
    ("decision_sha256", .str r.decisionSha256),
    ("decision_context_sha256", .str r.decisionContextSha256),
    ("policy_sha256", .str r.policySha256),
    ("verification_status", .str r.verificationStatus.text),
    ("verification_sha256", .ofOption r.verificationSha256),
    ("attempt_id", .ofOption r.attemptId),
    ("adapter_receipt_sha256", .ofOption r.adapterReceiptSha256),
    ("target_state_sha256", .ofOption r.targetStateSha256),
    ("decided_at", .str r.decidedAt),
    ("terminal_at", .str r.terminalAt),
    ("recovery_required", .bool r.recoveryRequired),
    ("reason_codes", .arr (r.reasonCodes.map .str)),
    ("replayed", .bool r.replayed),
    ("execution_attempted_this_call", .bool r.executionAttemptedThisCall),
    ("new_decision", .bool r.newDecision),
    ("new_authorization", .bool r.newAuthorization),
    ("new_effect", .bool r.newEffect),
    ("authorization", .null)]

/-- The projection `complete_request` stores: every activity flag cleared. -/
def stored (r : RequestLookupResult) : RequestLookupResult :=
  { r with
    replayed := false
    executionAttemptedThisCall := false
    newDecision := false
    newAuthorization := false
    newEffect := false }

/-- `as_replay()`. -/
def asReplay (r : RequestLookupResult) : RequestLookupResult :=
  { r.stored with replayed := true }

@[simp] theorem stored_stored (r : RequestLookupResult) : r.stored.stored = r.stored := rfl
@[simp] theorem stored_replayed (r : RequestLookupResult) : r.stored.replayed = false := rfl
@[simp] theorem stored_principalId (r : RequestLookupResult) :
    r.stored.principalId = r.principalId := rfl
@[simp] theorem stored_requestId (r : RequestLookupResult) :
    r.stored.requestId = r.requestId := rfl
@[simp] theorem stored_requestSha256 (r : RequestLookupResult) :
    r.stored.requestSha256 = r.requestSha256 := rfl
@[simp] theorem stored_terminalAt (r : RequestLookupResult) :
    r.stored.terminalAt = r.terminalAt := rfl
@[simp] theorem stored_attemptId (r : RequestLookupResult) :
    r.stored.attemptId = r.attemptId := rfl
@[simp] theorem stored_disposition (r : RequestLookupResult) :
    r.stored.disposition = r.disposition := rfl

/-- Clearing the flags of a valid result keeps it valid. -/
theorem PostInit.stored {rt : Runtime} {r : RequestLookupResult} (h : PostInit rt r) :
    PostInit rt r.stored :=
  { h with noNewWork := ⟨rfl, rfl, rfl, rfl⟩, effectFields := h.effectFields }

end RequestLookupResult

/-- `terminal_attempt_outcome_sha256(result, attempt_state)`. -/
def terminalAttemptOutcomeSha256 (rt : Runtime) (result : RequestLookupResult)
    (attemptState : EffectState) : String :=
  rt.sha256Json (.obj [
    ("attempt_state", .str attemptState.text),
    ("request_result_sha256", .str (rt.sha256Json result.stored.toDict))])

/-! ## §3 The recovery summary -/

/-- The closed recovery summary that `consume_once` stores with an attempt. -/
structure RecoverySummary where
  summaryVersion : String
  principalId : String
  requestId : String
  requestSha256 : String
  decisionId : String
  decisionOutcome : DecisionOutcome
  decisionSha256 : String
  decisionContextSha256 : String
  policySha256 : String
  decidedAt : String
  deriving DecidableEq, Repr

namespace RecoverySummary

/-- `_validate_recovery_summary` returns. -/
structure Valid (rt : Runtime) (s : RecoverySummary) : Prop where
  summaryVersion : s.summaryVersion = "1"
  principalId : IsIdentifier s.principalId
  requestId : IsIdentifier s.requestId
  decisionId : IsIdentifier s.decisionId
  decisionOutcome : s.decisionOutcome ≠ .notDurablyRecorded
  decidedAt : rt.IsOffsetTimestamp s.decidedAt
  requestSha256 : IsSha256 s.requestSha256
  decisionSha256 : IsSha256 s.decisionSha256
  decisionContextSha256 : IsSha256 s.decisionContextSha256
  policySha256 : IsSha256 s.policySha256

instance (rt : Runtime) (s : RecoverySummary) : Decidable (Valid rt s) :=
  decidable_of_iff
    (s.summaryVersion = "1" ∧ IsIdentifier s.principalId ∧ IsIdentifier s.requestId ∧
      IsIdentifier s.decisionId ∧ s.decisionOutcome ≠ .notDurablyRecorded ∧
      rt.IsOffsetTimestamp s.decidedAt ∧ IsSha256 s.requestSha256 ∧
      IsSha256 s.decisionSha256 ∧ IsSha256 s.decisionContextSha256 ∧ IsSha256 s.policySha256)
    ⟨fun ⟨a, b, c, d, e, f, g, h, i, j⟩ => ⟨a, b, c, d, e, f, g, h, i, j⟩,
     fun ⟨a, b, c, d, e, f, g, h, i, j⟩ => ⟨a, b, c, d, e, f, g, h, i, j⟩⟩

def toDict (s : RecoverySummary) : Json :=
  .obj [
    ("summary_version", .str s.summaryVersion),
    ("principal_id", .str s.principalId),
    ("request_id", .str s.requestId),
    ("request_sha256", .str s.requestSha256),
    ("decision_id", .str s.decisionId),
    ("decision_outcome", .str s.decisionOutcome.text),
    ("decision_sha256", .str s.decisionSha256),
    ("decision_context_sha256", .str s.decisionContextSha256),
    ("policy_sha256", .str s.policySha256),
    ("decided_at", .str s.decidedAt)]

/-- The stored text of a valid summary whose request was claimed fits its column:
`consume_once` checks no size, but the subject of the claim bounds the two request
identifiers together. -/
theorem length_canonicalJson_le {rt : Runtime} {s : RecoverySummary} (h : s.Valid rt)
    (hsubject : s.principalId.length + 1 + s.requestId.length ≤ 512) :
    (canonicalJson s.toDict).length ≤ 16384 := by
  have hversion := Json.length_renderString_le s.summaryVersion
  have hprincipal := Json.length_renderString_le s.principalId
  have hrequest := Json.length_renderString_le s.requestId
  have hrequestSha := h.requestSha256.length_renderString
  have hdecision := Json.length_renderString_le s.decisionId
  have houtcome := Json.length_renderString_le s.decisionOutcome.text
  have hdecisionSha := h.decisionSha256.length_renderString
  have hcontext := h.decisionContextSha256.length_renderString
  have hpolicy := h.policySha256.length_renderString
  have hdecidedAt := Json.length_renderString_le s.decidedAt
  have h1 : s.summaryVersion.length = 1 := by rw [h.summaryVersion]; rfl
  have h2 : s.decisionOutcome.text.length ≤ 20 := by cases s.decisionOutcome <;> decide
  have h3 := h.decisionId.2
  have h4 := h.decidedAt.2.1
  have hkeys : ∀ k ∈ ["summary_version", "principal_id", "request_id", "request_sha256",
      "decision_id", "decision_outcome", "decision_sha256", "decision_context_sha256",
      "policy_sha256", "decided_at"], (Json.renderString k).length ≤ 25 := by decide
  simp only [List.mem_cons, List.not_mem_nil, or_false, forall_eq_or_imp, forall_eq] at hkeys
  rw [length_canonicalJson]
  refine (Json.length_render_obj_le _).trans ?_
  simp only [List.map_cons, List.map_nil, List.sum_cons, List.sum_nil, Json.render]
  omega

end RecoverySummary

end DecisionFirewall.StageA
