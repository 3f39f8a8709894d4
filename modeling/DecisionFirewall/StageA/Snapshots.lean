import DecisionFirewall.StageA.Adapter
import DecisionFirewall.StageA.Writers

/-!
# Snapshots and Store Correlation

The reads of both stores that the engine compares: `request_snapshot`, the two
correlation snapshots with `_validate_durable_store_correlation`, and the
projections of the control ledger that audit continuity is checked against.
-/

namespace DecisionFirewall.StageA

/-! ## §1 request_snapshot -/

/-- The attempt half of a request snapshot. -/
structure AttemptSnapshot where
  attemptId : String
  idempotencyKey : String
  bindingSha256 : String
  state : AttemptState
  recoverySummary : RecoverySummary
  authorizationDecisionId : String
  deriving DecidableEq, Repr

/-- The columns of `request_snapshot` that its callers read. -/
structure RequestSnapshot where
  state : RequestState
  updatedAt : String
  attempt : Option AttemptSnapshot
  deriving DecidableEq, Repr

def JoinedAttempt.snapshot (j : JoinedAttempt) : AttemptSnapshot :=
  ⟨j.row.attemptId, j.row.idempotencyKey, j.row.bindingSha256, j.row.state,
    j.link.recoverySummary, j.authorization.decisionId⟩

/-- The stored summary is intact and binds to its row. -/
def SnapshotSummaryOk (rt : Runtime) (k : RequestKey) (requestSha256 : String)
    (j : JoinedAttempt) : Prop :=
  rt.sha256Json j.link.recoverySummary.toDict = j.link.recoverySummarySha256 ∧
    j.link.recoverySummary.Valid rt ∧ j.link.recoverySummary.principalId = k.principalId ∧
    j.link.recoverySummary.requestId = k.requestId ∧
    j.link.recoverySummary.requestSha256 = requestSha256 ∧
    j.link.recoverySummary.decisionId = j.authorization.decisionId

instance (rt : Runtime) (k : RequestKey) (requestSha256 : String) (j : JoinedAttempt) :
    Decidable (SnapshotSummaryOk rt k requestSha256 j) :=
  inferInstanceAs (Decidable (_ ∧ _ ∧ _ ∧ _ ∧ _ ∧ _))

/-- `attempts LEFT JOIN authorizations` of a request. -/
def Ledger.attemptOf (L : Ledger) (k : RequestKey) : Option JoinedAttempt :=
  (L.attemptsOf k).head?.bind L.join

/-- `request_snapshot(principal_id, request_id, request_sha256)`. -/
def requestSnapshot (rt : Runtime) (k : RequestKey) (requestSha256 : String) (L : Ledger) :
    Except LedgerError (Option RequestSnapshot) := do
  require (IsIdentifier k.principalId ∧ IsIdentifier k.requestId ∧ IsSha256 requestSha256)
    .bindingInvalid
  require (ControlRelationsOk rt L) .corrupt
  match L.request k with
  | none => pure none
  | some r => do
    require (r.requestSha256 = requestSha256) .requestIdConflict
    require (∀ j ∈ L.attemptOf k, SnapshotSummaryOk rt k requestSha256 j) .corrupt
    pure (some ⟨r.state, r.updatedAt, (L.attemptOf k).map JoinedAttempt.snapshot⟩)

/-! ## §2 Correlation snapshots -/

/-- The bindings that both sides of a command repeat. -/
structure CommandBindings where
  principalId : String
  requestId : String
  requestSha256 : String
  attemptId : String
  tokenId : String
  unsignedTokenSha256 : String
  issuerInstanceId : String
  authorizationKeyDomainId : String
  decisionId : String
  decisionAuthorizationSha256 : String
  decisionContextSha256 : String
  policySha256 : String
  bindingSha256 : String
  idempotencyKey : String
  deriving DecidableEq, Repr

/-- A row of the control side. -/
structure ControlCorrelation where
  bindings : CommandBindings
  state : AttemptState
  targetStateSha256 : Option String
  deriving DecidableEq, Repr

/-- A row of the adapter side. -/
structure AdapterCorrelation where
  bindings : CommandBindings
  receiptSha256 : String
  status : ReceiptStatus
  stateAfterSha256 : String
  deriving DecidableEq, Repr

/-- `str(column)` of a nullable column of an authorization. -/
def AuthorizationRow.linkText (a : AuthorizationRow) (f : AuthorizationLink → String) : String :=
  (a.link.map f).getD "None"

/-- One row of `_control_correlation_snapshot`. -/
def JoinedAttempt.correlation (j : JoinedAttempt) (result : Option ResultRow) :
    ControlCorrelation where
  bindings :=
    { principalId := j.link.principalId
      requestId := j.link.requestId
      requestSha256 := j.link.requestSha256
      attemptId := j.row.attemptId
      tokenId := j.authorization.tokenId
      unsignedTokenSha256 := j.authorization.linkText AuthorizationLink.unsignedTokenSha256
      issuerInstanceId := j.authorization.linkText AuthorizationLink.issuerInstanceId
      authorizationKeyDomainId := j.authorization.linkText AuthorizationLink.keyDomainId
      decisionId := j.authorization.decisionId
      decisionAuthorizationSha256 :=
        j.authorization.linkText AuthorizationLink.decisionAuthorizationSha256
      decisionContextSha256 := j.link.recoverySummary.decisionContextSha256
      policySha256 := j.link.recoverySummary.policySha256
      bindingSha256 := j.row.bindingSha256
      idempotencyKey := j.row.idempotencyKey }
  state := j.row.state
  targetStateSha256 := result.bind fun x => x.result.targetStateSha256

/-- `_control_correlation_snapshot` after the validation of the ledger. -/
def Ledger.correlationSnapshot (L : Ledger) : List ControlCorrelation :=
  (L.attempts.filterMap L.join).map fun j => j.correlation (L.resultsOf j.link.key).head?

/-- One row of the adapter's `correlation_snapshot`. -/
def ReceiptRow.correlation (r : ReceiptRow) : AdapterCorrelation where
  bindings :=
    { principalId := r.principalId
      requestId := r.requestId
      requestSha256 := r.binding.requestSha256
      attemptId := r.receipt.attemptId
      tokenId := r.binding.tokenId
      unsignedTokenSha256 := r.binding.unsignedTokenSha256
      issuerInstanceId := r.binding.issuerInstanceId
      authorizationKeyDomainId := r.binding.authorizationKeyDomainId
      decisionId := r.binding.decisionId
      decisionAuthorizationSha256 := r.binding.decisionAuthorizationSha256
      decisionContextSha256 := r.binding.decisionContextSha256
      policySha256 := r.binding.policySha256
      bindingSha256 := r.bindingSha256
      idempotencyKey := r.idempotencyKey }
  receiptSha256 := r.receiptSha256
  status := r.receipt.status
  stateAfterSha256 := r.receipt.stateAfterSha256

def AdapterStore.correlationSnapshot (A : AdapterStore) : List AdapterCorrelation :=
  A.commandReceipts.map ReceiptRow.correlation

/-! ## §3 Correlation -/

/-- `terminal_statuses`. -/
def EffectState.Admits (e : EffectState) (s : ReceiptStatus) : Prop :=
  match e with
  | .verifiedEffect => s = .applied
  | .failedNoEffect => s = .noEffect
  | .recoveryRequired | .unknownEffect => s ≠ .noEffect

instance (e : EffectState) (s : ReceiptStatus) : Decidable (e.Admits s) := by
  cases e <;> unfold EffectState.Admits <;> infer_instance

/-- A control row and the adapter row with its key tell one history. -/
structure RowsAgree (c : ControlCorrelation) (a : AdapterCorrelation) : Prop where
  bindings : a.bindings = c.bindings
  receipt : c.state ≠ .reserved → c.state.adapterReceiptSha256 = some a.receiptSha256
  status : ∀ e ∈ c.state.effect, e.Admits a.status
  stateAfter : c.state.effect.isSome = true → c.targetStateSha256 = some a.stateAfterSha256

instance (c : ControlCorrelation) (a : AdapterCorrelation) : Decidable (RowsAgree c a) :=
  decidable_of_iff (_ ∧ _ ∧ _ ∧ _)
    ⟨fun ⟨a, b, c, d⟩ => ⟨a, b, c, d⟩, fun ⟨a, b, c, d⟩ => ⟨a, b, c, d⟩⟩

/-- A control row may lack its adapter row. -/
def ReceiptMayBeAbsent (s : AttemptState) : Prop :=
  s = .reserved ∨ (s.effect = some .unknownEffect ∧ s.adapterReceiptSha256 = none)

instance (s : AttemptState) : Decidable (ReceiptMayBeAbsent s) :=
  inferInstanceAs (Decidable (_ ∨ _))

/-- `_validate_durable_store_correlation(control_rows, adapter_rows)` raises nothing. -/
structure StoresCorrelated (controls : List ControlCorrelation)
    (adapters : List AdapterCorrelation) : Prop where
  controlKeys : (controls.map fun c => c.bindings.idempotencyKey).Nodup
  adapterKeys : (adapters.map fun a => a.bindings.idempotencyKey).Nodup
  noOrphan : ∀ a ∈ adapters, a.bindings.idempotencyKey ∈
    controls.map fun c => c.bindings.idempotencyKey
  agree : ∀ c ∈ controls, ∀ a ∈ adapters,
    a.bindings.idempotencyKey = c.bindings.idempotencyKey → RowsAgree c a
  absent : ∀ c ∈ controls, c.bindings.idempotencyKey ∉
    adapters.map (fun a => a.bindings.idempotencyKey) → ReceiptMayBeAbsent c.state

instance (controls : List ControlCorrelation) (adapters : List AdapterCorrelation) :
    Decidable (StoresCorrelated controls adapters) :=
  decidable_of_iff (_ ∧ _ ∧ _ ∧ _ ∧ _)
    ⟨fun ⟨a, b, c, d, e⟩ => ⟨a, b, c, d, e⟩, fun ⟨a, b, c, d, e⟩ => ⟨a, b, c, d, e⟩⟩

/-- Both stores open and `_assert_durable_store_correlation` raises nothing. -/
structure PairAccepted (cfg : AdapterConfig) (rt : Runtime) (L : Ledger) (A : AdapterStore) :
    Prop where
  ledger : Accepted rt L
  adapter : A.Ok cfg rt
  correlated : StoresCorrelated L.correlationSnapshot A.correlationSnapshot

/-! ## §4 Audit continuity snapshots -/

/-- A row of `audit_continuity_snapshot`. -/
structure ContinuityRow where
  principalId : String
  requestId : String
  requestSha256 : String
  state : RequestState
  decisionId : Option String
  deriving DecidableEq, Repr

/-- `audit_continuity_snapshot`: the result's decision identifier, or else that of the
authorization. -/
def Ledger.auditContinuitySnapshot (L : Ledger) : List ContinuityRow :=
  L.requests.map fun r =>
    { principalId := r.principalId
      requestId := r.requestId
      requestSha256 := r.requestSha256
      state := r.state
      decisionId := ((L.resultsOf r.key).head?.map fun x => x.result.decisionId).or
        ((L.authorizationsOf r.key).head?.map AuthorizationRow.decisionId) }

/-- `unbound_authorizations` or `unbound_attempts` is not zero. -/
def Ledger.HasUnbound (L : Ledger) : Prop :=
  (∃ a ∈ L.authorizations, a.link = none) ∨ ∃ t ∈ L.attempts, t.link = none

instance (L : Ledger) : Decidable L.HasUnbound :=
  inferInstanceAs (Decidable (_ ∨ _))

/-- `any(activity.values())`. -/
def Ledger.HasActivity (L : Ledger) : Prop :=
  L.requests ≠ [] ∨ L.requestResults ≠ [] ∨ L.authorizations ≠ [] ∨ L.attempts ≠ [] ∨
    L.auditOutbox ≠ []

instance (L : Ledger) : Decidable L.HasActivity :=
  inferInstanceAs (Decidable (_ ∨ _ ∨ _ ∨ _ ∨ _))

end DecisionFirewall.StageA
