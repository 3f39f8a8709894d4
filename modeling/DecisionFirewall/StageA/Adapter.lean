import DecisionFirewall.Base.Dict
import DecisionFirewall.Lib.Table
import DecisionFirewall.StageA.Result

/-!
# The Synthetic Adapter Store

`SQLiteSyntheticAdapterStore`: the synthetic target states, the immutable command
receipts, the validation every connection runs, and `execute_once`.

- §1 target states
- §2 commands, bindings and receipts
- §3 the tables
- §4 validation
- §5 execution
- §6 reads

A JSON column is represented by the object its text encodes, as in
`StageA.Result`.
-/

namespace DecisionFirewall.StageA

open Lib.Table (updateWhere)

/-! ## §1 Target states -/

inductive NetworkState where
  | connected
  | isolated
  deriving DecidableEq, Repr

inductive ServiceHealth where
  | healthy
  | degraded
  deriving DecidableEq, Repr

def NetworkState.text : NetworkState → String
  | .connected => "connected"
  | .isolated => "isolated"

def ServiceHealth.text : ServiceHealth → String
  | .healthy => "healthy"
  | .degraded => "degraded"

/-- A synthetic target state. -/
structure TargetState where
  targetId : String
  targetType : String
  networkState : NetworkState
  managementChannel : Bool
  isolationExpiresAt : Option String
  serviceHealth : ServiceHealth
  lastActionId : Option String
  deriving DecidableEq, Repr

namespace TargetState

/-- The state of a target before any command. -/
def initial (targetId targetType : String) : TargetState :=
  ⟨targetId, targetType, .connected, true, none, .healthy, none⟩

def toDict (s : TargetState) : Dict :=
  [("target_id", .str s.targetId),
    ("target_type", .str s.targetType),
    ("network_state", .str s.networkState.text),
    ("management_channel", .bool s.managementChannel),
    ("isolation_expires_at", .ofOption s.isolationExpiresAt),
    ("service_health", .str s.serviceHealth.text),
    ("last_action_id", .ofOption s.lastActionId)]

def sha256 (rt : Runtime) (s : TargetState) : String := rt.sha256Json (.obj s.toDict)

/-- `_validate_target_state(value, target_id=...)` returns. -/
def Valid (rt : Runtime) (targetId : String) (s : TargetState) : Prop :=
  s.targetId = targetId ∧ IsIdentifier s.targetType ∧
    (∀ t ∈ s.isolationExpiresAt, rt.IsOffsetTimestamp t) ∧ ∀ a ∈ s.lastActionId, IsIdentifier a

instance (rt : Runtime) (targetId : String) (s : TargetState) : Decidable (s.Valid rt targetId) :=
  inferInstanceAs (Decidable (_ ∧ _ ∧ _ ∧ _))

end TargetState

/-! ## §2 Commands, bindings and receipts -/

def SYNTHETIC_ADAPTER_ID : String := "adf-stage-a-offline-synthetic-adapter"
def SYNTHETIC_ADAPTER_CONTRACT_VERSION : String := "1"
def SYNTHETIC_EXECUTION_MODE : String := "synthetic_simulation"
def ADAPTER_RECEIPT_SCHEMA_VERSION : String := "stage-a-synthetic-receipt-v1"

/-- `SYNTHETIC_ADAPTER_CONTRACT_SHA256`. -/
def syntheticAdapterContractSha256 (rt : Runtime) : String :=
  rt.sha256Json (.obj [
    ("adapter_id", .str SYNTHETIC_ADAPTER_ID),
    ("contract_version", .str SYNTHETIC_ADAPTER_CONTRACT_VERSION),
    ("execution_mode", .str SYNTHETIC_EXECUTION_MODE),
    ("supported_action", .str "NETWORK_ISOLATE"),
    ("receipt_semantics", .str "adapter_report_only_not_independent_verification")])

/-- The reason codes of `SyntheticAdapterError`, and the `OverflowError` of a
timestamp that leaves the calendar. -/
inductive AdapterError where
  | bindingInvalid
  | idempotencyConflict
  | targetUnknown
  | timeInvalid
  | receiptInvalid
  | corrupt
  | unavailable
  | overflow
  deriving DecidableEq, Repr

def AdapterError.reasonCode : AdapterError → String
  | .bindingInvalid => "SYNTHETIC_ADAPTER_BINDING_INVALID"
  | .idempotencyConflict => "SYNTHETIC_ADAPTER_IDEMPOTENCY_CONFLICT"
  | .targetUnknown => "TARGET_UNKNOWN"
  | .timeInvalid => "SYNTHETIC_ADAPTER_TIME_INVALID"
  | .receiptInvalid => "SYNTHETIC_ADAPTER_RECEIPT_INVALID"
  | .corrupt => "SYNTHETIC_ADAPTER_CORRUPT"
  | .unavailable => "SYNTHETIC_ADAPTER_UNAVAILABLE"
  | .overflow => "OverflowError"

/-- A normalized command: its type, target and parameters. -/
structure Command where
  type : String
  target : String
  parameters : Dict
  deriving Repr

def Command.toJson (c : Command) : Json :=
  .obj [("type", .str c.type), ("target", .str c.target), ("parameters", .obj c.parameters)]

/-- The durable attempt binding that a command is executed under. -/
structure Binding where
  adapterId : String
  adapterContractVersion : String
  adapterContractSha256 : String
  executionMode : String
  tokenId : String
  unsignedTokenSha256 : String
  issuerInstanceId : String
  authorizationKeyDomainId : String
  principalId : String
  requestId : String
  requestSha256 : String
  decisionId : String
  decisionAuthorizationSha256 : String
  decisionContextSha256 : String
  agentId : String
  command : Command
  policyId : String
  policyVersion : String
  policySha256 : String
  targetStateSha256 : String
  deriving Repr

namespace Binding

def toDict (b : Binding) : Dict :=
  [("adapter_id", .str b.adapterId),
    ("adapter_contract_version", .str b.adapterContractVersion),
    ("adapter_contract_sha256", .str b.adapterContractSha256),
    ("execution_mode", .str b.executionMode),
    ("token_id", .str b.tokenId),
    ("unsigned_token_sha256", .str b.unsignedTokenSha256),
    ("issuer_instance_id", .str b.issuerInstanceId),
    ("authorization_key_domain_id", .str b.authorizationKeyDomainId),
    ("principal_id", .str b.principalId),
    ("request_id", .str b.requestId),
    ("request_sha256", .str b.requestSha256),
    ("decision_id", .str b.decisionId),
    ("decision_authorization_sha256", .str b.decisionAuthorizationSha256),
    ("decision_context_sha256", .str b.decisionContextSha256),
    ("agent_id", .str b.agentId),
    ("command", b.command.toJson),
    ("policy_id", .str b.policyId),
    ("policy_version", .str b.policyVersion),
    ("policy_sha256", .str b.policySha256),
    ("target_state_sha256", .str b.targetStateSha256)]

def sha256 (rt : Runtime) (b : Binding) : String := rt.sha256Json (.obj b.toDict)

/-- `_validate_binding(value)` returns. -/
structure Valid (rt : Runtime) (b : Binding) : Prop where
  authorityFree : (Json.obj b.toDict).AuthorityFree
  contract : b.adapterId = SYNTHETIC_ADAPTER_ID ∧
    b.adapterContractVersion = SYNTHETIC_ADAPTER_CONTRACT_VERSION ∧
    b.adapterContractSha256 = syntheticAdapterContractSha256 rt ∧
    b.executionMode = SYNTHETIC_EXECUTION_MODE
  digests : ∀ s ∈ [b.unsignedTokenSha256, b.requestSha256, b.decisionAuthorizationSha256,
    b.decisionContextSha256, b.policySha256, b.targetStateSha256], IsSha256 s
  identifiers : ∀ s ∈ [b.tokenId, b.issuerInstanceId, b.authorizationKeyDomainId, b.principalId,
    b.requestId, b.decisionId, b.agentId, b.policyId, b.policyVersion], IsIdentifier s
  command : b.command.type ≠ "" ∧ b.command.target ≠ ""
  size : (canonicalJson (.obj b.toDict)).length ≤ 32768

instance (rt : Runtime) (b : Binding) : Decidable (b.Valid rt) :=
  decidable_of_iff (_ ∧ _ ∧ _ ∧ _ ∧ _ ∧ _)
    ⟨fun ⟨a, b, c, d, e, f⟩ => ⟨a, b, c, d, e, f⟩, fun ⟨a, b, c, d, e, f⟩ => ⟨a, b, c, d, e, f⟩⟩

end Binding

/-- `_ADAPTER_STATUSES`. -/
inductive ReceiptStatus where
  | applied
  | noEffect
  | partialEffect
  | ambiguous
  deriving DecidableEq, Repr

def ReceiptStatus.text : ReceiptStatus → String
  | .applied => "APPLIED"
  | .noEffect => "NO_EFFECT"
  | .partialEffect => "PARTIAL"
  | .ambiguous => "AMBIGUOUS"

/-- `SyntheticAdapterReceipt`. -/
structure Receipt where
  schemaVersion : String
  receiptId : String
  adapterId : String
  adapterContractVersion : String
  adapterContractSha256 : String
  executionMode : String
  idempotencyKey : String
  bindingSha256 : String
  attemptId : String
  requestId : String
  decisionId : String
  targetId : String
  actionType : String
  status : ReceiptStatus
  attemptedAt : String
  reportedSuccess : Bool
  message : String
  stateBeforeSha256 : String
  stateAfterSha256 : String
  deriving DecidableEq, Repr

namespace Receipt

/-- The fields that `__post_init__` requires to be identifiers. -/
def identifiers (r : Receipt) : List String :=
  [r.receiptId, r.attemptId, r.requestId, r.decisionId, r.targetId, r.actionType, r.attemptedAt,
    r.message]

/-- `__post_init__` raises nothing. -/
structure PostInit (rt : Runtime) (r : Receipt) : Prop where
  schemaVersion : r.schemaVersion = ADAPTER_RECEIPT_SCHEMA_VERSION
  contract : r.adapterId = SYNTHETIC_ADAPTER_ID ∧ r.executionMode = SYNTHETIC_EXECUTION_MODE ∧
    r.adapterContractVersion = SYNTHETIC_ADAPTER_CONTRACT_VERSION ∧
    r.adapterContractSha256 = syntheticAdapterContractSha256 rt
  digests : ∀ s ∈ [r.adapterContractSha256, r.idempotencyKey, r.bindingSha256,
    r.stateBeforeSha256, r.stateAfterSha256], IsSha256 s
  key : r.idempotencyKey = r.bindingSha256
  identifiers : ∀ s ∈ r.identifiers, IsIdentifier s
  effect : if r.status = .noEffect
    then r.reportedSuccess = false ∧ r.stateBeforeSha256 = r.stateAfterSha256
    else r.reportedSuccess = true ∧ r.stateBeforeSha256 ≠ r.stateAfterSha256
  attemptedAt : (rt.fromisoformat r.attemptedAt).isSome = true

instance (rt : Runtime) (r : Receipt) : Decidable (r.PostInit rt) :=
  decidable_of_iff (_ ∧ _ ∧ _ ∧ _ ∧ _ ∧ _ ∧ _)
    ⟨fun ⟨a, b, c, d, e, f, g⟩ => ⟨a, b, c, d, e, f, g⟩,
     fun ⟨a, b, c, d, e, f, g⟩ => ⟨a, b, c, d, e, f, g⟩⟩

def toDict (r : Receipt) : Dict :=
  [("schema_version", .str r.schemaVersion),
    ("receipt_id", .str r.receiptId),
    ("adapter_id", .str r.adapterId),
    ("adapter_contract_version", .str r.adapterContractVersion),
    ("adapter_contract_sha256", .str r.adapterContractSha256),
    ("execution_mode", .str r.executionMode),
    ("idempotency_key", .str r.idempotencyKey),
    ("binding_sha256", .str r.bindingSha256),
    ("attempt_id", .str r.attemptId),
    ("request_id", .str r.requestId),
    ("decision_id", .str r.decisionId),
    ("target_id", .str r.targetId),
    ("action_type", .str r.actionType),
    ("status", .str r.status.text),
    ("attempted_at", .str r.attemptedAt),
    ("reported_success", .bool r.reportedSuccess),
    ("message", .str r.message),
    ("state_before_sha256", .str r.stateBeforeSha256),
    ("state_after_sha256", .str r.stateAfterSha256)]

/-- `receipt_sha256`. -/
def sha256 (rt : Runtime) (r : Receipt) : String := rt.sha256Json (.obj r.toDict)

end Receipt

/-! ## §3 The tables -/

/-- A row of `target_states`. -/
structure TargetStateRow where
  targetId : String
  state : TargetState
  stateSha256 : String
  updatedAt : String
  deriving DecidableEq, Repr

/-- A row of `command_receipts`. -/
structure ReceiptRow where
  idempotencyKey : String
  principalId : String
  requestId : String
  binding : Binding
  bindingSha256 : String
  receipt : Receipt
  receiptSha256 : String
  targetId : String
  committedAt : String
  deriving Repr

/-- The pair that `UNIQUE(principal_id, request_id)` speaks about. -/
def ReceiptRow.request (r : ReceiptRow) : String × String := (r.principalId, r.requestId)

/-- The configured inventory and faults. -/
inductive FaultMode where
  | none
  | failed
  | partialEffect
  | unexpectedEffect
  deriving DecidableEq, Repr

structure AdapterConfig where
  /-- the identifier and type of each inventory record -/
  inventory : List (String × String)
  faultModes : List (String × FaultMode)

/-- `self._fault_modes.get(target_id, "NONE")`. -/
def AdapterConfig.faultMode (cfg : AdapterConfig) (targetId : String) : FaultMode :=
  (cfg.faultModes.lookup targetId).getD .none

/-- `metadata.created_at` and the two tables. -/
structure AdapterStore where
  createdAt : String
  targetStates : List TargetStateRow
  commandReceipts : List ReceiptRow

namespace AdapterStore

/-- A store that has just been created. -/
def create (cfg : AdapterConfig) (rt : Runtime) (createdAt : String) : AdapterStore where
  createdAt := createdAt
  targetStates := cfg.inventory.map fun target =>
    let state := TargetState.initial target.1 target.2
    ⟨target.1, state, state.sha256 rt, createdAt⟩
  commandReceipts := []

def targetState (A : AdapterStore) (targetId : String) : Option TargetStateRow :=
  A.targetStates.find? fun r => r.targetId = targetId

def commandReceipt (A : AdapterStore) (idempotencyKey : String) : Option ReceiptRow :=
  A.commandReceipts.find? fun r => r.idempotencyKey = idempotencyKey

end AdapterStore

/-! ## §4 Validation -/

/-- `_validated_receipt_row(row, idempotency_key=row["idempotency_key"])` returns. -/
structure ReceiptRow.Valid (rt : Runtime) (row : ReceiptRow) : Prop where
  bindingSha256 : row.binding.sha256 rt = row.bindingSha256
  key : row.bindingSha256 = row.idempotencyKey
  receiptSize : (canonicalJson (.obj row.receipt.toDict)).length ≤ 16384
  receiptSha256 : row.receipt.sha256 rt = row.receiptSha256
  binding : row.binding.Valid rt
  receipt : row.receipt.PostInit rt
  receiptKey : row.receipt.idempotencyKey = row.idempotencyKey
  receiptBinding : row.receipt.bindingSha256 = row.bindingSha256
  requestId : row.receipt.requestId = row.requestId ∧ row.requestId = row.binding.requestId
  principalId : row.principalId = row.binding.principalId
  targetId : row.receipt.targetId = row.targetId ∧ row.targetId = row.binding.command.target
  decisionId : row.receipt.decisionId = row.binding.decisionId
  actionType : row.receipt.actionType = row.binding.command.type
  committedAt : rt.IsOffsetTimestamp row.committedAt ∧ row.committedAt = row.receipt.attemptedAt
  precondition : row.receipt.status ≠ .noEffect →
    row.receipt.stateBeforeSha256 = row.binding.targetStateSha256

instance (rt : Runtime) (row : ReceiptRow) : Decidable (row.Valid rt) :=
  decidable_of_iff (_ ∧ _ ∧ _ ∧ _ ∧ _ ∧ _ ∧ _ ∧ _ ∧ _ ∧ _ ∧ _ ∧ _ ∧ _ ∧ _ ∧ _)
    ⟨fun ⟨a, b, c, d, e, f, g, h, i, j, k, l, m, n, o⟩ =>
      ⟨a, b, c, d, e, f, g, h, i, j, k, l, m, n, o⟩,
     fun ⟨a, b, c, d, e, f, g, h, i, j, k, l, m, n, o⟩ =>
      ⟨a, b, c, d, e, f, g, h, i, j, k, l, m, n, o⟩⟩

/-- The digest of a target's state and the time it was reached. -/
structure ChainTip where
  stateSha256 : String
  updatedAt : String
  deriving DecidableEq, Repr

namespace AdapterStore

/-- `chained_state_sha256` and `chained_updated_at` before the first receipt. -/
def initialTip (cfg : AdapterConfig) (rt : Runtime) (A : AdapterStore) (targetId : String) :
    Option ChainTip :=
  (cfg.inventory.lookup targetId).map fun type =>
    ⟨(TargetState.initial targetId type).sha256 rt, A.createdAt⟩

/-- `current_state_sha256` and `current_updated_at`. -/
def currentTip (A : AdapterStore) (targetId : String) : Option ChainTip :=
  (A.targetState targetId).map fun row => ⟨row.stateSha256, row.updatedAt⟩

/-- One round of the loop over the receipts: `none` is the raise. -/
def chainStep (rt : Runtime) (tips : String → Option ChainTip) (row : ReceiptRow) :
    Option (String → Option ChainTip) :=
  match tips row.receipt.targetId with
  | none => none
  | some tip =>
    if row.receipt.stateBeforeSha256 = tip.stateSha256 ∧
        rt.AtMost tip.updatedAt row.receipt.attemptedAt then
      some (Function.update tips row.receipt.targetId
        (some ⟨row.receipt.stateAfterSha256, row.receipt.attemptedAt⟩))
    else none

/-- The checks on one row of `target_states`. -/
structure StateRowOk (cfg : AdapterConfig) (rt : Runtime) (row : TargetStateRow) : Prop where
  updatedAt : rt.IsOffsetTimestamp row.updatedAt
  stateSha256 : row.state.sha256 rt = row.stateSha256
  valid : row.state.Valid rt row.targetId
  targetType : cfg.inventory.lookup row.targetId = some row.state.targetType

/-- The schema and `_validate_metadata_and_inventory` accept the store. -/
structure Ok (cfg : AdapterConfig) (rt : Runtime) (A : AdapterStore) : Prop where
  createdAt : rt.IsOffsetTimestamp A.createdAt
  targetIds : (A.targetStates.map TargetStateRow.targetId).Nodup
  idempotencyKeys : (A.commandReceipts.map ReceiptRow.idempotencyKey).Nodup
  requests : (A.commandReceipts.map ReceiptRow.request).Nodup
  inventory : (∀ row ∈ A.targetStates, row.targetId ∈ cfg.inventory.map Prod.fst) ∧
    ∀ target ∈ cfg.inventory, target.1 ∈ A.targetStates.map TargetStateRow.targetId
  states : ∀ row ∈ A.targetStates, StateRowOk cfg rt row
  receipts : ∀ row ∈ A.commandReceipts, row.Valid rt
  chain : ∃ tips ∈ A.commandReceipts.foldlM (chainStep rt) (A.initialTip cfg rt),
    ∀ target ∈ cfg.inventory, tips target.1 = A.currentTip target.1

instance (cfg : AdapterConfig) (rt : Runtime) (row : TargetStateRow) :
    Decidable (StateRowOk cfg rt row) :=
  decidable_of_iff (_ ∧ _ ∧ _ ∧ _)
    ⟨fun ⟨a, b, c, d⟩ => ⟨a, b, c, d⟩, fun ⟨a, b, c, d⟩ => ⟨a, b, c, d⟩⟩

instance (cfg : AdapterConfig) (rt : Runtime) (A : AdapterStore) : Decidable (A.Ok cfg rt) :=
  decidable_of_iff (_ ∧ _ ∧ _ ∧ _ ∧ _ ∧ _ ∧ _ ∧ _)
    ⟨fun ⟨a, b, c, d, e, f, g, h⟩ => ⟨a, b, c, d, e, f, g, h⟩,
     fun ⟨a, b, c, d, e, f, g, h⟩ => ⟨a, b, c, d, e, f, g, h⟩⟩

/-! ## §5 Execution -/

/-- What a call returns or raises, with the store it leaves. -/
structure Outcome (α : Type) where
  result : Except AdapterError α
  store : AdapterStore

/-- The parameters of an isolation, where they have the exact shape. -/
def isolationParameters (parameters : Dict) : Option (Int × Bool) :=
  match parameters.get "duration_seconds", parameters.get "preserve_management" with
  | .int duration, .bool preserve =>
    if parameters.length = 2 ∧ 0 < duration then some (duration, preserve) else none
  | _, _ => none

/-- The state after a command, with what the adapter reports about it. -/
structure Transition where
  after : TargetState
  status : ReceiptStatus
  reportedSuccess : Bool
  message : String

/-- The synthetic mutation of `execute_once`. -/
def transition (cfg : AdapterConfig) (rt : Runtime) (binding : Binding) (attemptId : String)
    (executedAt : Int) (before : TargetState) : Except AdapterError Transition :=
  if before.sha256 rt ≠ binding.targetStateSha256 then
    .ok ⟨before, .noEffect, false, "Synthetic target precondition changed before mutation."⟩
  else if binding.command.type ≠ "NETWORK_ISOLATE" then
    .ok ⟨before, .noEffect, false, "Synthetic adapter does not implement the requested action."⟩
  else
    match isolationParameters binding.command.parameters with
    | none => .error .bindingInvalid
    | some (durationSeconds, preserveManagement) =>
      let isolated := { before with lastActionId := some attemptId, networkState := .isolated }
      match cfg.faultMode binding.command.target with
      | .failed =>
        .ok ⟨before, .noEffect, false, "Injected synthetic downstream failure; no state changed."⟩
      | .partialEffect =>
        .ok ⟨{ isolated with isolationExpiresAt := none }, .partialEffect, true,
          "Injected partial transition in the synthetic target."⟩
      | fault =>
        match Runtime.addSeconds rt executedAt durationSeconds with
        | none => .error .overflow
        | some expires =>
          let applied := { isolated with
            managementChannel := preserveManagement
            isolationExpiresAt := some (rt.isoformat (Runtime.truncate expires)) }
          if fault = .unexpectedEffect then
            .ok ⟨{ applied with serviceHealth := .degraded }, .ambiguous, true,
              "Synthetic action completed with an injected unexpected effect."⟩
          else
            .ok ⟨applied, .applied, true,
              "Synthetic network isolation applied by the durable offline adapter."⟩

/-- The receipt of a command. -/
def newReceipt (rt : Runtime) (receiptId : String) (binding : Binding) (attemptId : String)
    (attemptedAt : String) (before : TargetState) (t : Transition) : Receipt where
  schemaVersion := ADAPTER_RECEIPT_SCHEMA_VERSION
  receiptId := receiptId
  adapterId := SYNTHETIC_ADAPTER_ID
  adapterContractVersion := SYNTHETIC_ADAPTER_CONTRACT_VERSION
  adapterContractSha256 := syntheticAdapterContractSha256 rt
  executionMode := SYNTHETIC_EXECUTION_MODE
  idempotencyKey := binding.sha256 rt
  bindingSha256 := binding.sha256 rt
  attemptId := attemptId
  requestId := binding.requestId
  decisionId := binding.decisionId
  targetId := binding.command.target
  actionType := binding.command.type
  status := t.status
  attemptedAt := attemptedAt
  reportedSuccess := t.reportedSuccess
  message := t.message
  stateBeforeSha256 := before.sha256 rt
  stateAfterSha256 := t.after.sha256 rt

/-- `if not p: raise e`. -/
def require (p : Prop) [Decidable p] (e : AdapterError) : Except AdapterError Unit :=
  if p then .ok () else .error e

/-- The row that a command adds to `command_receipts`. -/
def receiptRow (rt : Runtime) (binding : Binding) (receipt : Receipt) : ReceiptRow where
  idempotencyKey := binding.sha256 rt
  principalId := binding.principalId
  requestId := binding.requestId
  binding := binding
  bindingSha256 := binding.sha256 rt
  receipt := receipt
  receiptSha256 := receipt.sha256 rt
  targetId := binding.command.target
  committedAt := receipt.attemptedAt

/-- The arguments of `execute_once`; `receiptId` is the identifier the call allocates. -/
structure ExecuteArgs where
  receiptId : String
  idempotencyKey : String
  binding : Binding
  attemptId : String
  attemptedAt : String

/-- The argument checks of `execute_once`: the instant of the execution. -/
def ExecuteArgs.check (rt : Runtime) (a : ExecuteArgs) : Except AdapterError Int := do
  require (a.binding.Valid rt) .bindingInvalid
  require (IsSha256 a.idempotencyKey) .bindingInvalid
  require (a.idempotencyKey = a.binding.sha256 rt) .idempotencyConflict
  require (IsIdentifier a.attemptId) .bindingInvalid
  require (IsIdentifier a.attemptedAt) .bindingInvalid
  match rt.fromisoformat a.attemptedAt with
  | some t => pure (Runtime.truncate t)
  | none => .error .bindingInvalid

/-- The transaction of `execute_once` on a store without the key. -/
def executeNew (cfg : AdapterConfig) (rt : Runtime) (a : ExecuteArgs) (executedAt : Int)
    (A : AdapterStore) : Except AdapterError (Receipt × AdapterStore) :=
  let attemptedAt := rt.isoformat executedAt
  match A.targetState a.binding.command.target with
  | none => .error .targetUnknown
  | some row => do
    require (rt.AtMost row.updatedAt attemptedAt) .timeInvalid
    let t ← transition cfg rt a.binding a.attemptId executedAt row.state
    let receipt := newReceipt rt a.receiptId a.binding a.attemptId attemptedAt row.state t
    require (∀ s ∈ receipt.identifiers, IsIdentifier s) .bindingInvalid
    require (receipt.PostInit rt) .receiptInvalid
    require ((canonicalJson (.obj receipt.toDict)).length ≤ 16384) .receiptInvalid
    -- `UNIQUE(principal_id, request_id)`
    require ((a.binding.principalId, a.binding.requestId) ∉
      A.commandReceipts.map ReceiptRow.request) .idempotencyConflict
    pure (receipt, { A with
      targetStates := updateWhere (fun r => r.targetId = a.binding.command.target)
        (fun r => ⟨r.targetId, t.after, t.after.sha256 rt, attemptedAt⟩) A.targetStates
      commandReceipts := A.commandReceipts ++ [receiptRow rt a.binding receipt] })

/-- The transaction of `execute_once`. -/
def executeBody (cfg : AdapterConfig) (rt : Runtime) (a : ExecuteArgs) (executedAt : Int)
    (A : AdapterStore) : Except AdapterError (Receipt × AdapterStore) :=
  match A.commandReceipt (a.binding.sha256 rt) with
  | some row => do
    require (canonicalJson (.obj row.binding.toDict) = canonicalJson (.obj a.binding.toDict))
      .idempotencyConflict
    pure (row.receipt, A)
  | none => executeNew cfg rt a executedAt A

/-- `execute_once(...)`: a raise rolls back. -/
def executeOnce (cfg : AdapterConfig) (rt : Runtime) (a : ExecuteArgs) (A : AdapterStore) :
    Outcome Receipt :=
  match (do
    let executedAt ← a.check rt
    require (A.Ok cfg rt) .corrupt
    executeBody cfg rt a executedAt A) with
  | .ok (receipt, A') => ⟨.ok receipt, A'⟩
  | .error e => ⟨.error e, A⟩

/-! ## §6 Reads -/

/-- `observe(target_id)`. -/
def observe (cfg : AdapterConfig) (rt : Runtime) (targetId : String) (A : AdapterStore) :
    Except AdapterError TargetState := do
  require (IsIdentifier targetId) .bindingInvalid
  require (A.Ok cfg rt) .corrupt
  match A.targetState targetId with
  | none => .error .targetUnknown
  | some row => pure row.state

/-- `receipt(idempotency_key)`. -/
def receipt (cfg : AdapterConfig) (rt : Runtime) (idempotencyKey : String) (A : AdapterStore) :
    Except AdapterError (Option Receipt) := do
  require (IsSha256 idempotencyKey) .bindingInvalid
  require (A.Ok cfg rt) .corrupt
  pure ((A.commandReceipt idempotencyKey).map ReceiptRow.receipt)

end AdapterStore

end DecisionFirewall.StageA
