import DecisionFirewall.StageA.UnlinkedRuns

/-!
# The In-Memory Ledger

`InMemoryControlLedger` of `stage_a.py`, the compatibility ledger of the simulation:
dictionaries under a lock, with no link to requests, no order of times and no
validator. A method raises before it writes, so that a raise leaves the ledger.

- §1 the dictionaries
- §2 the methods
- §3 the calls that both ledgers offer
-/

namespace DecisionFirewall.StageA

open Lib.Table (updateWhere)

/-! ## §1 The dictionaries -/

/-- The states of `_authorization_states`. -/
inductive TokenStatus where
  | issued
  | consumed
  | revoked
  deriving DecidableEq, Repr

/-- The states of an attempt, without its columns. -/
inductive AttemptStatus where
  | reserved
  | receiptRecorded
  | terminal (effect : EffectState)
  deriving DecidableEq, Repr

/-- A value of `_attempts`. -/
structure MemoryAttempt where
  attemptId : String
  tokenId : String
  bindingSha256 : String
  state : AttemptStatus
  outcomeSha256 : Option String
  adapterReceiptSha256 : Option String
  reservedAt : String
  completedAt : Option String
  deriving DecidableEq, Repr

/-- The fields of `InMemoryControlLedger`: dictionaries in insertion order, sets as lists,
and the type, the subject and the digest of each event. -/
structure MemoryLedger where
  requests : List (RequestKey × String)
  authorizationStates : List (String × TokenStatus)
  verificationIds : List String
  decisionIds : List String
  attempts : List MemoryAttempt
  tokenAttempts : List (String × String)
  outbox : List (EventKey × String)
  deriving DecidableEq, Repr

namespace MemoryLedger

def empty : MemoryLedger := ⟨[], [], [], [], [], [], []⟩

section Methods

variable (rt : Runtime) (M : MemoryLedger)

/-- `_attempts.get(attempt_id)`. -/
def attempt (attemptId : String) : Option MemoryAttempt :=
  M.attempts.find? fun row => row.attemptId = attemptId

/-- `_append_event`. -/
def appendEvent (key : EventKey) (payload : Json) : MemoryLedger :=
  { M with outbox := M.outbox ++ [(key, eventDigest rt key payload)] }

/-- `_authorization_states[token_id] = status` for a token of the dictionary. -/
def setToken (tokenId : String) (status : TokenStatus) : MemoryLedger :=
  { M with authorizationStates :=
      updateWhere (fun z => z.1 = tokenId) (fun z => (z.1, status)) M.authorizationStates }

/-- `row.update(…)` for the row of an attempt. -/
def setAttempt (attemptId : String) (f : MemoryAttempt → MemoryAttempt) : MemoryLedger :=
  { M with attempts := updateWhere (fun row => row.attemptId = attemptId) f M.attempts }

/-! ## §2 The methods -/

/-- `claim_request(principal_id, request_id, request_sha256, claimed_at=…)`. -/
def claimRequest (k : RequestKey) (requestSha256 : String) (claimedAt : Option String) :
    Except LedgerError (ClaimOutcome × MemoryLedger) := do
  require (IsIdentifier k.principalId ∧ IsIdentifier k.requestId ∧ IsSha256 requestSha256)
    .bindingInvalid
  require (∀ t ∈ claimedAt, rt.IsOffsetTimestamp t) .bindingInvalid
  match M.requests.lookup k with
  | some existing => pure (if existing = requestSha256 then .duplicate else .conflict, M)
  | none =>
    let M := { M with requests := M.requests ++ [(k, requestSha256)] }
    pure (.new, M.appendEvent rt ⟨.requestClaimed, k.subject⟩ (requestClaimedPayload requestSha256))

/-- The issued event, without a request. -/
def issuedPayload (verificationId decisionId : String) : Json :=
  .obj [("verification_id_sha256", .str (rt.sha256 verificationId)),
    ("decision_id_sha256", .str (rt.sha256 decisionId))]

/-- `register(token_id, …)`: the columns of a link are ignored. -/
def register (tokenId : String) (verificationId decisionId issuedAt : Option String) :
    Except LedgerError (Unit × MemoryLedger) := do
  let verificationId := orDefault verificationId ("legacy:" ++ tokenId)
  let decisionId := orDefault decisionId ("legacy:" ++ tokenId)
  require (IsIdentifier tokenId ∧ IsIdentifier verificationId ∧ IsIdentifier decisionId)
    .bindingInvalid
  require (∀ t ∈ issuedAt, rt.IsOffsetTimestamp t) .bindingInvalid
  require (tokenId ∉ M.authorizationStates.map Prod.fst) .authorizationIdCollision
  require (verificationId ∉ M.verificationIds ∧ decisionId ∉ M.decisionIds)
    .authorizationDecisionReplay
  let M := { M with
    authorizationStates := M.authorizationStates ++ [(tokenId, TokenStatus.issued)]
    verificationIds := M.verificationIds ++ [verificationId]
    decisionIds := M.decisionIds ++ [decisionId] }
  pure ((), M.appendEvent rt ⟨.authorizationIssued, tokenId⟩
    (issuedPayload rt verificationId decisionId))

/-- The checks of `consume_once` before the lock: without an attempt neither the time nor the
summary is read. -/
def checkConsume (a : ConsumeArgs) : Except LedgerError (Option (Reservation × String)) := do
  require (IsIdentifier a.tokenId) .bindingInvalid
  match a.attemptId, a.attemptBindingSha256 with
  | none, none => pure none
  | some attemptId, some bindingSha256 => do
    let idempotencyKey := orDefault a.idempotencyKey bindingSha256
    require (IsIdentifier attemptId) .bindingInvalid
    require (IsSha256 bindingSha256) .bindingInvalid
    require (IsSha256 idempotencyKey) .bindingInvalid
    require (idempotencyKey = bindingSha256) .attemptIdempotencyConflict
    require (∃ c ∈ a.consumedAt, rt.IsOffsetTimestamp c) .bindingInvalid
    require (∀ s ∈ a.recoverySummary, s.Valid rt) .recoverySummaryInvalid
    pure (some (⟨attemptId, bindingSha256, idempotencyKey⟩, a.consumedAt.getD ""))
  | _, _ => .error .bindingInvalid

/-- The row of a reserved attempt. -/
def reservedRow (tokenId : String) (res : Reservation) (consumedAt : String) : MemoryAttempt :=
  ⟨res.attemptId, tokenId, res.bindingSha256, .reserved, none, none, consumedAt, none⟩

/-- The part of `consume_once` that reserves the attempt. -/
def reserve (tokenId : String) (res : Reservation) (consumedAt : String) :
    Except LedgerError MemoryLedger := do
  require (res.attemptId ∉ M.attempts.map MemoryAttempt.attemptId ∧
    tokenId ∉ M.tokenAttempts.map Prod.fst) .attemptIdempotencyConflict
  let M := { M with
    attempts := M.attempts ++ [reservedRow tokenId res consumedAt]
    tokenAttempts := M.tokenAttempts ++ [(tokenId, res.attemptId)] }
  pure (M.appendEvent rt ⟨.attemptReserved, res.attemptId⟩
    (.obj [("token_id_sha256", .str (rt.sha256 tokenId)),
      ("binding_sha256", .str res.bindingSha256)]))

/-- `consume_once(token_id, …)`. -/
def consumeOnce (a : ConsumeArgs) : Except LedgerError (Unit × MemoryLedger) := do
  let reservation ← checkConsume rt a
  match M.authorizationStates.lookup a.tokenId with
  | none => .error .authorizationUnknown
  | some status => do
    require (status = .issued) .authorizationReplay
    let M ← match reservation with
      | some (res, consumedAt) => M.reserve rt a.tokenId res consumedAt
      | none => pure M
    pure ((), (M.setToken a.tokenId .consumed).appendEvent rt ⟨.authorizationConsumed, a.tokenId⟩
      (authorizationConsumedPayload a.attemptId))

/-- `record_adapter_receipt(attempt_id, …)`. -/
def recordAdapterReceipt (attemptId adapterReceiptSha256 receiptOutcomeSha256 recordedAt : String) :
    Except LedgerError (Unit × MemoryLedger) := do
  require (IsIdentifier attemptId ∧ IsSha256 adapterReceiptSha256 ∧
    IsSha256 receiptOutcomeSha256 ∧ IsIdentifier recordedAt) .bindingInvalid
  match M.attempt attemptId with
  | none => .error .attemptOutcomeConflict
  | some row => do
    require (row.state = .reserved) .attemptOutcomeConflict
    let M := M.setAttempt attemptId fun row => { row with
      state := .receiptRecorded
      outcomeSha256 := some receiptOutcomeSha256
      adapterReceiptSha256 := some adapterReceiptSha256 }
    pure ((), M.appendEvent rt ⟨.adapterReceiptRecorded, attemptId⟩
      (.obj [("adapter_receipt_sha256", .str adapterReceiptSha256)]))

/-- `record_attempt_outcome(attempt_id, …)`, which knows no adapter receipt. -/
def recordAttemptOutcome (attemptId : String) (outcomeState : EffectState)
    (outcomeSha256 completedAt : String) : Except LedgerError (Unit × MemoryLedger) := do
  require (IsIdentifier attemptId ∧ IsSha256 outcomeSha256 ∧ IsIdentifier completedAt)
    .bindingInvalid
  match M.attempt attemptId with
  | none => .error .attemptUnknown
  | some row =>
    match row.state with
    | .terminal effect => do
      require (effect = outcomeState ∧ row.outcomeSha256 = some outcomeSha256)
        .attemptOutcomeConflict
      pure ((), M)
    | _ =>
      let M := M.setAttempt attemptId fun row => { row with
        state := .terminal outcomeState
        outcomeSha256 := some outcomeSha256
        completedAt := some completedAt }
      pure ((), M.appendEvent rt ⟨.attemptTerminal, attemptId⟩
        (.obj [("state", .str outcomeState.text), ("outcome_sha256", .str outcomeSha256)]))

/-- One round of the loop over `_attempts`: only reserved attempts are recovered. `clock` is
the reading of `utc_now_iso()` at the attempt. -/
def recoverAttempt (clock : String → String) (row : MemoryAttempt) : MemoryAttempt :=
  if row.state = .reserved then
    { row with
      state := .terminal .unknownEffect
      outcomeSha256 := some (recoveredOutcomeSha256 rt row.attemptId)
      completedAt := some (clock row.attemptId) }
  else row

/-- One round of the loop over `_authorization_states`. -/
def revokeToken (z : String × TokenStatus) : String × TokenStatus :=
  if z.2 = .issued then (z.1, .revoked) else z

/-- The events of the two loops. -/
def recoveryEvents : List (EventKey × Json) :=
  (M.attempts.filter fun row => row.state = .reserved).map
      (fun row => (⟨.attemptRecoveredUnknown, row.attemptId⟩, attemptRecoveredUnknownPayload)) ++
    (M.authorizationStates.filter fun z => z.2 = .issued).map
      fun z => (⟨.authorizationRevoked, z.1⟩, authorizationRevokedPayload)

/-- `recover_incomplete_attempts(operator_asserted_quiesced=…)`. -/
def recoverIncompleteAttempts (operatorAssertedQuiesced : Bool) (clock : String → String) :
    Except LedgerError (Nat × MemoryLedger) := do
  require (operatorAssertedQuiesced = true) .recoveryQuiescenceRequired
  let recovered := { M with
    attempts := M.attempts.map (recoverAttempt rt clock)
    authorizationStates := M.authorizationStates.map revokeToken }
  pure ((M.attempts.filter fun row => row.state = .reserved).length,
    M.recoveryEvents.foldl (fun N event => N.appendEvent rt event.1 event.2) recovered)

end Methods

end MemoryLedger

/-! ## §3 The calls that both ledgers offer -/

/-- What a caller sees of a call, but for the reason of a refusal. -/
inductive Answer where
  | claimed (outcome : ClaimOutcome)
  | done
  | recovered (count : Nat)
  | refused
  deriving DecidableEq, Repr

namespace SharedCall

/-- A method's answer, and the ledger it leaves. -/
def settle {α : Type} (M : MemoryLedger) (answer : α → Answer) :
    Except LedgerError (α × MemoryLedger) → Answer × MemoryLedger
  | .ok (a, M') => (answer a, M')
  | .error _ => (.refused, M)

end SharedCall

end DecisionFirewall.StageA
