import DecisionFirewall.StageA.Transaction

/-!
# The Writers of the Control Ledger

`claim_request`, `register`, `consume_once`, `record_adapter_receipt`,
`revoke_issued_for_request`, `complete_request` and the read
`lookup_request_result` of `SQLiteControlLedger`.

Each writer is its argument checks followed by a transaction. A default such as
`claimed_at or utc_now_iso()` is resolved by the caller: the text that is checked
and stored is the argument here.
-/

namespace DecisionFirewall.StageA

open Lib.Table (updateWhere)

/-! ## §1 claim_request -/

inductive ClaimOutcome where
  | new
  | duplicate
  | conflict
  deriving DecidableEq, Repr

section Claim

variable (rt : Runtime) (k : RequestKey) (requestSha256 claimedAt : String)

/-- The argument checks of `claim_request`. -/
def ClaimArgsOk : Prop :=
  IsIdentifier k.principalId ∧ IsIdentifier k.requestId ∧ IsSha256 requestSha256 ∧
    rt.IsOffsetTimestamp claimedAt

instance : Decidable (ClaimArgsOk rt k requestSha256 claimedAt) :=
  inferInstanceAs (Decidable (_ ∧ _ ∧ _ ∧ _))

def claimRequestBody (L : Ledger) : Except LedgerError (ClaimOutcome × Ledger) :=
  match L.request k with
  | some row => pure (if row.requestSha256 = requestSha256 then .duplicate else .conflict, L)
  | none => do
    let L ← L.insertRequest
      ⟨k.principalId, k.requestId, requestSha256, .claimed, claimedAt, claimedAt⟩
    let L ← L.insertOutbox rt ⟨.requestClaimed, k.subject⟩ (requestClaimedPayload requestSha256)
      claimedAt
    pure (.new, L)

/-- `claim_request(principal_id, request_id, request_sha256, claimed_at=...)`. -/
def claimRequest (L : Ledger) : Outcome ClaimOutcome :=
  checked L (require (ClaimArgsOk rt k requestSha256 claimedAt) .bindingInvalid) fun _ =>
    transaction rt L fun L =>
      onIntegrity .unavailable (claimRequestBody rt k requestSha256 claimedAt L)

end Claim

/-! ## §2 register -/

/-- The keyword arguments of `register`. -/
structure RegisterArgs where
  tokenId : String
  verificationId : Option String
  decisionId : Option String
  principalId : Option String
  requestId : Option String
  requestSha256 : Option String
  unsignedTokenSha256 : Option String
  issuerInstanceId : Option String
  keyDomainId : Option String
  decisionAuthorizationSha256 : Option String
  issuedAt : String
  deriving DecidableEq, Repr

/-- `value or default`: the empty text counts as absent. -/
def orDefault (value : Option String) (default : String) : String :=
  match value with
  | some s => if s = "" then default else s
  | none => default

/-- `linked`: some column of the link is given. -/
def RegisterArgs.Linked (a : RegisterArgs) : Prop :=
  ∃ v ∈ [a.principalId, a.requestId, a.requestSha256, a.unsignedTokenSha256,
    a.issuerInstanceId, a.keyDomainId, a.decisionAuthorizationSha256], v.isSome = true

instance (a : RegisterArgs) : Decidable a.Linked := by
  unfold RegisterArgs.Linked
  infer_instance

/-- `_require_identifier` on a nullable argument. -/
def requireIdentifier (value : Option String) : Except LedgerError String :=
  match value with
  | some s => do require (IsIdentifier s) .bindingInvalid; pure s
  | none => .error .bindingInvalid

/-- `_require_sha256` on a nullable argument. -/
def requireSha256 (value : Option String) : Except LedgerError String :=
  match value with
  | some s => do require (IsSha256 s) .bindingInvalid; pure s
  | none => .error .bindingInvalid

/-- The link that the checked arguments describe. -/
def RegisterArgs.toLink (a : RegisterArgs) : Except LedgerError (Option AuthorizationLink) :=
  if a.Linked then do
    let principalId ← requireIdentifier a.principalId
    let requestId ← requireIdentifier a.requestId
    let requestSha256 ← requireSha256 a.requestSha256
    let unsignedTokenSha256 ← requireSha256 a.unsignedTokenSha256
    let issuerInstanceId ← requireIdentifier a.issuerInstanceId
    let keyDomainId ← requireIdentifier a.keyDomainId
    let decisionAuthorizationSha256 ← requireSha256 a.decisionAuthorizationSha256
    pure (some ⟨principalId, requestId, requestSha256, unsignedTokenSha256, issuerInstanceId,
      keyDomainId, decisionAuthorizationSha256⟩)
  else pure none

/-- The row that the checked arguments ask for. -/
def RegisterArgs.toRow (rt : Runtime) (a : RegisterArgs) : Except LedgerError AuthorizationRow := do
  let verificationId := orDefault a.verificationId ("legacy:" ++ a.tokenId)
  let decisionId := orDefault a.decisionId ("legacy:" ++ a.tokenId)
  require (IsIdentifier a.tokenId) .bindingInvalid
  require (IsIdentifier verificationId) .bindingInvalid
  require (IsIdentifier decisionId) .bindingInvalid
  require (rt.IsOffsetTimestamp a.issuedAt) .bindingInvalid
  let link ← a.toLink
  pure ⟨a.tokenId, verificationId, decisionId, link, .issued, a.issuedAt⟩

/-- The request that a linked authorization may be registered for. -/
def RegistrableRequest (rt : Runtime) (L : Ledger) (a : AuthorizationRow)
    (l : AuthorizationLink) : Prop :=
  ∃ r ∈ L.request l.key, r.requestSha256 = l.requestSha256 ∧ r.state = .claimed ∧
    rt.AtMost r.updatedAt a.issuedAt

instance (rt : Runtime) (L : Ledger) (a : AuthorizationRow) (l : AuthorizationLink) :
    Decidable (RegistrableRequest rt L a l) := by
  unfold RegistrableRequest
  infer_instance

def registerBody (rt : Runtime) (a : AuthorizationRow) (L : Ledger) :
    Except LedgerError (Unit × Ledger) := do
  require (∀ l ∈ a.link, RegistrableRequest rt L a l) .authorizationRequestLinkInvalid
  let L ← L.insertAuthorization a
  let L := match a.link with
    | some l => L.updateRequests (fun r => r.key = l.key)
        (fun r => { r with state := .authorized, updatedAt := a.issuedAt })
    | none => L
  let L ← L.insertOutbox rt ⟨.authorizationIssued, a.tokenId⟩
    (authorizationIssuedPayload rt a.verificationId a.decisionId
      (a.link.map AuthorizationLink.requestSha256)) a.issuedAt
  pure ((), L)

/-- `register(token_id, ...)`. -/
def register (rt : Runtime) (args : RegisterArgs) (L : Ledger) : Outcome Unit :=
  checked L (args.toRow rt) fun a =>
    transaction rt L fun L =>
      onIntegrity
        (if a.tokenId ∈ L.authorizations.map AuthorizationRow.tokenId
          then .authorizationIdCollision else .authorizationDecisionReplay)
        (registerBody rt a L)

/-! ## §3 consume_once -/

/-- The keyword arguments of `consume_once`. -/
structure ConsumeArgs where
  tokenId : String
  attemptId : Option String
  attemptBindingSha256 : Option String
  consumedAt : Option String
  idempotencyKey : Option String
  recoverySummary : Option RecoverySummary
  deriving DecidableEq, Repr

/-- The attempt that the checked arguments ask for. -/
structure Reservation where
  attemptId : String
  bindingSha256 : String
  idempotencyKey : String
  deriving DecidableEq, Repr

def ConsumeArgs.toReservation (rt : Runtime) (a : ConsumeArgs) :
    Except LedgerError (Option Reservation) :=
  match a.attemptId, a.attemptBindingSha256 with
  | none, none => pure none
  | some attemptId, some bindingSha256 => do
    let idempotencyKey := orDefault a.idempotencyKey bindingSha256
    require (IsIdentifier attemptId) .bindingInvalid
    require (IsSha256 bindingSha256) .bindingInvalid
    require (IsSha256 idempotencyKey) .bindingInvalid
    require (∃ c ∈ a.consumedAt, IsIdentifier c) .bindingInvalid
    require (idempotencyKey = bindingSha256) .attemptIdempotencyConflict
    require (∀ s ∈ a.recoverySummary, s.Valid rt) .recoverySummaryInvalid
    pure (some ⟨attemptId, bindingSha256, idempotencyKey⟩)
  | _, _ => .error .bindingInvalid

/-- The recovery summary binds to the authorization it is stored for. -/
structure SummaryBinds (rt : Runtime) (L : Ledger) (a : AuthorizationRow)
    (l : AuthorizationLink) (s : RecoverySummary) (consumedAt : String) : Prop where
  principalId : s.principalId = l.principalId
  requestId : s.requestId = l.requestId
  requestSha256 : s.requestSha256 = l.requestSha256
  decisionId : s.decisionId = a.decisionId
  decisionSha256 : s.decisionSha256 = l.decisionAuthorizationSha256
  outcome : s.decisionOutcome.IsAllow
  afterClaim : ∃ r ∈ L.request l.key, rt.AtMost r.claimedAt s.decidedAt
  beforeIssue : rt.AtMost s.decidedAt a.issuedAt
  beforeConsumption : rt.AtMost s.decidedAt consumedAt

instance (rt : Runtime) (L : Ledger) (a : AuthorizationRow) (l : AuthorizationLink)
    (s : RecoverySummary) (consumedAt : String) :
    Decidable (SummaryBinds rt L a l s consumedAt) :=
  decidable_of_iff (_ ∧ _ ∧ _ ∧ _ ∧ _ ∧ _ ∧ _ ∧ _ ∧ _)
    ⟨fun ⟨a, b, c, d, e, f, g, h, i⟩ => ⟨a, b, c, d, e, f, g, h, i⟩,
     fun ⟨a, b, c, d, e, f, g, h, i⟩ => ⟨a, b, c, d, e, f, g, h, i⟩⟩

/-- The attempt row that a reservation inserts. -/
def reservedAttempt (rt : Runtime) (a : AuthorizationRow) (res : Reservation)
    (summary : Option RecoverySummary) (consumedAt : String) : AttemptRow where
  attemptId := res.attemptId
  tokenId := a.tokenId
  link := match a.link, summary with
    | some l, some s =>
      some ⟨l.principalId, l.requestId, l.requestSha256, s, rt.sha256Json s.toDict⟩
    | _, _ => none
  idempotencyKey := res.idempotencyKey
  bindingSha256 := res.bindingSha256
  state := .reserved
  reservedAt := consumedAt

/-- `state='AUTHORIZED'` and the request of the link. -/
def isAuthorizedRequest (l : AuthorizationLink) (r : RequestRow) : Bool :=
  r.key = l.key ∧ r.requestSha256 = l.requestSha256 ∧ r.state = .authorized

/-- The part of `consume_once` that reserves the attempt. -/
def reserveAttempt (rt : Runtime) (a : AuthorizationRow) (res : Reservation)
    (summary : Option RecoverySummary) (consumedAt : String) (L : Ledger) :
    Except LedgerError Ledger := do
  let t := reservedAttempt rt a res summary consumedAt
  let L ← L.insertAttempt t
  let L ← match a.link with
    | some l => do
      -- `updated_request.rowcount != 1`
      require ((L.requests.filter (isAuthorizedRequest l)).length = 1)
        .authorizationRequestLinkInvalid
      pure (L.updateRequests (isAuthorizedRequest l)
        (fun r => { r with state := .attemptReserved, updatedAt := consumedAt }))
    | none => pure L
  L.insertOutbox rt ⟨.attemptReserved, t.attemptId⟩
    (attemptReservedPayload rt t.tokenId t.bindingSha256 t.idempotencyKey) consumedAt

/-- The checks on the recovery summary of a linked or unlinked authorization. -/
def requireSummary (rt : Runtime) (L : Ledger) (a : AuthorizationRow)
    (reservation : Option Reservation) (summary : Option RecoverySummary) (consumedAt : String) :
    Except LedgerError Unit :=
  match a.link with
  | some l => do
    require (reservation.isSome = true ∧ summary.isSome = true) .authorizationRequestLinkInvalid
    require (∀ s ∈ summary, SummaryBinds rt L a l s consumedAt) .recoverySummaryInvalid
  | none => require (summary = none) .recoverySummaryInvalid

def consumeOnceBody (rt : Runtime) (tokenId : String) (reservation : Option Reservation)
    (summary : Option RecoverySummary) (consumedAt : String) (L : Ledger) :
    Except LedgerError (Unit × Ledger) :=
  match L.authorization tokenId with
  | none => .error .authorizationUnknown
  | some a => do
    require (a.state = .issued) .authorizationReplay
    require (rt.AtMost a.issuedAt consumedAt ∧
      ∀ l ∈ a.link, ∀ r ∈ L.request l.key, rt.AtMost r.updatedAt consumedAt)
      .authorizationTimeInvalid
    requireSummary rt L a reservation summary consumedAt
    let L ← match reservation with
      | some res => reserveAttempt rt a res summary consumedAt L
      | none => pure L
    let L := L.updateAuthorizations (fun b => b.tokenId = tokenId ∧ b.state = .issued)
      (.consumed consumedAt)
    let L ← L.insertOutbox rt ⟨.authorizationConsumed, tokenId⟩
      (authorizationConsumedPayload (reservation.map Reservation.attemptId)) consumedAt
    pure ((), L)

/-- The argument checks of `consume_once`. -/
def ConsumeArgs.check (rt : Runtime) (now : String) (a : ConsumeArgs) :
    Except LedgerError (Option Reservation × String) := do
  require (IsIdentifier a.tokenId) .bindingInvalid
  let reservation ← a.toReservation rt
  let consumedAt := orDefault a.consumedAt now
  require (rt.IsOffsetTimestamp consumedAt) .bindingInvalid
  pure (reservation, consumedAt)

/-- `consume_once(token_id, ...)`, called at time `now`. -/
def consumeOnce (rt : Runtime) (now : String) (args : ConsumeArgs) (L : Ledger) : Outcome Unit :=
  checked L (args.check rt now) fun (reservation, consumedAt) =>
    transaction rt L fun L =>
      onIntegrity .attemptIdempotencyConflict
        (consumeOnceBody rt args.tokenId reservation args.recoverySummary consumedAt L)

/-! ## §4 record_adapter_receipt -/

section Receipt

variable (rt : Runtime)
  (attemptId adapterReceiptSha256 receiptOutcomeSha256 recordedAt : String)

/-- The argument checks of `record_adapter_receipt`. -/
def ReceiptArgsOk : Prop :=
  IsIdentifier attemptId ∧ IsSha256 adapterReceiptSha256 ∧ IsSha256 receiptOutcomeSha256 ∧
    rt.IsOffsetTimestamp recordedAt

instance :
    Decidable (ReceiptArgsOk rt attemptId adapterReceiptSha256 receiptOutcomeSha256 recordedAt) :=
  inferInstanceAs (Decidable (_ ∧ _ ∧ _ ∧ _))

def recordAdapterReceiptBody (L : Ledger) : Except LedgerError (Unit × Ledger) :=
  match L.attempt attemptId with
  | none => .error .attemptUnknown
  | some t => do
    require (rt.AtMost t.reservedAt recordedAt) .bindingInvalid
    match t.state with
    | .receiptRecorded outcome receipt => do
      require (outcome = receiptOutcomeSha256 ∧ receipt = adapterReceiptSha256)
        .attemptOutcomeConflict
      pure ((), L)
    | .terminal _ _ _ _ => .error .attemptOutcomeConflict
    | .reserved => do
      let L := L.updateAttempts (fun u => u.attemptId = attemptId ∧ u.state = .reserved)
        (.receiptRecorded receiptOutcomeSha256 adapterReceiptSha256)
      let L ← L.insertOutbox rt ⟨.adapterReceiptRecorded, attemptId⟩
        (adapterReceiptRecordedPayload adapterReceiptSha256 receiptOutcomeSha256) recordedAt
      pure ((), L)

/-- `record_adapter_receipt(attempt_id, ...)`. -/
def recordAdapterReceipt (L : Ledger) : Outcome Unit :=
  checked L
    (require (ReceiptArgsOk rt attemptId adapterReceiptSha256 receiptOutcomeSha256 recordedAt)
      .bindingInvalid) fun _ =>
    transaction rt L fun L =>
      onIntegrity .unavailable
        (recordAdapterReceiptBody rt attemptId adapterReceiptSha256 receiptOutcomeSha256
          recordedAt L)

end Receipt

/-! ## §5 revoke_issued_for_request -/

section Revoke

variable (rt : Runtime) (k : RequestKey) (requestSha256 : String)
  (operatorAssertedQuiesced : Bool) (revokedAt : String)

/-- The argument checks of `revoke_issued_for_request`. -/
def checkRevokeArgs : Except LedgerError Unit := do
  require (operatorAssertedQuiesced = true) .recoveryQuiescenceRequired
  require (IsIdentifier k.principalId ∧ IsIdentifier k.requestId ∧ IsSha256 requestSha256 ∧
    rt.IsOffsetTimestamp revokedAt) .bindingInvalid

/-- The authorizations of a request that are still `ISSUED`. -/
def Ledger.issuedFor (L : Ledger) (k : RequestKey) (requestSha256 : String) :
    List AuthorizationRow :=
  L.authorizations.filter fun a =>
    (∃ l ∈ a.link, l.key = k ∧ l.requestSha256 = requestSha256) ∧ a.state = .issued

/-- One round of the loop over the selected rows. -/
def revokeAuthorization (L : Ledger) (a : AuthorizationRow) : Except LedgerError Ledger := do
  require (rt.AtMost a.issuedAt revokedAt) .authorizationTimeInvalid
  let L := L.updateAuthorizations (fun b => b.tokenId = a.tokenId ∧ b.state = .issued)
    (.revoked revokedAt "QUIESCED_RECOVERY")
  L.insertOutbox rt ⟨.authorizationRevoked, a.tokenId⟩ authorizationRevokedPayload revokedAt

def revokeIssuedBody (L : Ledger) : Except LedgerError (Nat × Ledger) := do
  let rows := L.issuedFor k requestSha256
  let L ← rows.foldlM (revokeAuthorization rt revokedAt) L
  pure (rows.length, L)

/-- `revoke_issued_for_request(principal_id, request_id, request_sha256, ...)`. -/
def revokeIssuedForRequest (L : Ledger) : Outcome Nat :=
  checked L (checkRevokeArgs rt k requestSha256 operatorAssertedQuiesced revokedAt) fun _ =>
    transaction rt L fun L =>
      onIntegrity .unavailable (revokeIssuedBody rt k requestSha256 revokedAt L)

end Revoke

/-! ## §6 complete_request -/

/-- The attempt half of a completion: `attempt_id` comes from the result. -/
structure AttemptCompletion where
  attemptId : String
  state : EffectState
  outcomeSha256 : String
  adapterReceiptSha256 : Option String
  deriving DecidableEq, Repr

/-- The keyword arguments of `complete_request`. -/
structure CompleteArgs where
  result : RequestLookupResult
  attemptState : Option EffectState
  attemptOutcomeSha256 : Option String
  adapterReceiptSha256 : Option String
  deriving DecidableEq, Repr

/-- The request key a result names. -/
def RequestLookupResult.key (x : RequestLookupResult) : RequestKey := ⟨x.principalId, x.requestId⟩

/-- The checks on a completion before the transaction. -/
def CompleteArgs.check (rt : Runtime) (a : CompleteArgs) :
    Except LedgerError (Option AttemptCompletion) := do
  let stored := a.result.stored
  -- `replace` runs `__post_init__` again
  require (stored.PostInit rt) .requestResultInvalid
  require ((canonicalJson stored.toDict).length ≤ 32768) .requestResultInvalid
  match stored.attemptId, a.attemptState, a.attemptOutcomeSha256 with
  | none, none, none => do
    require (stored.disposition = .deniedNoEffect ∨ stored.disposition = .abortedNoEffect)
      .requestResultBindingInvalid
    pure none
  | some attemptId, some state, some outcomeSha256 => do
    require (IsSha256 outcomeSha256) .bindingInvalid
    require (∀ s ∈ a.adapterReceiptSha256, IsSha256 s) .bindingInvalid
    require (outcomeSha256 = terminalAttemptOutcomeSha256 rt stored state)
      .requestResultBindingInvalid
    require (stored.disposition.effectState = some state) .requestResultBindingInvalid
    require (stored.adapterReceiptSha256 = a.adapterReceiptSha256) .requestResultBindingInvalid
    require (state ≠ .unknownEffect → a.adapterReceiptSha256.isSome = true)
      .requestResultBindingInvalid
    require (stored.disposition = .completedVerified →
      stored.verificationStatus = .verified ∧ stored.recoveryRequired = false)
      .requestResultBindingInvalid
    require (stored.disposition = .recoveryRequired ∨ stored.disposition = .unknownEffect →
      stored.recoveryRequired = true ∧ stored.verificationStatus ≠ .verified)
      .requestResultBindingInvalid
    pure (some ⟨attemptId, state, outcomeSha256, a.adapterReceiptSha256⟩)
  | _, _, _ => .error .requestResultBindingInvalid

/-- `attempts JOIN authorizations` for an attempt of a request. -/
structure JoinedAttempt where
  row : AttemptRow
  link : AttemptLink
  authorization : AuthorizationRow

/-- The `JOIN` on the token of an attempt with its link. -/
def Ledger.join (L : Ledger) (t : AttemptRow) : Option JoinedAttempt :=
  match t.link, L.authorization t.tokenId with
  | some l, some z => some ⟨t, l, z⟩
  | _, _ => none

/-- The attempt that a completion names, where it belongs to the request. -/
def Ledger.joinedAttempt (L : Ledger) (attemptId : String) (k : RequestKey)
    (requestSha256 : String) : Option JoinedAttempt :=
  match (L.attempt attemptId).bind L.join with
  | some j => if j.link.key = k ∧ j.link.requestSha256 = requestSha256 then some j else none
  | none => none

/-- The stored recovery summary is intact. -/
def SummaryIntegrityOk (rt : Runtime) (l : AttemptLink) : Prop :=
  (canonicalJson l.recoverySummary.toDict).length ≤ 16384 ∧
    rt.sha256Json l.recoverySummary.toDict = l.recoverySummarySha256 ∧ l.recoverySummary.Valid rt

instance (rt : Runtime) (l : AttemptLink) : Decidable (SummaryIntegrityOk rt l) :=
  inferInstanceAs (Decidable (_ ∧ _ ∧ _))

/-- The terminal result repeats the recovery summary of its attempt. -/
structure SummaryRepeats (j : JoinedAttempt) (x : RequestLookupResult) : Prop where
  principalId : j.link.recoverySummary.principalId = x.principalId
  requestId : j.link.recoverySummary.requestId = x.requestId
  requestSha256 : j.link.recoverySummary.requestSha256 = x.requestSha256
  authorizationDecision : j.link.recoverySummary.decisionId = j.authorization.decisionId
  decisionId : j.link.recoverySummary.decisionId = x.decisionId
  decisionOutcome : j.link.recoverySummary.decisionOutcome = x.decisionOutcome
  decisionSha256 : j.link.recoverySummary.decisionSha256 = x.decisionSha256
  decisionContextSha256 : j.link.recoverySummary.decisionContextSha256 = x.decisionContextSha256
  policySha256 : j.link.recoverySummary.policySha256 = x.policySha256
  decidedAt : j.link.recoverySummary.decidedAt = x.decidedAt

instance (j : JoinedAttempt) (x : RequestLookupResult) : Decidable (SummaryRepeats j x) :=
  decidable_of_iff (_ ∧ _ ∧ _ ∧ _ ∧ _ ∧ _ ∧ _ ∧ _ ∧ _ ∧ _)
    ⟨fun ⟨a, b, c, d, e, f, g, h, i, j⟩ => ⟨a, b, c, d, e, f, g, h, i, j⟩,
     fun ⟨a, b, c, d, e, f, g, h, i, j⟩ => ⟨a, b, c, d, e, f, g, h, i, j⟩⟩

section Complete

variable (rt : Runtime) (stored : RequestLookupResult)

/-- Selects the attempt of a completion and checks it against the result. -/
def selectAttempt (c : AttemptCompletion) (L : Ledger) : Except LedgerError JoinedAttempt :=
  match L.joinedAttempt c.attemptId stored.key stored.requestSha256 with
  | none => .error .attemptUnknown
  | some j => do
    require (rt.AtMost j.row.reservedAt stored.terminalAt) .requestResultBindingInvalid
    require (SummaryIntegrityOk rt j.link) .corrupt
    require (SummaryRepeats j stored) .requestResultBindingInvalid
    pure j

def selectAttempt? (completion : Option AttemptCompletion) (L : Ledger) :
    Except LedgerError (Option (AttemptCompletion × JoinedAttempt)) :=
  match completion with
  | none => pure none
  | some c => do
    let j ← selectAttempt rt stored c L
    pure (some (c, j))

/-- The branch for a request that is already `TERMINAL`: an exact repetition. -/
def repeatCompletion (attempt : Option (AttemptCompletion × JoinedAttempt)) (L : Ledger) :
    Except LedgerError (Unit × Ledger) := do
  require (∃ x ∈ (L.resultsOf stored.key).head?,
    x.resultSha256 = rt.sha256Json stored.toDict ∧ x.result.toDict.render = stored.toDict.render)
    .requestResultConflict
  require (∀ p ∈ attempt, p.2.row.state.effect = some p.1.state ∧
    p.2.row.state.outcomeSha256 = some p.1.outcomeSha256 ∧
    p.2.row.state.adapterReceiptSha256 = p.1.adapterReceiptSha256) .attemptOutcomeConflict
  pure ((), L)

/-- A result without an attempt leaves no live authority behind. -/
def NonexecutingCloseOk (L : Ledger) : Prop :=
  ∀ a ∈ (L.authorizationsOf stored.key).head?,
    stored.disposition ≠ .deniedNoEffect ∧
    (stored.disposition = .abortedNoEffect →
      ∃ t ∈ a.state.revokedAt, rt.AtMost t stored.terminalAt)

instance (L : Ledger) : Decidable (NonexecutingCloseOk rt stored L) := by
  unfold NonexecutingCloseOk
  infer_instance

/-- Closes the attempt: the terminal transition with its event, or its repetition. -/
def closeAttempt (c : AttemptCompletion) (j : JoinedAttempt) (L : Ledger) :
    Except LedgerError Ledger :=
  match j.row.state with
  | .terminal effect outcome receipt _ => do
    require (effect = c.state ∧ outcome = c.outcomeSha256 ∧
      (c.adapterReceiptSha256.isSome = true → receipt = c.adapterReceiptSha256))
      .attemptOutcomeConflict
    pure L
  | .reserved => do
    require (c.state = .unknownEffect ∧ c.adapterReceiptSha256 = none) .requestResultBindingInvalid
    terminate L
  | .receiptRecorded _ receipt => do
    require (c.adapterReceiptSha256 = some receipt) .requestResultBindingInvalid
    terminate L
where
  terminate (L : Ledger) : Except LedgerError Ledger :=
    (L.updateAttempts
      (fun t => t.attemptId = c.attemptId ∧ t.state.effect = none)
      (.terminal c.state c.outcomeSha256 c.adapterReceiptSha256 stored.terminalAt)).insertOutbox rt
      ⟨.attemptTerminal, c.attemptId⟩
      (attemptTerminalPayload c.state c.outcomeSha256 c.adapterReceiptSha256) stored.terminalAt

/-- The row `complete_request` inserts. -/
def storedResultRow : ResultRow :=
  ⟨stored.principalId, stored.requestId, stored, rt.sha256Json stored.toDict, stored.terminalAt⟩

/-- Stores the result, closes the request and writes the request's last event. -/
def storeResult (L : Ledger) : Except LedgerError (Unit × Ledger) := do
  let L ← L.insertResult (storedResultRow rt stored)
  let L := L.updateRequests (fun r => r.key = stored.key ∧ r.state ≠ .terminal)
    (fun r => { r with state := .terminal, updatedAt := stored.terminalAt })
  let L ← L.insertOutbox rt ⟨.requestTerminal, stored.key.subject⟩
    (requestTerminalPayload (rt.sha256Json stored.toDict) stored.disposition) stored.terminalAt
  pure ((), L)

def completeRequestBody (completion : Option AttemptCompletion) (L : Ledger) :
    Except LedgerError (Unit × Ledger) :=
  match L.request stored.key with
  | none => .error .requestResultBindingInvalid
  | some r => do
    require (r.requestSha256 = stored.requestSha256) .requestResultBindingInvalid
    require (rt.AtMost r.updatedAt stored.terminalAt) .requestResultBindingInvalid
    let attempt ← selectAttempt? rt stored completion L
    if r.state = .terminal then
      repeatCompletion rt stored attempt L
    else do
      require (completion.isSome = true → r.state = .attemptReserved) .requestResultBindingInvalid
      require (completion = none → r.state = .claimed ∨ r.state = .authorized)
        .requestResultBindingInvalid
      require (completion = none → NonexecutingCloseOk rt stored L) .requestResultBindingInvalid
      require (L.resultsOf stored.key = []) .corrupt
      let L ← match attempt with
        | some (c, j) => closeAttempt rt stored c j L
        | none => pure L
      storeResult rt stored L

end Complete

/-- `complete_request(result, ...)`. -/
def completeRequest (rt : Runtime) (args : CompleteArgs) (L : Ledger) : Outcome Unit :=
  checked L (args.check rt) fun completion =>
    transaction rt L fun L =>
      onIntegrity .requestResultConflict
        (completeRequestBody rt args.result.stored completion L)

/-! ## §7 lookup_request_result -/

section Lookup

variable (rt : Runtime) (k : RequestKey) (requestSha256 : String)

/-- A terminal result names the attempt that its request has. -/
def LookupAttemptNamed (x : RequestLookupResult) : Option String → Option JoinedAttempt → Prop
  | none, a => a.isNone = true ∧
      (x.disposition = .deniedNoEffect ∨ x.disposition = .abortedNoEffect)
  | some _, none => False
  | some i, some j => j.row.attemptId = i ∧ j.row.state.effect = x.disposition.effectState ∧
      j.row.state.adapterReceiptSha256 = x.adapterReceiptSha256

instance (x : RequestLookupResult) :
    (i : Option String) → (a : Option JoinedAttempt) → Decidable (LookupAttemptNamed x i a)
  | none, _ => inferInstanceAs (Decidable (_ ∧ _))
  | some _, none => inferInstanceAs (Decidable False)
  | some _, some _ => inferInstanceAs (Decidable (_ ∧ _ ∧ _))

/-- The checks on a terminal result against its attempt. -/
def LookupAttemptOk (attempt : Option JoinedAttempt) (x : RequestLookupResult) : Prop :=
  LookupAttemptNamed x x.attemptId attempt ∧
    ∀ j ∈ attempt, j.row.state.completedAt = some x.terminalAt ∧
      (∃ e ∈ x.disposition.effectState,
        j.row.state.outcomeSha256 = some (terminalAttemptOutcomeSha256 rt x e)) ∧
      SummaryIntegrityOk rt j.link ∧ SummaryRepeats j x

instance (attempt : Option JoinedAttempt) (x : RequestLookupResult) :
    Decidable (LookupAttemptOk rt attempt x) :=
  inferInstanceAs (Decidable (_ ∧ _))

/-- The checks on the stored row itself. -/
def LookupResultOk (x : ResultRow) : Prop :=
  (canonicalJson x.result.toDict).length ≤ 32768 ∧
    rt.sha256Json x.result.toDict = x.resultSha256 ∧ x.result.PostInit rt ∧
    x.result.key = k ∧ x.result.requestSha256 = requestSha256 ∧ x.terminalAt = x.result.terminalAt

instance (x : ResultRow) : Decidable (LookupResultOk rt k requestSha256 x) :=
  inferInstanceAs (Decidable (_ ∧ _ ∧ _ ∧ _ ∧ _ ∧ _))

/-- `lookup_request_result(principal_id, request_id, request_sha256)`. -/
def lookupRequestResult (L : Ledger) : Except LedgerError (Option RequestLookupResult) := do
  require (IsIdentifier k.principalId ∧ IsIdentifier k.requestId ∧ IsSha256 requestSha256)
    .bindingInvalid
  -- `_connect` validates the ledger
  require (ControlRelationsOk rt L) .corrupt
  match L.request k with
  | none => pure none
  | some r => do
    require (r.requestSha256 = requestSha256) .requestIdConflict
    if r.state ≠ .terminal then pure none
    else
      match (L.resultsOf k).head? with
      | none => .error .corrupt
      | some x => do
        require (LookupResultOk rt k requestSha256 x) .corrupt
        require (LookupAttemptOk rt ((L.attemptsOf k).head?.bind L.join) x.result) .corrupt
        require (x.result.disposition = .completedVerified →
          x.result.verificationStatus = .verified ∧ x.result.recoveryRequired = false) .corrupt
        require (x.result.disposition = .recoveryRequired ∨
            x.result.disposition = .unknownEffect →
          x.result.recoveryRequired = true ∧ x.result.verificationStatus ≠ .verified) .corrupt
        pure (some x.result.asReplay)

end Lookup

end DecisionFirewall.StageA
