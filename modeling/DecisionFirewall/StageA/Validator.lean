import DecisionFirewall.StageA.Ledger

/-!
# The Control-Ledger Validator

`_validate_control_relations` and `_validate_control_outbox_projection`. Each check
of the source is a conjunct here; the validator raises nothing exactly when all
hold, and every exception it raises leaves the ledger unusable
(`CONTROL_LEDGER_CORRUPT`), so the two functions are one decidable condition.

## Layout

- §1 one request row with the rows linked to it
- §2 rows without a request
- §3 the outbox as the projection of the durable transitions
- §4 the whole validator
-/

namespace DecisionFirewall.StageA

/-! ## §1 A request and the rows linked to it -/

namespace AuthorizationState

def consumedAt : AuthorizationState → Option String
  | .consumed c => some c
  | _ => none

/-- `terminal_auth_at`. -/
def endedAt : AuthorizationState → Option String
  | .issued => none
  | .consumed c => some c
  | .revoked r _ => some r

def revocationReason : AuthorizationState → Option String
  | .revoked _ reason => some reason
  | _ => none

/-- `state == "REVOKED"`, with the time of the revocation. -/
def revokedAt : AuthorizationState → Option String
  | .revoked r _ => some r
  | _ => none

end AuthorizationState

/-- `state in _TERMINAL_ATTEMPT_STATES`, with the state. -/
def AttemptState.effect : AttemptState → Option EffectState
  | .terminal e _ _ _ => some e
  | _ => none

/-- The rows the request loop selects for one request. -/
structure RequestGroup where
  authorizations : List AuthorizationRow
  attempts : List AttemptRow
  results : List ResultRow

def Ledger.group (L : Ledger) (k : RequestKey) : RequestGroup :=
  ⟨L.authorizationsOf k, L.attemptsOf k, L.resultsOf k⟩

/-- `coherent`: how many rows each request state may have, and in which state. -/
def LifecycleCoherent (state : RequestState) (g : RequestGroup) : Prop :=
  match state, g with
  | .claimed, ⟨[], [], []⟩ => True
  | .authorized, ⟨[a], [], []⟩ => a.state.consumedAt = none
  | .attemptReserved, ⟨[a], [t], []⟩ => a.state.consumedAt.isSome = true ∧ t.state.effect = none
  | .terminal, ⟨[], [], [_]⟩ => True
  | .terminal, ⟨[a], [], [_]⟩ => a.state.revokedAt.isSome = true
  | .terminal, ⟨[a], [t], [_]⟩ =>
    a.state.consumedAt.isSome = true ∧ t.state.effect.isSome = true
  | _, _ => False

instance (state : RequestState) (g : RequestGroup) : Decidable (LifecycleCoherent state g) := by
  unfold LifecycleCoherent
  split <;> infer_instance

section RowChecks

variable (rt : Runtime)

/-- The checks on the authorization of a request. -/
structure AuthorizationOk (r : RequestRow) (a : AuthorizationRow) (l : AuthorizationLink) :
    Prop where
  identifiers : IsIdentifier a.tokenId ∧ IsIdentifier a.verificationId ∧
    IsIdentifier a.decisionId ∧ IsIdentifier l.issuerInstanceId ∧ IsIdentifier l.keyDomainId
  digests : IsSha256 l.requestSha256 ∧ IsSha256 l.unsignedTokenSha256 ∧
    IsSha256 l.decisionAuthorizationSha256
  binding : l.key = r.key ∧ l.requestSha256 = r.requestSha256
  issued : rt.IsOffsetTimestamp a.issuedAt ∧ rt.AtMost r.claimedAt a.issuedAt ∧
    (r.state = .authorized → r.updatedAt = a.issuedAt)
  ended : ∀ t ∈ a.state.endedAt, rt.IsOffsetTimestamp t ∧ rt.AtMost a.issuedAt t
  reason : ∀ s ∈ a.state.revocationReason, IsIdentifier s

instance (r : RequestRow) (a : AuthorizationRow) (l : AuthorizationLink) :
    Decidable (AuthorizationOk rt r a l) :=
  decidable_of_iff (_ ∧ _ ∧ _ ∧ _ ∧ _ ∧ _)
    ⟨fun ⟨a, b, c, d, e, f⟩ => ⟨a, b, c, d, e, f⟩, fun ⟨a, b, c, d, e, f⟩ => ⟨a, b, c, d, e, f⟩⟩

/-- The checks on the attempt of a request with authorization `a`. -/
structure AttemptOk (r : RequestRow) (a : AuthorizationRow) (al : AuthorizationLink)
    (t : AttemptRow) (l : AttemptLink) : Prop where
  identifiers : IsIdentifier t.attemptId ∧ IsIdentifier t.tokenId
  digests : IsSha256 l.requestSha256 ∧ IsSha256 t.idempotencyKey ∧ IsSha256 t.bindingSha256
  binding : t.tokenId = a.tokenId ∧ l.key = r.key ∧ l.requestSha256 = r.requestSha256 ∧
    t.idempotencyKey = t.bindingSha256
  reserved : rt.IsOffsetTimestamp t.reservedAt ∧ a.state.consumedAt = some t.reservedAt ∧
    rt.AtMost a.issuedAt t.reservedAt ∧ (r.state = .attemptReserved → r.updatedAt = t.reservedAt)
  summaryIntegrity : (canonicalJson l.recoverySummary.toDict).length ≤ 16384 ∧
    rt.sha256Json l.recoverySummary.toDict = l.recoverySummarySha256 ∧
    l.recoverySummary.Valid rt
  summaryBinding : l.recoverySummary.principalId = r.principalId ∧
    l.recoverySummary.requestId = r.requestId ∧
    l.recoverySummary.requestSha256 = r.requestSha256 ∧
    l.recoverySummary.decisionId = a.decisionId ∧
    l.recoverySummary.decisionSha256 = al.decisionAuthorizationSha256 ∧
    l.recoverySummary.decisionOutcome.IsAllow ∧
    rt.AtMost r.claimedAt l.recoverySummary.decidedAt ∧
    rt.AtMost l.recoverySummary.decidedAt a.issuedAt
  outcome : ∀ s ∈ t.state.outcomeSha256, IsSha256 s
  receipt : ∀ s ∈ t.state.adapterReceiptSha256, IsSha256 s
  completed : ∀ c ∈ t.state.completedAt, rt.IsOffsetTimestamp c ∧ rt.AtMost t.reservedAt c

instance (r : RequestRow) (a : AuthorizationRow) (al : AuthorizationLink) (t : AttemptRow)
    (l : AttemptLink) : Decidable (AttemptOk rt r a al t l) :=
  decidable_of_iff (_ ∧ _ ∧ _ ∧ _ ∧ _ ∧ _ ∧ _ ∧ _ ∧ _)
    ⟨fun ⟨a, b, c, d, e, f, g, h, i⟩ => ⟨a, b, c, d, e, f, g, h, i⟩,
     fun ⟨a, b, c, d, e, f, g, h, i⟩ => ⟨a, b, c, d, e, f, g, h, i⟩⟩

/-- A result without an attempt: no authority is left, or only revoked authority. -/
def NonexecutingOk (auth : Option AuthorizationRow) (x : RequestLookupResult) : Prop :=
  x.attemptId = none ∧
    match auth with
    | some a => x.disposition = .abortedNoEffect ∧
        ∃ t ∈ a.state.revokedAt, rt.AtMost t x.terminalAt
    | none => x.disposition = .deniedNoEffect ∨ x.disposition = .abortedNoEffect

instance (auth : Option AuthorizationRow) (x : RequestLookupResult) :
    Decidable (NonexecutingOk rt auth x) := by
  unfold NonexecutingOk
  cases auth <;> infer_instance

/-- A result with an attempt: attempt, receipt, outcome digest and decision agree. -/
structure ExecutingOk (t : AttemptRow) (l : AttemptLink) (x : RequestLookupResult) : Prop where
  attempt : x.attemptId = some t.attemptId
  effect : ∃ e ∈ t.state.effect, x.disposition.effectState = some e ∧
    t.state.outcomeSha256 = some (terminalAttemptOutcomeSha256 rt x e)
  receipt : x.adapterReceiptSha256 = t.state.adapterReceiptSha256
  completed : t.state.completedAt = some x.terminalAt
  decision : x.decisionId = l.recoverySummary.decisionId ∧
    x.decisionOutcome = l.recoverySummary.decisionOutcome ∧
    x.decisionSha256 = l.recoverySummary.decisionSha256 ∧
    x.decisionContextSha256 = l.recoverySummary.decisionContextSha256 ∧
    x.policySha256 = l.recoverySummary.policySha256 ∧
    x.decidedAt = l.recoverySummary.decidedAt

instance (t : AttemptRow) (l : AttemptLink) (x : RequestLookupResult) :
    Decidable (ExecutingOk rt t l x) :=
  decidable_of_iff (_ ∧ _ ∧ _ ∧ _ ∧ _)
    ⟨fun ⟨a, b, c, d, e⟩ => ⟨a, b, c, d, e⟩, fun ⟨a, b, c, d, e⟩ => ⟨a, b, c, d, e⟩⟩

/-- The checks on the stored result of a request. -/
structure ResultOk (r : RequestRow) (x : ResultRow) : Prop where
  size : (canonicalJson x.result.toDict).length ≤ 32768
  integrity : rt.sha256Json x.result.toDict = x.resultSha256
  postInit : x.result.PostInit rt
  notReplayed : x.result.replayed = false
  binding : x.result.principalId = r.principalId ∧ x.result.requestId = r.requestId ∧
    x.result.requestSha256 = r.requestSha256
  terminal : x.terminalAt = x.result.terminalAt ∧ r.updatedAt = x.result.terminalAt

instance (r : RequestRow) (x : ResultRow) : Decidable (ResultOk rt r x) :=
  decidable_of_iff (_ ∧ _ ∧ _ ∧ _ ∧ _ ∧ _)
    ⟨fun ⟨a, b, c, d, e, f⟩ => ⟨a, b, c, d, e, f⟩, fun ⟨a, b, c, d, e, f⟩ => ⟨a, b, c, d, e, f⟩⟩

/-- One round of the request loop raises nothing. -/
structure RequestOk (r : RequestRow) (g : RequestGroup) : Prop where
  identifiers : IsIdentifier r.principalId ∧ IsIdentifier r.requestId ∧ IsSha256 r.requestSha256
  timestamps : rt.IsOffsetTimestamp r.claimedAt ∧ rt.IsOffsetTimestamp r.updatedAt ∧
    rt.AtMost r.claimedAt r.updatedAt
  coherent : LifecycleCoherent r.state g
  authorization : ∀ a ∈ g.authorizations, ∀ l ∈ a.link, AuthorizationOk rt r a l
  attempt : ∀ t ∈ g.attempts, ∀ l ∈ t.link, ∃ a ∈ g.authorizations, ∃ al ∈ a.link,
    AttemptOk rt r a al t l
  result : ∀ x ∈ g.results, ResultOk rt r x
  nonexecuting : g.attempts = [] → ∀ x ∈ g.results,
    NonexecutingOk rt g.authorizations.head? x.result
  executing : ∀ t ∈ g.attempts, ∀ l ∈ t.link, ∀ x ∈ g.results, ExecutingOk rt t l x.result

instance (r : RequestRow) (g : RequestGroup) : Decidable (RequestOk rt r g) :=
  decidable_of_iff (_ ∧ _ ∧ _ ∧ _ ∧ _ ∧ _ ∧ _ ∧ _)
    ⟨fun ⟨a, b, c, d, e, f, g, h⟩ => ⟨a, b, c, d, e, f, g, h⟩,
     fun ⟨a, b, c, d, e, f, g, h⟩ => ⟨a, b, c, d, e, f, g, h⟩⟩

/-! ## §2 Rows without a request -/

structure UnlinkedAuthorizationOk (a : AuthorizationRow) : Prop where
  identifiers : IsIdentifier a.tokenId ∧ IsIdentifier a.verificationId ∧ IsIdentifier a.decisionId
  issued : rt.IsOffsetTimestamp a.issuedAt
  ended : ∀ t ∈ a.state.endedAt, rt.IsOffsetTimestamp t ∧ rt.AtMost a.issuedAt t
  reason : ∀ s ∈ a.state.revocationReason, IsIdentifier s

instance (a : AuthorizationRow) : Decidable (UnlinkedAuthorizationOk rt a) :=
  decidable_of_iff (_ ∧ _ ∧ _ ∧ _)
    ⟨fun ⟨a, b, c, d⟩ => ⟨a, b, c, d⟩, fun ⟨a, b, c, d⟩ => ⟨a, b, c, d⟩⟩

structure UnlinkedAttemptOk (L : Ledger) (t : AttemptRow) : Prop where
  identifiers : IsIdentifier t.attemptId ∧ IsIdentifier t.tokenId
  digests : IsSha256 t.idempotencyKey ∧ IsSha256 t.bindingSha256
  authority : ∃ a ∈ L.authorizations, a.link = none ∧ a.tokenId = t.tokenId ∧
    a.state.consumedAt = some t.reservedAt ∧ rt.AtMost a.issuedAt t.reservedAt
  reserved : rt.IsOffsetTimestamp t.reservedAt
  outcome : ∀ s ∈ t.state.outcomeSha256, IsSha256 s
  receipt : ∀ s ∈ t.state.adapterReceiptSha256, IsSha256 s
  completed : ∀ c ∈ t.state.completedAt, rt.IsOffsetTimestamp c ∧ rt.AtMost t.reservedAt c

instance (L : Ledger) (t : AttemptRow) : Decidable (UnlinkedAttemptOk rt L t) :=
  decidable_of_iff (_ ∧ _ ∧ _ ∧ _ ∧ _ ∧ _ ∧ _)
    ⟨fun ⟨a, b, c, d, e, f, g⟩ => ⟨a, b, c, d, e, f, g⟩,
     fun ⟨a, b, c, d, e, f, g⟩ => ⟨a, b, c, d, e, f, g⟩⟩

end RowChecks

/-! ## §3 The outbox -/

/-- `_event_digest(event_type, subject_id, payload)`. -/
def eventDigest (rt : Runtime) (key : EventKey) (payload : Json) : String :=
  rt.sha256Json (.obj [
    ("event_type", .str key.eventType.text),
    ("subject_id", .str key.subjectId),
    ("payload", payload)])

/-- The payloads that the writers digest and the validator recomputes. -/
def requestClaimedPayload (requestSha256 : String) : Json :=
  .obj [("request_sha256", .str requestSha256)]

def authorizationIssuedPayload (rt : Runtime) (verificationId decisionId : String)
    (requestSha256 : Option String) : Json :=
  .obj [
    ("verification_id_sha256", .str (rt.sha256 verificationId)),
    ("decision_id_sha256", .str (rt.sha256 decisionId)),
    ("request_sha256", .ofOption requestSha256)]

def attemptReservedPayload (rt : Runtime) (tokenId bindingSha256 idempotencyKey : String) : Json :=
  .obj [
    ("token_id_sha256", .str (rt.sha256 tokenId)),
    ("binding_sha256", .str bindingSha256),
    ("idempotency_key", .str idempotencyKey)]

def authorizationConsumedPayload (attemptId : Option String) : Json :=
  .obj [("attempt_id", .ofOption attemptId)]

def adapterReceiptRecordedPayload (adapterReceiptSha256 receiptOutcomeSha256 : String) : Json :=
  .obj [
    ("adapter_receipt_sha256", .str adapterReceiptSha256),
    ("receipt_outcome_sha256", .str receiptOutcomeSha256)]

def attemptTerminalPayload (effect : EffectState) (outcomeSha256 : String)
    (adapterReceiptSha256 : Option String) : Json :=
  .obj [
    ("state", .str effect.text),
    ("outcome_sha256", .str outcomeSha256),
    ("adapter_receipt_sha256", .ofOption adapterReceiptSha256)]

def attemptRecoveredUnknownPayload : Json :=
  .obj [("state", .str "UNKNOWN_EFFECT")]

def authorizationRevokedPayload : Json :=
  .obj [("reason_code", .str "QUIESCED_RECOVERY")]

def requestTerminalPayload (resultSha256 : String) (disposition : Disposition) : Json :=
  .obj [
    ("result_sha256", .str resultSha256),
    ("disposition", .str disposition.text)]

/-- An entry of `expected`: `none` in the digest or time is not compared. -/
structure ExpectedEvent where
  key : EventKey
  digest : Option String
  createdAt : Option String
  required : Bool
  deriving DecidableEq, Repr

section Projection

variable (rt : Runtime)

/-- An entry whose payload and time are both fixed by the durable rows. -/
def exactEvent (key : EventKey) (payload : Json) (createdAt : String) : ExpectedEvent :=
  ⟨key, some (eventDigest rt key payload), some createdAt, true⟩

def requestEvents (r : RequestRow) : List ExpectedEvent :=
  [exactEvent rt ⟨.requestClaimed, r.key.subject⟩ (requestClaimedPayload r.requestSha256)
    r.claimedAt]

/-- `state == "UNKNOWN_EFFECT"` on an attempt without a request: its terminal event
may have been written by either of two recoveries. -/
def AttemptRow.UnlinkedUnknown (t : AttemptRow) : Prop :=
  t.link = none ∧ t.state.effect = some .unknownEffect

instance (t : AttemptRow) : Decidable t.UnlinkedUnknown :=
  inferInstanceAs (Decidable (_ ∧ _))

def attemptReservedEvent (t : AttemptRow) : ExpectedEvent :=
  exactEvent rt ⟨.attemptReserved, t.attemptId⟩
    (attemptReservedPayload rt t.tokenId t.bindingSha256 t.idempotencyKey) t.reservedAt

/-- The terminal events of an attempt in state `effect`. -/
def attemptTerminalEvents (t : AttemptRow) (effect : EffectState) (outcomeSha256 : String)
    (adapterReceiptSha256 : Option String) (completedAt : String) : List ExpectedEvent :=
  let terminal := exactEvent rt ⟨.attemptTerminal, t.attemptId⟩
    (attemptTerminalPayload effect outcomeSha256 adapterReceiptSha256) completedAt
  let recovered := exactEvent rt ⟨.attemptRecoveredUnknown, t.attemptId⟩
    attemptRecoveredUnknownPayload completedAt
  if t.UnlinkedUnknown then
    [{ terminal with required := false }, { recovered with required := false }]
  else [terminal]

def attemptEvents (t : AttemptRow) : List ExpectedEvent :=
  attemptReservedEvent rt t ::
    match t.state with
    | .reserved => []
    | .receiptRecorded outcome receipt =>
      [⟨⟨.adapterReceiptRecorded, t.attemptId⟩,
        some (eventDigest rt ⟨.adapterReceiptRecorded, t.attemptId⟩
          (adapterReceiptRecordedPayload receipt outcome)), none, true⟩]
    | .terminal effect outcome receipt completedAt =>
      (if receipt.isSome then
        [⟨⟨.adapterReceiptRecorded, t.attemptId⟩, none, none, effect ≠ .unknownEffect⟩]
      else []) ++ attemptTerminalEvents rt t effect outcome receipt completedAt

/-- `attempt_by_token.get(token_id)`. -/
def Ledger.attemptByToken (L : Ledger) (tokenId : String) : Option AttemptRow :=
  L.attempts.find? fun t => t.tokenId = tokenId

def authorizationEvents (L : Ledger) (a : AuthorizationRow) : List ExpectedEvent :=
  exactEvent rt ⟨.authorizationIssued, a.tokenId⟩
    (authorizationIssuedPayload rt a.verificationId a.decisionId
      (a.link.map AuthorizationLink.requestSha256)) a.issuedAt ::
    match a.state with
    | .issued => []
    | .consumed consumedAt =>
      [exactEvent rt ⟨.authorizationConsumed, a.tokenId⟩
        (authorizationConsumedPayload ((L.attemptByToken a.tokenId).map AttemptRow.attemptId))
        consumedAt]
    | .revoked revokedAt _ =>
      [exactEvent rt ⟨.authorizationRevoked, a.tokenId⟩ authorizationRevokedPayload revokedAt]

def resultEvents (x : ResultRow) : List ExpectedEvent :=
  [exactEvent rt ⟨.requestTerminal, x.key.subject⟩
    (requestTerminalPayload x.resultSha256 x.result.disposition) x.terminalAt]

/-- `expected`: every event the durable rows call for. -/
def expectedEvents (L : Ledger) : List ExpectedEvent :=
  L.requests.flatMap (requestEvents rt) ++ L.attempts.flatMap (attemptEvents rt) ++
    L.authorizations.flatMap (authorizationEvents rt L) ++
    L.requestResults.flatMap (resultEvents rt)

/-- `event_ids.get(key)`. -/
def Ledger.eventId (L : Ledger) (key : EventKey) : Option Nat :=
  (L.auditOutbox.find? fun o => o.key = key).map OutboxRow.eventId

/-- The first event, where both were written, has the smaller identifier. -/
def Ledger.EventBefore (L : Ledger) (first second : EventKey) : Prop :=
  ∀ i ∈ L.eventId first, ∀ j ∈ L.eventId second, i < j

instance (L : Ledger) (first second : EventKey) : Decidable (L.EventBefore first second) := by
  unfold Ledger.EventBefore
  infer_instance

/-- The order checks for one authorization. -/
structure AuthorizationOrderOk (L : Ledger) (a : AuthorizationRow) : Prop where
  claimed : ∀ k ∈ a.requestKey,
    L.EventBefore ⟨.requestClaimed, k.subject⟩ ⟨.authorizationIssued, a.tokenId⟩
  consumed : a.state.consumedAt.isSome = true →
    L.EventBefore ⟨.authorizationIssued, a.tokenId⟩ ⟨.authorizationConsumed, a.tokenId⟩ ∧
    ∀ t ∈ L.attemptByToken a.tokenId,
      L.EventBefore ⟨.attemptReserved, t.attemptId⟩ ⟨.authorizationConsumed, a.tokenId⟩
  revoked : a.state.revokedAt.isSome = true →
    L.EventBefore ⟨.authorizationIssued, a.tokenId⟩ ⟨.authorizationRevoked, a.tokenId⟩

instance (L : Ledger) (a : AuthorizationRow) : Decidable (AuthorizationOrderOk L a) :=
  decidable_of_iff (_ ∧ _ ∧ _)
    ⟨fun ⟨a, b, c⟩ => ⟨a, b, c⟩, fun ⟨a, b, c⟩ => ⟨a, b, c⟩⟩

/-- The order checks for one attempt; its terminal event has one of two types. -/
structure AttemptOrderOk (L : Ledger) (t : AttemptRow) : Prop where
  receipt : L.EventBefore ⟨.attemptReserved, t.attemptId⟩ ⟨.adapterReceiptRecorded, t.attemptId⟩
  terminal : ∀ e ∈ [EventType.attemptTerminal, .attemptRecoveredUnknown],
    L.EventBefore ⟨.attemptReserved, t.attemptId⟩ ⟨e, t.attemptId⟩ ∧
    L.EventBefore ⟨.adapterReceiptRecorded, t.attemptId⟩ ⟨e, t.attemptId⟩ ∧
    ∀ k ∈ t.requestKey, L.EventBefore ⟨e, t.attemptId⟩ ⟨.requestTerminal, k.subject⟩

instance (L : Ledger) (t : AttemptRow) : Decidable (AttemptOrderOk L t) :=
  decidable_of_iff (_ ∧ _) ⟨fun ⟨a, b⟩ => ⟨a, b⟩, fun ⟨a, b⟩ => ⟨a, b⟩⟩

/-- An outbox row repeats the expected entry of its key. -/
def OutboxRow.Matches (o : OutboxRow) (e : ExpectedEvent) : Prop :=
  e.key = o.key ∧ (∀ d ∈ e.digest, o.payloadSha256 = d) ∧ ∀ c ∈ e.createdAt, o.createdAt = c

instance (o : OutboxRow) (e : ExpectedEvent) : Decidable (o.Matches e) :=
  inferInstanceAs (Decidable (_ ∧ _ ∧ _))

/-- The time of a recorded receipt lies between reservation and completion. -/
def ReceiptChronologyOk (L : Ledger) (o : OutboxRow) : Prop :=
  o.eventType = .adapterReceiptRecorded → ∀ t ∈ L.attempts, t.attemptId = o.subjectId →
    rt.AtMost t.reservedAt o.createdAt ∧ ∀ c ∈ t.state.completedAt, rt.AtMost o.createdAt c

instance (L : Ledger) (o : OutboxRow) : Decidable (ReceiptChronologyOk rt L o) := by
  unfold ReceiptChronologyOk
  infer_instance

/-- `_validate_control_outbox_projection` raises nothing. -/
structure OutboxProjectionOk (L : Ledger) : Prop where
  expectedKeys : ((expectedEvents rt L).map ExpectedEvent.key).Nodup
  observedKeys : (L.auditOutbox.map OutboxRow.key).Nodup
  matched : ∀ o ∈ L.auditOutbox, ∃ e ∈ expectedEvents rt L, o.Matches e
  receiptChronology : ∀ o ∈ L.auditOutbox, ReceiptChronologyOk rt L o
  covered : ∀ e ∈ expectedEvents rt L, e.required = true →
    ∃ o ∈ L.auditOutbox, o.key = e.key
  unknownGroups : ∀ t ∈ L.attempts, t.UnlinkedUnknown →
    ((L.eventId ⟨.attemptTerminal, t.attemptId⟩).isSome ≠
      (L.eventId ⟨.attemptRecoveredUnknown, t.attemptId⟩).isSome)
  authorizationOrder : ∀ a ∈ L.authorizations, AuthorizationOrderOk L a
  requestOrder : ∀ r ∈ L.requests,
    L.EventBefore ⟨.requestClaimed, r.key.subject⟩ ⟨.requestTerminal, r.key.subject⟩
  attemptOrder : ∀ t ∈ L.attempts, AttemptOrderOk L t

instance (L : Ledger) : Decidable (OutboxProjectionOk rt L) :=
  decidable_of_iff (_ ∧ _ ∧ _ ∧ _ ∧ _ ∧ _ ∧ _ ∧ _ ∧ _)
    ⟨fun ⟨a, b, c, d, e, f, g, h, i⟩ => ⟨a, b, c, d, e, f, g, h, i⟩,
     fun ⟨a, b, c, d, e, f, g, h, i⟩ => ⟨a, b, c, d, e, f, g, h, i⟩⟩

/-! ## §4 The whole validator -/

/-- The checks on one outbox row by itself. -/
structure OutboxRowOk (o : OutboxRow) : Prop where
  subjectId : IsIdentifier o.subjectId
  payloadSha256 : IsSha256 o.payloadSha256
  createdAt : rt.IsOffsetTimestamp o.createdAt
  exportedAt : ∀ x ∈ o.exportedAt, rt.IsOffsetTimestamp x ∧ rt.AtMost o.createdAt x

instance (o : OutboxRow) : Decidable (OutboxRowOk rt o) :=
  decidable_of_iff (_ ∧ _ ∧ _ ∧ _)
    ⟨fun ⟨a, b, c, d⟩ => ⟨a, b, c, d⟩, fun ⟨a, b, c, d⟩ => ⟨a, b, c, d⟩⟩

/-- `_validate_control_relations` raises nothing. -/
structure ControlRelationsOk (L : Ledger) : Prop where
  requests : ∀ r ∈ L.requests, RequestOk rt r (L.group r.key)
  unlinkedAuthorizations : ∀ a ∈ L.authorizations, a.link = none → UnlinkedAuthorizationOk rt a
  unlinkedAttempts : ∀ t ∈ L.attempts, t.link = none → UnlinkedAttemptOk rt L t
  contiguous : L.auditOutbox.map OutboxRow.eventId = List.range' 1 L.auditOutbox.length
  sequence : L.sequence = L.auditOutbox.length
  outboxRows : ∀ o ∈ L.auditOutbox, OutboxRowOk rt o
  projection : OutboxProjectionOk rt L

instance (L : Ledger) : Decidable (ControlRelationsOk rt L) :=
  decidable_of_iff (_ ∧ _ ∧ _ ∧ _ ∧ _ ∧ _ ∧ _)
    ⟨fun ⟨a, b, c, d, e, f, g⟩ => ⟨a, b, c, d, e, f, g⟩,
     fun ⟨a, b, c, d, e, f, g⟩ => ⟨a, b, c, d, e, f, g⟩⟩

/-- A ledger that opens: SQLite's constraints hold and the validator accepts it. -/
structure Accepted (L : Ledger) : Prop where
  schema : L.SchemaOk
  relations : ControlRelationsOk rt L

theorem Accepted.empty : Accepted rt Ledger.empty := by
  refine ⟨.empty, ?_⟩
  constructor <;> simp [Ledger.empty]
  constructor <;> simp [expectedEvents]

end Projection

end DecisionFirewall.StageA
