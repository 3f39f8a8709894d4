import DecisionFirewall.Lib.Table
import DecisionFirewall.StageA.Result

/-!
# The Control Ledger

The tables of `_CONTROL_SCHEMA_SQL`. A `CHECK` that ties several columns of a row
together is built into the row's type:

- an authorization carries `consumed_at` exactly when it is `CONSUMED`, and
  `revoked_at` with its reason exactly when it is `REVOKED`;
- the request link of an authorization or attempt is all there or all `NULL`;
- an attempt's digests and `completed_at` follow its state.

The constraints between rows (`PRIMARY KEY`, `UNIQUE`, `FOREIGN KEY`) are
`Ledger.SchemaOk`; SQLite holds them in every state it commits.
-/

namespace DecisionFirewall.StageA

/-! ## §1 Rows -/

/-- The primary key of `requests`. -/
structure RequestKey where
  principalId : String
  requestId : String
  deriving DecidableEq, Repr

/-- `f"{principal_id}:{request_id}"`. -/
def RequestKey.subject (k : RequestKey) : String :=
  k.principalId ++ ":" ++ k.requestId

theorem RequestKey.length_subject (k : RequestKey) :
    k.subject.length = k.principalId.length + 1 + k.requestId.length := by
  simp only [subject, String.length_append]
  rfl

/-- `_REQUEST_STATES`. -/
inductive RequestState where
  | claimed
  | authorized
  | attemptReserved
  | terminal
  deriving DecidableEq, Repr

structure RequestRow where
  principalId : String
  requestId : String
  requestSha256 : String
  state : RequestState
  claimedAt : String
  updatedAt : String
  deriving DecidableEq, Repr

def RequestRow.key (r : RequestRow) : RequestKey := ⟨r.principalId, r.requestId⟩

/-- The columns of an authorization that are `NULL` together. -/
structure AuthorizationLink where
  principalId : String
  requestId : String
  requestSha256 : String
  unsignedTokenSha256 : String
  issuerInstanceId : String
  keyDomainId : String
  decisionAuthorizationSha256 : String
  deriving DecidableEq, Repr

def AuthorizationLink.key (l : AuthorizationLink) : RequestKey := ⟨l.principalId, l.requestId⟩

/-- `_AUTHORIZATION_STATES` with the columns each state fills. -/
inductive AuthorizationState where
  | issued
  | consumed (consumedAt : String)
  | revoked (revokedAt revocationReason : String)
  deriving DecidableEq, Repr

structure AuthorizationRow where
  tokenId : String
  verificationId : String
  decisionId : String
  link : Option AuthorizationLink
  state : AuthorizationState
  issuedAt : String
  deriving DecidableEq, Repr

def AuthorizationRow.requestKey (a : AuthorizationRow) : Option RequestKey :=
  a.link.map AuthorizationLink.key

/-- The columns of an attempt that are `NULL` together. -/
structure AttemptLink where
  principalId : String
  requestId : String
  requestSha256 : String
  recoverySummary : RecoverySummary
  recoverySummarySha256 : String
  deriving DecidableEq, Repr

def AttemptLink.key (l : AttemptLink) : RequestKey := ⟨l.principalId, l.requestId⟩

/-- `_ATTEMPT_STATES` with the columns each state fills. Only `UNKNOWN_EFFECT` may
lack a receipt digest (`AttemptState.CheckOk`). -/
inductive AttemptState where
  | reserved
  | receiptRecorded (outcomeSha256 adapterReceiptSha256 : String)
  | terminal (effect : EffectState) (outcomeSha256 : String)
      (adapterReceiptSha256 : Option String) (completedAt : String)
  deriving DecidableEq, Repr

namespace AttemptState

def outcomeSha256 : AttemptState → Option String
  | .reserved => none
  | .receiptRecorded o _ => some o
  | .terminal _ o _ _ => some o

def adapterReceiptSha256 : AttemptState → Option String
  | .reserved => none
  | .receiptRecorded _ r => some r
  | .terminal _ _ r _ => r

def completedAt : AttemptState → Option String
  | .reserved => none
  | .receiptRecorded _ _ => none
  | .terminal _ _ _ c => some c

/-- The part of the `CHECK` on `attempts` that the constructors do not force. -/
def CheckOk : AttemptState → Prop
  | .terminal e _ r _ => e ≠ .unknownEffect → r.isSome = true
  | _ => True

instance (s : AttemptState) : Decidable s.CheckOk := by
  cases s <;> unfold CheckOk <;> infer_instance

end AttemptState

structure AttemptRow where
  attemptId : String
  tokenId : String
  link : Option AttemptLink
  idempotencyKey : String
  bindingSha256 : String
  state : AttemptState
  reservedAt : String
  deriving DecidableEq, Repr

def AttemptRow.requestKey (a : AttemptRow) : Option RequestKey :=
  a.link.map AttemptLink.key

structure ResultRow where
  principalId : String
  requestId : String
  result : RequestLookupResult
  resultSha256 : String
  terminalAt : String
  deriving DecidableEq, Repr

def ResultRow.key (r : ResultRow) : RequestKey := ⟨r.principalId, r.requestId⟩

/-- The event types of `audit_outbox`. -/
inductive EventType where
  | requestClaimed
  | authorizationIssued
  | attemptReserved
  | authorizationConsumed
  | adapterReceiptRecorded
  | attemptTerminal
  | attemptRecoveredUnknown
  | authorizationRevoked
  | requestTerminal
  deriving DecidableEq, Repr

def EventType.text : EventType → String
  | .requestClaimed => "REQUEST_CLAIMED"
  | .authorizationIssued => "AUTHORIZATION_ISSUED"
  | .attemptReserved => "ATTEMPT_RESERVED"
  | .authorizationConsumed => "AUTHORIZATION_CONSUMED"
  | .adapterReceiptRecorded => "ADAPTER_RECEIPT_RECORDED"
  | .attemptTerminal => "ATTEMPT_TERMINAL"
  | .attemptRecoveredUnknown => "ATTEMPT_RECOVERED_UNKNOWN"
  | .authorizationRevoked => "AUTHORIZATION_REVOKED"
  | .requestTerminal => "REQUEST_TERMINAL"

/-- What an outbox row is about: its type and subject. -/
structure EventKey where
  eventType : EventType
  subjectId : String
  deriving DecidableEq, Repr

structure OutboxRow where
  eventId : Nat
  eventType : EventType
  subjectId : String
  payloadSha256 : String
  createdAt : String
  exportedAt : Option String
  deriving DecidableEq, Repr

def OutboxRow.key (o : OutboxRow) : EventKey := ⟨o.eventType, o.subjectId⟩

/-! ## §2 The ledger -/

/-- The tables and the `AUTOINCREMENT` high-water mark of the outbox. -/
structure Ledger where
  requests : List RequestRow
  authorizations : List AuthorizationRow
  attempts : List AttemptRow
  requestResults : List ResultRow
  auditOutbox : List OutboxRow
  sequence : Nat
  deriving DecidableEq, Repr

namespace Ledger

/-- A ledger that has just been created. -/
def empty : Ledger := ⟨[], [], [], [], [], 0⟩

def request (L : Ledger) (k : RequestKey) : Option RequestRow :=
  L.requests.find? fun r => r.key = k

def authorization (L : Ledger) (tokenId : String) : Option AuthorizationRow :=
  L.authorizations.find? fun a => a.tokenId = tokenId

def attempt (L : Ledger) (attemptId : String) : Option AttemptRow :=
  L.attempts.find? fun a => a.attemptId = attemptId

/-- `SELECT ... FROM requests WHERE principal_id=? AND request_id=?` -/
def requestsOf (L : Ledger) (k : RequestKey) : List RequestRow :=
  L.requests.filter fun r => r.key = k

/-- `SELECT ... FROM authorizations WHERE principal_id=? AND request_id=?` -/
def authorizationsOf (L : Ledger) (k : RequestKey) : List AuthorizationRow :=
  L.authorizations.filter fun a => a.requestKey = some k

/-- `SELECT ... FROM attempts WHERE principal_id=? AND request_id=?` -/
def attemptsOf (L : Ledger) (k : RequestKey) : List AttemptRow :=
  L.attempts.filter fun a => a.requestKey = some k

/-- `SELECT ... FROM request_results WHERE principal_id=? AND request_id=?` -/
def resultsOf (L : Ledger) (k : RequestKey) : List ResultRow :=
  L.requestResults.filter fun r => r.key = k

/-! ## §3 The constraints between rows -/

/-- The `PRIMARY KEY`, `UNIQUE` and `FOREIGN KEY` constraints, and the `CHECK`s that
the row types do not already force. -/
structure SchemaOk (L : Ledger) : Prop where
  requestKeys : (L.requests.map RequestRow.key).Nodup
  tokenIds : (L.authorizations.map AuthorizationRow.tokenId).Nodup
  verificationIds : (L.authorizations.map AuthorizationRow.verificationId).Nodup
  decisionIds : (L.authorizations.map AuthorizationRow.decisionId).Nodup
  authorizationRequests : (L.authorizations.filterMap AuthorizationRow.requestKey).Nodup
  authorizationFk : ∀ a ∈ L.authorizations, ∀ l ∈ a.link,
    ∃ r ∈ L.requests, r.key = l.key ∧ r.requestSha256 = l.requestSha256
  attemptIds : (L.attempts.map AttemptRow.attemptId).Nodup
  attemptTokens : (L.attempts.map AttemptRow.tokenId).Nodup
  attemptIdempotencyKeys : (L.attempts.map AttemptRow.idempotencyKey).Nodup
  attemptBindings : (L.attempts.map AttemptRow.bindingSha256).Nodup
  attemptRequests : (L.attempts.filterMap AttemptRow.requestKey).Nodup
  attemptIdempotency : ∀ t ∈ L.attempts, t.idempotencyKey = t.bindingSha256
  attemptCheck : ∀ t ∈ L.attempts, t.state.CheckOk
  attemptTokenFk : ∀ t ∈ L.attempts, ∃ a ∈ L.authorizations, a.tokenId = t.tokenId
  attemptFk : ∀ t ∈ L.attempts, ∀ l ∈ t.link, ∃ a ∈ L.authorizations, a.tokenId = t.tokenId ∧
    ∃ al ∈ a.link, al.key = l.key ∧ al.requestSha256 = l.requestSha256
  resultKeys : (L.requestResults.map ResultRow.key).Nodup
  resultFk : ∀ x ∈ L.requestResults, ∃ r ∈ L.requests, r.key = x.key
  eventIds : (L.auditOutbox.map OutboxRow.eventId).Nodup
  events : (L.auditOutbox.map fun o => (o.key, o.payloadSha256)).Nodup

theorem SchemaOk.empty : SchemaOk Ledger.empty := by
  constructor <;> simp [Ledger.empty]

/-! ## §4 Row lookups -/

variable {L : Ledger}

theorem request_eq_some (h : L.SchemaOk) {r : RequestRow} {k : RequestKey} :
    L.request k = some r ↔ r ∈ L.requests ∧ r.key = k :=
  Lib.Table.find?_key_eq_some h.requestKeys

theorem request_eq_none {k : RequestKey} :
    L.request k = none ↔ ∀ r ∈ L.requests, r.key ≠ k := by
  simp [request, List.find?_eq_none]

theorem authorization_eq_some (h : L.SchemaOk) {a : AuthorizationRow} {t : String} :
    L.authorization t = some a ↔ a ∈ L.authorizations ∧ a.tokenId = t :=
  Lib.Table.find?_key_eq_some h.tokenIds

theorem attempt_eq_some (h : L.SchemaOk) {t : AttemptRow} {i : String} :
    L.attempt i = some t ↔ t ∈ L.attempts ∧ t.attemptId = i :=
  Lib.Table.find?_key_eq_some h.attemptIds

theorem mem_requestsOf {r : RequestRow} {k : RequestKey} :
    r ∈ L.requestsOf k ↔ r ∈ L.requests ∧ r.key = k := by
  simp [requestsOf]

theorem requestsOf_eq_singleton (h : L.SchemaOk) {r : RequestRow} (hr : r ∈ L.requests) :
    L.requestsOf r.key = [r] :=
  Lib.Table.filter_eq_singleton h.requestKeys hr (by simp) (by simp)

theorem mem_authorizationsOf {a : AuthorizationRow} {k : RequestKey} :
    a ∈ L.authorizationsOf k ↔ a ∈ L.authorizations ∧ a.requestKey = some k := by
  simp [authorizationsOf]

theorem mem_attemptsOf {t : AttemptRow} {k : RequestKey} :
    t ∈ L.attemptsOf k ↔ t ∈ L.attempts ∧ t.requestKey = some k := by
  simp [attemptsOf]

theorem mem_resultsOf {x : ResultRow} {k : RequestKey} :
    x ∈ L.resultsOf k ↔ x ∈ L.requestResults ∧ x.key = k := by
  simp [resultsOf]

end Ledger

end DecisionFirewall.StageA
