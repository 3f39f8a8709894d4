import DecisionFirewall.StageA.Validator

/-!
# Transactions of the Control Ledger

What the writers of `SQLiteControlLedger` share: the errors they raise, the check
that accepts or raises, the SQL statements with the constraints SQLite enforces on
them, and the `BEGIN IMMEDIATE` ... `COMMIT` / `ROLLBACK` bracket.

A statement that breaks a constraint raises `sqlite3.IntegrityError`; each writer
turns it into an error of its own.
-/

namespace DecisionFirewall.StageA

open Lib.Table (updateWhere)

/-! ## §1 Errors and checks -/

/-- The reason codes of `ControlLedgerError`, and `sqlite3.IntegrityError`. -/
inductive LedgerError where
  | bindingInvalid
  | corrupt
  | unavailable
  | authorizationRequestLinkInvalid
  | authorizationIdCollision
  | authorizationDecisionReplay
  | authorizationUnknown
  | authorizationReplay
  | authorizationTimeInvalid
  | recoverySummaryInvalid
  | attemptIdempotencyConflict
  | attemptUnknown
  | attemptOutcomeConflict
  | requestResultInvalid
  | requestResultBindingInvalid
  | requestResultConflict
  | requestIdConflict
  | recoveryQuiescenceRequired
  | requestResultAtomicCommitRequired
  | attemptTimeInvalid
  | recoveryExactRequestRequired
  | recoveryTimeInvalid
  | integrity
  deriving DecidableEq, Repr

/-- `if not p: raise e`. -/
def require (p : Prop) [Decidable p] (e : LedgerError) : Except LedgerError Unit :=
  if p then .ok () else .error e

section Checks

variable {α β : Type}

@[simp] theorem require_eq_ok {p : Prop} [Decidable p] {e : LedgerError} {u : Unit} :
    require p e = .ok u ↔ p := by
  unfold require
  split <;> simp_all

@[simp] theorem require_bind_eq_ok {p : Prop} [Decidable p] {e : LedgerError}
    {f : Unit → Except LedgerError β} {b : β} :
    (require p e >>= f) = .ok b ↔ p ∧ f () = .ok b := by
  unfold require
  split <;> simp_all [bind, Except.bind]

/-- Every step before the result succeeded. -/
theorem bind_eq_ok {x : Except LedgerError α} {f : α → Except LedgerError β} {b : β} :
    (x >>= f) = .ok b ↔ ∃ a, x = .ok a ∧ f a = .ok b := by
  cases x <;> simp [bind, Except.bind]

/-- `except sqlite3.IntegrityError`. -/
def onIntegrity (e : LedgerError) (x : Except LedgerError α) : Except LedgerError α :=
  match x with
  | .error .integrity => .error e
  | _ => x

@[simp] theorem onIntegrity_eq_ok {e : LedgerError} {x : Except LedgerError α} {a : α} :
    onIntegrity e x = .ok a ↔ x = .ok a := by
  unfold onIntegrity
  split <;> simp_all

end Checks

/-! ## §2 The transaction bracket -/

/-- What a writer returns or raises, with the ledger it leaves. -/
structure Outcome (α : Type) where
  result : Except LedgerError α
  ledger : Ledger

/-- `BEGIN IMMEDIATE`, the validator, the body, `COMMIT`; a raise rolls back. -/
def transaction {α : Type} (rt : Runtime) (L : Ledger)
    (body : Ledger → Except LedgerError (α × Ledger)) : Outcome α :=
  match (do require (ControlRelationsOk rt L) .corrupt; body L) with
  | .ok (a, L') => ⟨.ok a, L'⟩
  | .error e => ⟨.error e, L⟩

/-- A check of the arguments before the transaction. -/
def checked {α β : Type} (L : Ledger) (check : Except LedgerError β)
    (k : β → Outcome α) : Outcome α :=
  match check with
  | .ok b => k b
  | .error e => ⟨.error e, L⟩

section Bracket

variable {α β : Type} {rt : Runtime} {L : Ledger}

/-- A writer either raises and leaves the ledger, or its body ran to the commit. -/
theorem transaction_cases (rt : Runtime) (L : Ledger) (body : Ledger → Except LedgerError (α × Ledger)) :
    (∃ e, transaction rt L body = ⟨.error e, L⟩ ∧
        ∀ a L', ControlRelationsOk rt L → body L ≠ .ok (a, L')) ∨
      ∃ a L', transaction rt L body = ⟨.ok a, L'⟩ ∧ ControlRelationsOk rt L ∧
        body L = .ok (a, L') := by
  unfold transaction
  by_cases hL : ControlRelationsOk rt L
  · cases hb : body L with
    | ok p => exact .inr ⟨p.1, p.2, by simp [require, hL, bind, Except.bind], hL, rfl⟩
    | error e => exact .inl ⟨e, by simp [require, hL, bind, Except.bind], by simp⟩
  · exact .inl ⟨.corrupt, by simp [require, hL, bind, Except.bind], fun _ _ h => absurd h hL⟩

theorem transaction_of_ok {body : Ledger → Except LedgerError (α × Ledger)} {a : α} {L' : Ledger}
    (hL : ControlRelationsOk rt L) (h : body L = .ok (a, L')) :
    transaction rt L body = ⟨.ok a, L'⟩ := by
  simp [transaction, require, hL, h, bind, Except.bind]

theorem transaction_of_not_ok {body : Ledger → Except LedgerError (α × Ledger)}
    (hL : ¬ ControlRelationsOk rt L) : transaction rt L body = ⟨.error .corrupt, L⟩ := by
  simp [transaction, require, hL, bind, Except.bind]

theorem transaction_ledger {body : Ledger → Except LedgerError (α × Ledger)} :
    (transaction rt L body).ledger = L ∨
      ∃ a, body L = .ok (a, (transaction rt L body).ledger) := by
  rcases transaction_cases rt L body with ⟨e, he, -⟩ | ⟨a, L', hok, -, hb⟩
  · exact .inl (by rw [he])
  · exact .inr ⟨a, by rw [hok, hb]⟩

end Bracket

/-! ## §3 Statements -/

namespace Ledger

/-- `INSERT INTO requests`. -/
def insertRequest (L : Ledger) (r : RequestRow) : Except LedgerError Ledger := do
  require (r.key ∉ L.requests.map RequestRow.key) .integrity
  pure { L with requests := L.requests ++ [r] }

/-- `UPDATE requests SET ... WHERE ...`. -/
def updateRequests (L : Ledger) (p : RequestRow → Bool) (f : RequestRow → RequestRow) : Ledger :=
  { L with requests := updateWhere p f L.requests }

/-- `INSERT INTO authorizations`. -/
def insertAuthorization (L : Ledger) (a : AuthorizationRow) : Except LedgerError Ledger := do
  require (a.tokenId ∉ L.authorizations.map AuthorizationRow.tokenId) .integrity
  require (a.verificationId ∉ L.authorizations.map AuthorizationRow.verificationId) .integrity
  require (a.decisionId ∉ L.authorizations.map AuthorizationRow.decisionId) .integrity
  require (∀ k ∈ a.requestKey, k ∉ L.authorizations.filterMap AuthorizationRow.requestKey)
    .integrity
  require (∀ l ∈ a.link, ∃ r ∈ L.requests, r.key = l.key ∧ r.requestSha256 = l.requestSha256)
    .integrity
  pure { L with authorizations := L.authorizations ++ [a] }

/-- `UPDATE authorizations SET state=... WHERE ...`. -/
def updateAuthorizations (L : Ledger) (p : AuthorizationRow → Bool) (s : AuthorizationState) :
    Ledger :=
  { L with authorizations := updateWhere p (fun a => { a with state := s }) L.authorizations }

/-- `INSERT INTO attempts`. -/
def insertAttempt (L : Ledger) (t : AttemptRow) : Except LedgerError Ledger := do
  require (t.attemptId ∉ L.attempts.map AttemptRow.attemptId) .integrity
  require (t.tokenId ∉ L.attempts.map AttemptRow.tokenId) .integrity
  require (t.idempotencyKey ∉ L.attempts.map AttemptRow.idempotencyKey) .integrity
  require (t.bindingSha256 ∉ L.attempts.map AttemptRow.bindingSha256) .integrity
  require (∀ k ∈ t.requestKey, k ∉ L.attempts.filterMap AttemptRow.requestKey) .integrity
  require (t.idempotencyKey = t.bindingSha256 ∧ t.state.CheckOk) .integrity
  require (∃ a ∈ L.authorizations, a.tokenId = t.tokenId) .integrity
  require (∀ l ∈ t.link, ∃ a ∈ L.authorizations, a.tokenId = t.tokenId ∧
    ∃ al ∈ a.link, al.key = l.key ∧ al.requestSha256 = l.requestSha256) .integrity
  pure { L with attempts := L.attempts ++ [t] }

/-- `UPDATE attempts SET state=... WHERE ...`. -/
def updateAttempts (L : Ledger) (p : AttemptRow → Bool) (s : AttemptState) : Ledger :=
  { L with attempts := updateWhere p (fun t => { t with state := s }) L.attempts }

/-- `INSERT INTO request_results`. -/
def insertResult (L : Ledger) (x : ResultRow) : Except LedgerError Ledger := do
  require (x.key ∉ L.requestResults.map ResultRow.key) .integrity
  require (∃ r ∈ L.requests, r.key = x.key) .integrity
  pure { L with requestResults := L.requestResults ++ [x] }

/-- The row `_insert_outbox` adds. -/
def outboxRow (L : Ledger) (rt : Runtime) (key : EventKey) (payload : Json) (createdAt : String) :
    OutboxRow :=
  ⟨L.sequence + 1, key.eventType, key.subjectId, eventDigest rt key payload, createdAt, none⟩

/-- `_insert_outbox`. -/
def insertOutbox (L : Ledger) (rt : Runtime) (key : EventKey) (payload : Json)
    (createdAt : String) : Except LedgerError Ledger := do
  require ((key, eventDigest rt key payload) ∉
    L.auditOutbox.map fun o => (o.key, o.payloadSha256)) .integrity
  pure { L with
    auditOutbox := L.auditOutbox ++ [L.outboxRow rt key payload createdAt]
    sequence := L.sequence + 1 }

@[simp] theorem outboxRow_key (L : Ledger) (rt : Runtime) (key : EventKey) (payload : Json)
    (createdAt : String) : (L.outboxRow rt key payload createdAt).key = key := rfl

end Ledger

end DecisionFirewall.StageA
