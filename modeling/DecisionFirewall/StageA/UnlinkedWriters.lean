import DecisionFirewall.StageA.Writers

/-!
# Writers of Unlinked Attempts

`record_attempt_outcome` and `recover_incomplete_attempts` of `SQLiteControlLedger`:
the two writers that terminate attempts without a request. A request-linked attempt
is terminated by `complete_request` alone, together with the result of its request.
-/

namespace DecisionFirewall.StageA

/-! ## §1 record_attempt_outcome -/

/-- The arguments of `record_attempt_outcome`. -/
structure OutcomeArgs where
  attemptId : String
  outcomeState : EffectState
  outcomeSha256 : String
  completedAt : String
  adapterReceiptSha256 : Option String
  deriving DecidableEq, Repr

section Record

variable (rt : Runtime) (a : OutcomeArgs)

/-- The argument checks of `record_attempt_outcome`. -/
def OutcomeArgs.Ok : Prop :=
  IsIdentifier a.attemptId ∧ IsSha256 a.outcomeSha256 ∧ rt.IsOffsetTimestamp a.completedAt ∧
    ∀ s ∈ a.adapterReceiptSha256, IsSha256 s

instance OutcomeArgs.decidableOk : Decidable (a.Ok rt) :=
  inferInstanceAs (Decidable (_ ∧ _ ∧ _ ∧ _))

/-- The state that the `UPDATE` gives a row in state `s`: `COALESCE` keeps a recorded
receipt where the call names none. -/
def OutcomeArgs.newState (s : AttemptState) : AttemptState :=
  .terminal a.outcomeState a.outcomeSha256 (a.adapterReceiptSha256 <|> s.adapterReceiptSha256)
    a.completedAt

/-- The `UPDATE` of an attempt in state `s` and the event of its transition. -/
def terminateAttempt (s : AttemptState) (L : Ledger) : Except LedgerError Ledger := do
  require (a.newState s).CheckOk .integrity
  (L.updateAttempts (fun t => t.attemptId = a.attemptId ∧ t.state.effect = none)
    (a.newState s)).insertOutbox rt ⟨.attemptTerminal, a.attemptId⟩
    (attemptTerminalPayload a.outcomeState a.outcomeSha256 a.adapterReceiptSha256) a.completedAt

def recordAttemptOutcomeBody (L : Ledger) : Except LedgerError (Unit × Ledger) :=
  match L.attempt a.attemptId with
  | none => .error .attemptUnknown
  | some t => do
    require (t.link = none) .requestResultAtomicCommitRequired
    require (rt.AtMost t.reservedAt a.completedAt) .attemptTimeInvalid
    match t.state with
    | .terminal effect outcome receipt completedAt => do
      require (effect = a.outcomeState ∧ outcome = a.outcomeSha256 ∧ completedAt = a.completedAt ∧
        (a.adapterReceiptSha256.isSome = true → receipt = a.adapterReceiptSha256))
        .attemptOutcomeConflict
      pure ((), L)
    | s => do
      let L ← terminateAttempt rt a s L
      pure ((), L)

/-- `record_attempt_outcome(attempt_id, ...)`. -/
def recordAttemptOutcome (L : Ledger) : Outcome Unit :=
  checked L (require (a.Ok rt) .bindingInvalid) fun _ =>
    transaction rt L fun L => onIntegrity .unavailable (recordAttemptOutcomeBody rt a L)

end Record

/-! ## §2 recover_incomplete_attempts -/

/-- The digest of `{"attempt_id": attempt_id, "state": "UNKNOWN_EFFECT"}`. -/
def recoveredOutcomeSha256 (rt : Runtime) (attemptId : String) : String :=
  rt.sha256Json (.obj [("attempt_id", .str attemptId), ("state", .str "UNKNOWN_EFFECT")])

section Recover

variable (rt : Runtime) (operatorAssertedQuiesced : Bool) (recoveryAt : String)

/-- The state that a recovery gives an attempt. -/
def recoveredState (t : AttemptRow) : AttemptState :=
  .terminal .unknownEffect (recoveredOutcomeSha256 rt t.attemptId) t.state.adapterReceiptSha256
    recoveryAt

/-- One round of the loop over the incomplete attempts. -/
def recoverAttempt (L : Ledger) (t : AttemptRow) : Except LedgerError Ledger := do
  require (rt.AtMost t.reservedAt recoveryAt) .recoveryTimeInvalid
  (L.updateAttempts (fun u => u.attemptId = t.attemptId ∧ u.state.effect = none)
    (recoveredState rt recoveryAt t)).insertOutbox rt ⟨.attemptRecoveredUnknown, t.attemptId⟩
    attemptRecoveredUnknownPayload recoveryAt

/-- One round of the loop over the issued authorizations without a request. -/
def revokeUnlinked (L : Ledger) (z : AuthorizationRow) : Except LedgerError Ledger := do
  require (rt.AtMost z.issuedAt recoveryAt) .recoveryTimeInvalid
  (L.updateAuthorizations (fun y => y.tokenId = z.tokenId ∧ y.state = .issued)
    (.revoked recoveryAt "QUIESCED_RECOVERY")).insertOutbox rt ⟨.authorizationRevoked, z.tokenId⟩
    authorizationRevokedPayload recoveryAt

/-- The incomplete attempts without a request, `ORDER BY attempt_id`. -/
def Ledger.incompleteAttempts (L : Ledger) : List AttemptRow :=
  (L.attempts.filter fun t => t.link = none ∧ t.state.effect = none).mergeSort
    fun t u => decide (t.attemptId ≤ u.attemptId)

/-- The issued authorizations without a request. -/
def Ledger.issuedUnlinked (L : Ledger) : List AuthorizationRow :=
  L.authorizations.filter fun z => z.link = none ∧ z.state = .issued

def recoverIncompleteBody (L : Ledger) : Except LedgerError (Nat × Ledger) := do
  require (∀ t ∈ L.attempts, t.link.isSome = true → t.state.effect.isSome = true)
    .recoveryExactRequestRequired
  let rows := L.incompleteAttempts
  let L₁ ← rows.foldlM (recoverAttempt rt recoveryAt) L
  let L₂ ← L₁.issuedUnlinked.foldlM (revokeUnlinked rt recoveryAt) L₁
  pure (rows.length, L₂)

/-- `recover_incomplete_attempts(operator_asserted_quiesced=...)`, called at time
`recoveryAt`. -/
def recoverIncompleteAttempts (L : Ledger) : Outcome Nat :=
  checked L (require (operatorAssertedQuiesced = true) .recoveryQuiescenceRequired) fun _ =>
    transaction rt L fun L => onIntegrity .unavailable (recoverIncompleteBody rt recoveryAt L)

end Recover

end DecisionFirewall.StageA
