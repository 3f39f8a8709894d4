import DecisionFirewall.StageA.UnlinkedWriters
import DecisionFirewall.StageA.WriterPreservation

/-!
# Rows of Terminal Requests

No writer changes the row of a request that is `TERMINAL`, or its result. This needs
nothing of the validator: the statements that could change such a row select by
state, and the result has the primary key of its request.

- §1 the relation, one lemma for each SQL statement
- §2 the eight writers
- §3 every sequence of calls
-/

namespace DecisionFirewall.StageA

open Lib.Table

/-! ## §1 Statements -/

/-- From `L` to `L'` the terminal requests and their results stay, and so do SQLite's
constraints. -/
structure KeepsTerminal (L L' : Ledger) : Prop where
  schema : L'.SchemaOk
  eventIds : ∀ o ∈ L'.auditOutbox, o.eventId ≤ L'.sequence
  requests : ∀ r ∈ L.requests, r.state = .terminal → r ∈ L'.requests
  results : ∀ r ∈ L.requests, r.state = .terminal → L'.resultsOf r.key = L.resultsOf r.key

namespace KeepsTerminal

variable {L M M' : Ledger}

theorem refl (hs : L.SchemaOk) (hids : ∀ o ∈ L.auditOutbox, o.eventId ≤ L.sequence) :
    KeepsTerminal L L :=
  ⟨hs, hids, fun _ hr _ => hr, fun _ _ _ => rfl⟩

theorem trans (h : KeepsTerminal L M) (h' : KeepsTerminal M M') : KeepsTerminal L M' where
  schema := h'.schema
  eventIds := h'.eventIds
  requests r hr ht := h'.requests r (h.requests r hr ht) ht
  results r hr ht := (h'.results r (h.requests r hr ht) ht).trans (h.results r hr ht)

theorem insertRequest (h : KeepsTerminal L M) {r : RequestRow}
    (hr : M.insertRequest r = .ok M') : KeepsTerminal L M' := by
  have hschema := h.schema.insertRequest hr
  obtain ⟨-, rfl⟩ := Ledger.insertRequest_eq_ok.mp hr
  exact ⟨hschema, h.eventIds, fun r hr ht => List.mem_append_left _ (h.requests r hr ht),
    h.results⟩

/-- An `UPDATE` of requests that selects no terminal row. -/
theorem updateRequests (h : KeepsTerminal L M) {p : RequestRow → Bool}
    {f : RequestRow → RequestRow} (hkey : ∀ r, (f r).key = r.key)
    (hsha : ∀ r, (f r).requestSha256 = r.requestSha256)
    (hp : ∀ r ∈ M.requests, r.state = .terminal → p r = false) :
    KeepsTerminal L (M.updateRequests p f) where
  schema := h.schema.updateRequests hkey hsha
  eventIds := h.eventIds
  requests r hr ht := by
    have hmem := h.requests r hr ht
    exact mem_updateWhere.mpr ⟨r, hmem, by simp [hp r hmem ht]⟩
  results := h.results

theorem insertAuthorization (h : KeepsTerminal L M) {a : AuthorizationRow}
    (ha : M.insertAuthorization a = .ok M') : KeepsTerminal L M' := by
  have hschema := h.schema.insertAuthorization ha
  obtain ⟨-, rfl⟩ := Ledger.insertAuthorization_eq_ok.mp ha
  exact ⟨hschema, h.eventIds, h.requests, h.results⟩

theorem updateAuthorizations (h : KeepsTerminal L M) {p : AuthorizationRow → Bool}
    {s : AuthorizationState} : KeepsTerminal L (M.updateAuthorizations p s) :=
  ⟨h.schema.updateAuthorizations, h.eventIds, h.requests, h.results⟩

theorem insertAttempt (h : KeepsTerminal L M) {t : AttemptRow}
    (ht : M.insertAttempt t = .ok M') : KeepsTerminal L M' := by
  have hschema := h.schema.insertAttempt ht
  obtain ⟨-, rfl⟩ := Ledger.insertAttempt_eq_ok.mp ht
  exact ⟨hschema, h.eventIds, h.requests, h.results⟩

theorem updateAttempts (h : KeepsTerminal L M) {p : AttemptRow → Bool} {s : AttemptState}
    (hs : s.CheckOk) : KeepsTerminal L (M.updateAttempts p s) :=
  ⟨h.schema.updateAttempts hs, h.eventIds, h.requests, h.results⟩

/-- The result of a request that was not terminal. -/
theorem insertResult (h : KeepsTerminal L M) {x : ResultRow}
    (hx : M.insertResult x = .ok M')
    (hne : ∀ r ∈ M.requests, r.state = .terminal → r.key ≠ x.key) : KeepsTerminal L M' := by
  have hschema := h.schema.insertResult hx
  obtain ⟨-, rfl⟩ := Ledger.insertResult_eq_ok.mp hx
  refine ⟨hschema, h.eventIds, h.requests, fun r hr ht => ?_⟩
  rw [← h.results r hr ht]
  have hkey : x.key ≠ r.key := (hne r (h.requests r hr ht) ht).symm
  simp [Ledger.resultsOf, List.filter_append, hkey]

theorem insertOutbox (h : KeepsTerminal L M) {rt : Runtime} {key : EventKey} {payload : Json}
    {createdAt : String} (ho : M.insertOutbox rt key payload createdAt = .ok M') :
    KeepsTerminal L M' := by
  have hschema := h.schema.insertOutbox rt h.eventIds ho
  obtain ⟨-, rfl⟩ := Ledger.insertOutbox_eq_ok.mp ho
  refine ⟨hschema, fun o ho => ?_, h.requests, h.results⟩
  rcases List.mem_append.mp ho with ho | ho
  · exact (h.eventIds o ho).trans (Nat.le_succ _)
  · rw [List.mem_singleton.mp ho]
    exact le_rfl

/-- A loop of statements. -/
theorem foldlM {α : Type} {f : Ledger → α → Except LedgerError Ledger} {xs : List α}
    (h : KeepsTerminal L M) (hrun : xs.foldlM f M = .ok M')
    (hstep : ∀ x N N', KeepsTerminal L N → f N x = .ok N' → KeepsTerminal L N') :
    KeepsTerminal L M' := by
  induction xs generalizing M with
  | nil =>
    simp only [List.foldlM_nil, pure, Except.pure, Except.ok.injEq] at hrun
    exact hrun ▸ h
  | cons x xs ih =>
    rw [List.foldlM_cons, bind_eq_ok] at hrun
    obtain ⟨N, hN, hrest⟩ := hrun
    exact ih (hstep x M N h hN) hrest

end KeepsTerminal

/-! ## §2 The writers -/

section Writers

variable {rt : Runtime} {L L' : Ledger}

/-- Another row of a key whose one row is not terminal does not exist. -/
theorem not_terminal_of_key (hs : L.SchemaOk) {r r' : RequestRow} (hr : r ∈ L.requests)
    (hstate : r.state ≠ .terminal) (hr' : r' ∈ L.requests) (ht : r'.state = .terminal) :
    r'.key ≠ r.key := by
  intro hkey
  rw [eq_of_nodup_key hs.requestKeys hr' hr hkey] at ht
  exact hstate ht

theorem KeepsTerminal.claimRequestBody {k : RequestKey} {requestSha256 claimedAt : String}
    {out : ClaimOutcome} (h : KeepsTerminal L L)
    (hbody : claimRequestBody rt k requestSha256 claimedAt L = .ok (out, L')) :
    KeepsTerminal L L' := by
  unfold StageA.claimRequestBody at hbody
  split at hbody
  · cases hbody
    exact h
  · simp only [bind_eq_ok, pure, Except.pure, Except.ok.injEq, Prod.mk.injEq] at hbody
    obtain ⟨L₁, h₁, L₂, h₂, -, rfl⟩ := hbody
    exact (h.insertRequest h₁).insertOutbox h₂

theorem KeepsTerminal.registerBody {a : AuthorizationRow} {u : Unit} (h : KeepsTerminal L L)
    (hbody : registerBody rt a L = .ok (u, L')) : KeepsTerminal L L' := by
  simp only [StageA.registerBody, bind_eq_ok, require_eq_ok, exists_const, pure, Except.pure,
    Except.ok.injEq, Prod.mk.injEq] at hbody
  obtain ⟨hregistrable, L₁, h₁, L₃, h₃, -, rfl⟩ := hbody
  have hkeep₁ := h.insertAuthorization h₁
  refine KeepsTerminal.insertOutbox ?_ h₃
  cases hl : a.link with
  | none => exact hkeep₁
  | some l =>
    -- the request that the link names is `CLAIMED`
    obtain ⟨r, hr, -, hstate, -⟩ := hregistrable l hl
    obtain ⟨hr, hrk⟩ := (Ledger.request_eq_some h.schema).mp hr
    have hrequests : L₁.requests = L.requests := by
      obtain ⟨-, rfl⟩ := Ledger.insertAuthorization_eq_ok.mp h₁
      rfl
    refine hkeep₁.updateRequests (fun _ => rfl) (fun _ => rfl) fun r' hr' ht => ?_
    rw [hrequests] at hr'
    have hne := not_terminal_of_key h.schema hr (by simp [hstate]) hr' ht
    rw [hrk] at hne
    simpa using hne

theorem KeepsTerminal.reserveAttempt {M M' : Ledger} (h : KeepsTerminal L M)
    {a : AuthorizationRow} {res : Reservation} {s : Option RecoverySummary} {consumedAt : String}
    (hbody : reserveAttempt rt a res s consumedAt M = .ok M') : KeepsTerminal L M' := by
  unfold StageA.reserveAttempt at hbody
  cases hl : a.link with
  | none =>
    simp only [hl, bind_eq_ok, pure, Except.pure, Except.ok.injEq, exists_eq_left'] at hbody
    obtain ⟨M₁, h₁, h₂⟩ := hbody
    exact (h.insertAttempt h₁).insertOutbox h₂
  | some l =>
    simp only [hl, bind_eq_ok, require_eq_ok, exists_const, pure, Except.pure, Except.ok.injEq,
      exists_eq_left'] at hbody
    obtain ⟨M₁, h₁, -, h₂⟩ := hbody
    refine KeepsTerminal.insertOutbox ?_ h₂
    refine (h.insertAttempt h₁).updateRequests (fun _ => rfl) (fun _ => rfl) fun r _ ht => ?_
    simp [isAuthorizedRequest, ht]

theorem KeepsTerminal.consumeOnceBody {tokenId : String} {reservation : Option Reservation}
    {s : Option RecoverySummary} {consumedAt : String} {u : Unit} (h : KeepsTerminal L L)
    (hbody : consumeOnceBody rt tokenId reservation s consumedAt L = .ok (u, L')) :
    KeepsTerminal L L' := by
  unfold StageA.consumeOnceBody at hbody
  split at hbody
  · cases hbody
  · next a ha =>
    cases reservation with
    | none =>
      simp only [bind_eq_ok, require_eq_ok, exists_const, pure, Except.pure, Except.ok.injEq,
        Prod.mk.injEq, exists_eq_left'] at hbody
      obtain ⟨-, -, _, -, L₂, h₂, -, rfl⟩ := hbody
      exact h.updateAuthorizations.insertOutbox h₂
    | some res =>
      simp only [bind_eq_ok, require_eq_ok, exists_const, pure, Except.pure, Except.ok.injEq,
        Prod.mk.injEq] at hbody
      obtain ⟨-, -, _, -, L₁, h₁, L₂, h₂, -, rfl⟩ := hbody
      exact (h.reserveAttempt h₁).updateAuthorizations.insertOutbox h₂

theorem KeepsTerminal.recordAdapterReceiptBody
    {attemptId adapterReceiptSha256 receiptOutcomeSha256 recordedAt : String} {u : Unit}
    (h : KeepsTerminal L L)
    (hbody : recordAdapterReceiptBody rt attemptId adapterReceiptSha256 receiptOutcomeSha256
      recordedAt L = .ok (u, L')) : KeepsTerminal L L' := by
  unfold StageA.recordAdapterReceiptBody at hbody
  split at hbody
  · cases hbody
  · rw [require_bind_eq_ok] at hbody
    obtain ⟨-, hbody⟩ := hbody
    split at hbody
    · simp only [bind_eq_ok, require_eq_ok, exists_const, pure, Except.pure, Except.ok.injEq,
        Prod.mk.injEq] at hbody
      obtain ⟨-, -, rfl⟩ := hbody
      exact h
    · cases hbody
    · simp only [bind_eq_ok, pure, Except.pure, Except.ok.injEq, Prod.mk.injEq] at hbody
      obtain ⟨L₁, h₁, -, rfl⟩ := hbody
      have hcheck : AttemptState.CheckOk (.receiptRecorded receiptOutcomeSha256
        adapterReceiptSha256) := trivial
      exact (h.updateAttempts hcheck).insertOutbox h₁

theorem KeepsTerminal.revokeIssuedBody {k : RequestKey} {requestSha256 revokedAt : String}
    {n : Nat} (h : KeepsTerminal L L)
    (hbody : revokeIssuedBody rt k requestSha256 revokedAt L = .ok (n, L')) :
    KeepsTerminal L L' := by
  simp only [StageA.revokeIssuedBody, bind_eq_ok, pure, Except.pure, Except.ok.injEq,
    Prod.mk.injEq] at hbody
  obtain ⟨L₁, h₁, -, rfl⟩ := hbody
  refine h.foldlM h₁ fun z N N' hN hstep => ?_
  simp only [revokeAuthorization, bind_eq_ok, require_eq_ok, exists_const] at hstep
  exact hN.updateAuthorizations.insertOutbox hstep.2

theorem KeepsTerminal.closeAttempt {M M' : Ledger} (h : KeepsTerminal L M)
    {stored : RequestLookupResult} {c : AttemptCompletion} {j : JoinedAttempt}
    (hreceipt : c.state ≠ .unknownEffect → c.adapterReceiptSha256.isSome = true)
    (hbody : closeAttempt rt stored c j M = .ok M') : KeepsTerminal L M' := by
  have hcheck : (terminalState stored c).CheckOk := hreceipt
  have hterminate : closeAttempt.terminate rt stored c M = .ok M' → KeepsTerminal L M' :=
    fun hok => (h.updateAttempts hcheck).insertOutbox hok
  unfold StageA.closeAttempt at hbody
  split at hbody
  · simp only [bind_eq_ok, require_eq_ok, exists_const, pure, Except.pure,
      Except.ok.injEq] at hbody
    exact hbody.2 ▸ h
  · exact hterminate (require_bind_eq_ok.mp hbody).2
  · exact hterminate (require_bind_eq_ok.mp hbody).2

/-- Storing a result for a request that is open. -/
theorem KeepsTerminal.storeResult {M M' : Ledger} (h : KeepsTerminal L M)
    {stored : RequestLookupResult} {u : Unit}
    (hne : ∀ r ∈ M.requests, r.state = .terminal → r.key ≠ stored.key)
    (hbody : storeResult rt stored M = .ok (u, M')) : KeepsTerminal L M' := by
  simp only [StageA.storeResult, bind_eq_ok, pure, Except.pure, Except.ok.injEq,
    Prod.mk.injEq] at hbody
  obtain ⟨M₁, h₁, M₂, h₂, -, rfl⟩ := hbody
  have hrequests : M₁.requests = M.requests := by
    obtain ⟨-, rfl⟩ := Ledger.insertResult_eq_ok.mp h₁
    rfl
  refine KeepsTerminal.insertOutbox ?_ h₂
  refine (h.insertResult h₁ hne).updateRequests (fun _ => rfl) (fun _ => rfl) fun r _ ht => ?_
  simp [ht]

theorem KeepsTerminal.completeRequestBody {stored : RequestLookupResult}
    {completion : Option AttemptCompletion} {u : Unit} (h : KeepsTerminal L L)
    (hok : CompleteOk rt stored completion)
    (hbody : completeRequestBody rt stored completion L = .ok (u, L')) : KeepsTerminal L L' := by
  unfold StageA.completeRequestBody at hbody
  cases hrequest : L.request stored.key with
  | none => simp [hrequest] at hbody
  | some r =>
    obtain ⟨hr, hrk⟩ := (Ledger.request_eq_some h.schema).mp hrequest
    simp only [hrequest, bind_eq_ok, require_eq_ok, exists_const] at hbody
    obtain ⟨-, -, attempt, hselect, hbody⟩ := hbody
    split at hbody
    · simp only [repeatCompletion, require_bind_eq_ok, pure, Except.pure, Except.ok.injEq,
        Prod.mk.injEq] at hbody
      exact hbody.2.2.2 ▸ h
    · next hopen =>
      have hother : ∀ r' ∈ L.requests, r'.state = .terminal → r'.key ≠ stored.key := by
        intro r' hr' ht
        rw [← hrk]
        exact not_terminal_of_key h.schema hr hopen hr' ht
      cases attempt with
      | none =>
        simp only [bind_eq_ok, require_eq_ok, exists_const, pure, Except.pure, Except.ok.injEq,
          exists_eq_left'] at hbody
        exact h.storeResult hother hbody.2.2.2.2
      | some p =>
        simp only [bind_eq_ok, require_eq_ok, exists_const] at hbody
        obtain ⟨-, -, -, -, M, hclosed, hstore⟩ := hbody
        have hc : completion = some p.1 := by
          unfold selectAttempt? at hselect
          split at hselect
          · simp [pure, Except.pure] at hselect
          · simp only [bind_eq_ok, pure, Except.pure, Except.ok.injEq, Option.some.injEq] at hselect
            obtain ⟨_, -, rfl⟩ := hselect
            rfl
        have hkeep := h.closeAttempt (hok.executing p.1 hc).receiptRequired hclosed
        refine hkeep.storeResult (fun r' hr' ht => ?_) hstore
        rw [(closeAttempt_keeps hclosed).1] at hr'
        exact hother r' hr' ht

theorem KeepsTerminal.recordAttemptOutcomeBody {a : OutcomeArgs} {u : Unit}
    (h : KeepsTerminal L L) (hbody : recordAttemptOutcomeBody rt a L = .ok (u, L')) :
    KeepsTerminal L L' := by
  have hterminate : ∀ s, terminateAttempt rt a s L = .ok L' → KeepsTerminal L L' := by
    intro s hs
    simp only [terminateAttempt, bind_eq_ok, require_eq_ok, exists_const] at hs
    exact (h.updateAttempts hs.1).insertOutbox hs.2
  unfold StageA.recordAttemptOutcomeBody at hbody
  split at hbody
  · cases hbody
  · simp only [require_bind_eq_ok] at hbody
    obtain ⟨-, -, hbody⟩ := hbody
    split at hbody
    · simp only [require_bind_eq_ok, pure, Except.pure, Except.ok.injEq, Prod.mk.injEq] at hbody
      exact hbody.2.2 ▸ h
    · simp only [bind_eq_ok, pure, Except.pure, Except.ok.injEq, Prod.mk.injEq] at hbody
      obtain ⟨M, hM, -, rfl⟩ := hbody
      exact hterminate _ hM

theorem KeepsTerminal.recoverIncompleteBody {recoveryAt : String} {n : Nat}
    (h : KeepsTerminal L L) (hbody : recoverIncompleteBody rt recoveryAt L = .ok (n, L')) :
    KeepsTerminal L L' := by
  simp only [StageA.recoverIncompleteBody, bind_eq_ok, require_eq_ok, exists_const, pure,
    Except.pure, Except.ok.injEq, Prod.mk.injEq] at hbody
  obtain ⟨-, L₁, h₁, L₂, h₂, -, rfl⟩ := hbody
  have hattempts : KeepsTerminal L L₁ := by
    refine h.foldlM h₁ fun t N N' hN hstep => ?_
    simp only [recoverAttempt, bind_eq_ok, require_eq_ok, exists_const] at hstep
    have hcheck : (recoveredState rt recoveryAt t).CheckOk := fun hne => absurd rfl hne
    exact (hN.updateAttempts hcheck).insertOutbox hstep.2
  refine hattempts.foldlM h₂ fun z N N' hN hstep => ?_
  simp only [revokeUnlinked, bind_eq_ok, require_eq_ok, exists_const] at hstep
  exact hN.updateAuthorizations.insertOutbox hstep.2

end Writers

/-! ## §3 Operations -/

/-- A call of one of the eight writers. -/
inductive LedgerOperation where
  | call (c : LedgerCall)
  | recordAttemptOutcome (a : OutcomeArgs)
  | recoverIncompleteAttempts (operatorAssertedQuiesced : Bool) (recoveryAt : String)
  deriving DecidableEq, Repr

/-- Runs an operation on a ledger. -/
def LedgerOperation.run (rt : Runtime) (L : Ledger) : LedgerOperation → Outcome Unit
  | .call c => c.run rt L
  | .recordAttemptOutcome a => StageA.recordAttemptOutcome rt a L
  | .recoverIncompleteAttempts operatorAssertedQuiesced recoveryAt =>
    (StageA.recoverIncompleteAttempts rt operatorAssertedQuiesced recoveryAt L).erase

/-- The ledger after a sequence of operations, whatever each returns or raises. -/
def runOperations (rt : Runtime) (L : Ledger) (ops : List LedgerOperation) : Ledger :=
  ops.foldl (fun L op => (op.run rt L).ledger) L

section Operations

variable {rt : Runtime} {L : Ledger}

theorem LedgerCall.keepsTerminal (h : KeepsTerminal L L) (c : LedgerCall) :
    KeepsTerminal L (c.run rt L).ledger := by
  cases c with
  | claimRequest k s a =>
    show KeepsTerminal L (StageA.claimRequest rt k s a L).ledger
    refine checked_transaction_preserved h fun _ _ L' _ hbody => ?_
    rw [onIntegrity_eq_ok] at hbody
    exact h.claimRequestBody hbody
  | register args =>
    refine checked_transaction_preserved h fun _ _ L' _ hbody => ?_
    rw [onIntegrity_eq_ok] at hbody
    exact h.registerBody hbody
  | consumeOnce now args =>
    refine checked_transaction_preserved h fun _ _ L' _ hbody => ?_
    rw [onIntegrity_eq_ok] at hbody
    exact h.consumeOnceBody hbody
  | recordAdapterReceipt i s o a =>
    refine checked_transaction_preserved h fun _ _ L' _ hbody => ?_
    rw [onIntegrity_eq_ok] at hbody
    exact h.recordAdapterReceiptBody hbody
  | revokeIssuedForRequest k s q a =>
    show KeepsTerminal L (StageA.revokeIssuedForRequest rt k s q a L).ledger
    refine checked_transaction_preserved h fun _ _ L' _ hbody => ?_
    rw [onIntegrity_eq_ok] at hbody
    exact h.revokeIssuedBody hbody
  | completeRequest args =>
    refine checked_transaction_preserved h fun _ _ L' hcheck hbody => ?_
    rw [onIntegrity_eq_ok] at hbody
    exact h.completeRequestBody (CompleteArgs.check_eq_ok hcheck) hbody

theorem LedgerOperation.keepsTerminal (h : KeepsTerminal L L) (op : LedgerOperation) :
    KeepsTerminal L (op.run rt L).ledger := by
  cases op with
  | call c => exact c.keepsTerminal h
  | recordAttemptOutcome a =>
    refine checked_transaction_preserved h fun _ _ L' _ hbody => ?_
    rw [onIntegrity_eq_ok] at hbody
    exact h.recordAttemptOutcomeBody hbody
  | recoverIncompleteAttempts q recoveryAt =>
    show KeepsTerminal L (StageA.recoverIncompleteAttempts rt q recoveryAt L).ledger
    refine checked_transaction_preserved h fun _ _ L' _ hbody => ?_
    rw [onIntegrity_eq_ok] at hbody
    exact h.recoverIncompleteBody hbody

@[simp] theorem runOperations_nil : runOperations rt L [] = L := rfl

@[simp] theorem runOperations_cons (op : LedgerOperation) (ops : List LedgerOperation) :
    runOperations rt L (op :: ops) = runOperations rt (op.run rt L).ledger ops := rfl

/-- Terminal rows stay through every sequence of operations. -/
theorem runOperations_keepsTerminal (h : KeepsTerminal L L) (ops : List LedgerOperation) :
    KeepsTerminal L (runOperations rt L ops) := by
  induction ops generalizing L with
  | nil => exact h
  | cons op ops ih =>
    have hstep : KeepsTerminal L (op.run rt L).ledger := op.keepsTerminal h
    exact hstep.trans (ih (.refl hstep.schema hstep.eventIds))

end Operations

end DecisionFirewall.StageA
