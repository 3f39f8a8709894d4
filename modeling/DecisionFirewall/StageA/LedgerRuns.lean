import DecisionFirewall.StageA.TerminalResults
import DecisionFirewall.StageA.UnlinkedAttempts

/-!
# Runs of the Control Ledger

Which operations keep an accepted ledger accepted, for all eight writers and for
authorizations with and without a request, and what every run of such operations
leaves of a terminal result.

- §1 writers on unlinked authorizations
- §2 the branches that commit an unaccepted ledger
- §3 the commit of a completion
- §4 terminal results through a run
-/

namespace DecisionFirewall.StageA

open Lib.Table

section Unlinked

variable {rt : Runtime} {L L' : Ledger}

/-! ## §1 Writers on unlinked authorizations -/

/-- An accepted ledger is where runs start. -/
theorem Accepted.keepsTerminal (h : Accepted rt L) : KeepsTerminal L L :=
  .refl h.schema h.relations.eventId_le

theorem RegisterArgs.toRow_eq_ok_unlinked {args : RegisterArgs} {a : AuthorizationRow}
    (hlinked : ¬ args.Linked) (h : args.toRow rt = .ok a) :
    a.link = none ∧ a.state = .issued ∧
      (IsIdentifier a.tokenId ∧ IsIdentifier a.verificationId ∧ IsIdentifier a.decisionId) ∧
      rt.IsOffsetTimestamp a.issuedAt := by
  simp only [RegisterArgs.toRow, RegisterArgs.toLink, if_neg hlinked, bind_eq_ok, require_eq_ok,
    exists_const, pure, Except.pure, Except.ok.injEq, exists_eq_left'] at h
  obtain ⟨htoken, hverification, hdecision, hissued, rfl⟩ := h
  exact ⟨rfl, rfl, ⟨htoken, hverification, hdecision⟩, hissued⟩

theorem register_unlinked_accepted (h : Accepted rt L) {args : RegisterArgs}
    (hlinked : ¬ args.Linked) : Accepted rt (register rt args L).ledger := by
  refine checked_transaction_preserved h ?_
  intro a _ L' hrow hbody
  rw [onIntegrity_eq_ok] at hbody
  obtain ⟨hl, hstate, hids, hat⟩ := RegisterArgs.toRow_eq_ok_unlinked hlinked hrow
  have hschema := (h.keepsTerminal.registerBody hbody).schema
  obtain ⟨hfresh, rfl⟩ := registerBody_unlinked hl hbody
  exact (issue_commit h hl hstate hids hat hschema hfresh).accepted h

/-- What the checks of `consume_once` leave of a reservation. -/
theorem ConsumeArgs.check_eq_ok_unlinked {args : ConsumeArgs} {now : String}
    {reservation : Option Reservation} {consumedAt : String}
    (h : args.check rt now = .ok (reservation, consumedAt)) :
    rt.IsOffsetTimestamp consumedAt ∧ ∀ res ∈ reservation, IsIdentifier res.attemptId ∧
      IsSha256 res.bindingSha256 ∧ res.idempotencyKey = res.bindingSha256 := by
  simp only [ConsumeArgs.check, bind_eq_ok, require_eq_ok, exists_const, pure, Except.pure,
    Except.ok.injEq, Prod.mk.injEq] at h
  obtain ⟨-, _, hreservation, hat, rfl, rfl⟩ := h
  refine ⟨hat, fun res hres => ?_⟩
  cases hres
  unfold ConsumeArgs.toReservation at hreservation
  split at hreservation
  · simp [pure, Except.pure] at hreservation
  · simp only [require_bind_eq_ok, pure, Except.pure, Except.ok.injEq,
      Option.some.injEq] at hreservation
    obtain ⟨hid, hbinding, -, -, hsame, -, rfl⟩ := hreservation
    exact ⟨hid, hbinding, hsame⟩
  · cases hreservation

/-- An unlinked authorization is consumed without an attempt or with one. -/
theorem consumeOnceBody_unlinked (h : Accepted rt L) {tokenId : String}
    {reservation : Option Reservation} {summary : Option RecoverySummary} {consumedAt : String}
    {u : Unit} {a : AuthorizationRow} (ha : a ∈ L.authorizations) (htoken : a.tokenId = tokenId)
    (hl : a.link = none)
    (hbody : consumeOnceBody rt tokenId reservation summary consumedAt L = .ok (u, L')) :
    a.state = .issued ∧ rt.AtMost a.issuedAt consumedAt ∧
      ((reservation = none ∧ L' = endedLedger rt L a (.consumed consumedAt) .authorizationConsumed
          (authorizationConsumedPayload none) consumedAt) ∨
        ∃ res, reservation = some res ∧
          res.attemptId ∉ L.attempts.map AttemptRow.attemptId ∧
          L' = unlinkedConsumedLedger rt L a res consumedAt) := by
  subst htoken
  have hfound := (Ledger.authorization_eq_some h.schema).mpr ⟨ha, rfl⟩
  unfold consumeOnceBody at hbody
  cases reservation with
  | none =>
    simp only [hfound, bind_eq_ok, require_eq_ok, exists_const, pure, Except.pure,
      Except.ok.injEq, Prod.mk.injEq, exists_eq_left'] at hbody
    obtain ⟨hstate, ⟨htime, -⟩, _, -, L₂, hconsumed, -, rfl⟩ := hbody
    obtain ⟨-, rfl⟩ := Ledger.insertOutbox_eq_ok.mp hconsumed
    exact ⟨hstate, htime, .inl ⟨rfl, rfl⟩⟩
  | some res =>
    simp only [hfound, requireSummary, hl, bind_eq_ok, require_eq_ok, exists_const, pure,
      Except.pure, Except.ok.injEq, Prod.mk.injEq] at hbody
    obtain ⟨hstate, ⟨htime, -⟩, rfl, L₁, hreserve, L₂, hconsumed, -, rfl⟩ := hbody
    simp only [reserveAttempt, hl, bind_eq_ok, pure, Except.pure, Except.ok.injEq,
      exists_eq_left'] at hreserve
    obtain ⟨L₃, hattempt, hreserved⟩ := hreserve
    obtain ⟨⟨hid, -⟩, rfl⟩ := Ledger.insertAttempt_eq_ok.mp hattempt
    obtain ⟨-, rfl⟩ := Ledger.insertOutbox_eq_ok.mp hreserved
    obtain ⟨-, rfl⟩ := Ledger.insertOutbox_eq_ok.mp hconsumed
    refine ⟨hstate, htime, .inr ⟨res, rfl, hid, ?_⟩⟩
    simp only [unlinkedConsumedLedger, Ledger.updateAuthorizations, List.append_assoc]
    rfl

theorem consumeOnce_unlinked_accepted (h : Accepted rt L) {now : String} {args : ConsumeArgs}
    {a : AuthorizationRow} (ha : a ∈ L.authorizations) (htoken : a.tokenId = args.tokenId)
    (hl : a.link = none) : Accepted rt (consumeOnce rt now args L).ledger := by
  refine checked_transaction_preserved h ?_
  rintro ⟨reservation, consumedAt⟩ _ L' hcheck hbody
  rw [onIntegrity_eq_ok] at hbody
  have hschema := (h.keepsTerminal.consumeOnceBody hbody).schema
  obtain ⟨hat, hres⟩ := ConsumeArgs.check_eq_ok_unlinked hcheck
  obtain ⟨hstate, htime, ⟨-, rfl⟩ | ⟨res, rfl, hid, rfl⟩⟩ :=
    consumeOnceBody_unlinked h ha htoken hl hbody
  · exact ended_accepted h ha hl hstate (.consumed consumedAt) hat htime hschema
  · obtain ⟨hidentifier, hsha, hkey⟩ := hres res rfl
    exact unlinkedConsumed_accepted h ha hl hstate hidentifier hsha hkey hat htime hschema hid

theorem recordAdapterReceipt_unlinked_accepted (h : Accepted rt L)
    {attemptId adapterReceiptSha256 receiptOutcomeSha256 recordedAt : String} {t : AttemptRow}
    (ht : t ∈ L.attempts) (hid : t.attemptId = attemptId) (hl : t.link = none) :
    Accepted rt (recordAdapterReceipt rt attemptId adapterReceiptSha256 receiptOutcomeSha256
      recordedAt L).ledger := by
  refine checked_transaction_preserved h ?_
  intro _ _ L' hargs hbody
  rw [require_eq_ok] at hargs
  rw [onIntegrity_eq_ok] at hbody
  rcases recordAdapterReceiptBody_eq_ok h hbody with rfl | ⟨u, hu, rfl, hs, htime, hevent, rfl⟩
  · exact h
  · have hut := eq_of_nodup_key h.schema.attemptIds ht hu hid
    subst hut
    exact unlinkedReceipt_accepted h ht hl hs hargs htime hevent

/-- A call of the six writers, on any authorization. -/
theorem LedgerCall.accepted_any (h : Accepted rt L) {call : LedgerCall}
    (hsafe : ¬ call.CommitsUnaccepted rt L) : Accepted rt (call.run rt L).ledger := by
  by_cases hlinked : call.RequestLinked L
  · exact LedgerCall.accepted h hlinked hsafe
  cases call with
  | claimRequest k s a => exact absurd trivial hlinked
  | register args => exact register_unlinked_accepted h hlinked
  | consumeOnce now args =>
    simp only [LedgerCall.RequestLinked, not_forall, Option.not_isSome_iff_eq_none] at hlinked
    obtain ⟨a, ha, htoken, hl⟩ := hlinked
    exact consumeOnce_unlinked_accepted h ha htoken hl
  | recordAdapterReceipt i s o a =>
    simp only [LedgerCall.RequestLinked, not_forall, Option.not_isSome_iff_eq_none] at hlinked
    obtain ⟨t, ht, hid, hl⟩ := hlinked
    exact recordAdapterReceipt_unlinked_accepted h ht hid hl
  | revokeIssuedForRequest k s q a => exact absurd trivial hlinked
  | completeRequest args => exact absurd trivial hlinked

end Unlinked

/-! ## §2 The branches that commit an unaccepted ledger -/

section Branches

variable (rt : Runtime) (L : Ledger)

/-- The end of an unlinked attempt does not fit what was recorded: a known effect
without a recorded receipt, a recorded receipt that the event leaves out, or a receipt
that was recorded later. -/
def OutcomeArgs.Misfits (a : OutcomeArgs) (t : AttemptRow) : Prop :=
  (t.state = .reserved ∧ a.outcomeState ≠ .unknownEffect) ∨
    eventDigest rt ⟨.attemptTerminal, t.attemptId⟩
        (attemptTerminalPayload a.outcomeState a.outcomeSha256 a.adapterReceiptSha256) ≠
      eventDigest rt ⟨.attemptTerminal, t.attemptId⟩
        (attemptTerminalPayload a.outcomeState a.outcomeSha256
          (a.adapterReceiptSha256 <|> t.state.adapterReceiptSha256)) ∨
    ∃ o ∈ L.auditOutbox, o.key = ⟨.adapterReceiptRecorded, t.attemptId⟩ ∧
      ¬ rt.AtMost o.createdAt a.completedAt

/-- A recovery that commits, with a clock that is no durable timestamp or that is
earlier than a recorded receipt. -/
def RecoveryMisfits (recoveryAt : String) : Prop :=
  (∀ t ∈ L.attempts, t.link.isSome = true → t.state.effect.isSome = true) ∧
    (∀ t ∈ L.incompleteAttempts, rt.AtMost t.reservedAt recoveryAt) ∧
    (∀ z ∈ L.issuedUnlinked, rt.AtMost z.issuedAt recoveryAt) ∧
    ((¬ rt.IsOffsetTimestamp recoveryAt ∧ (L.incompleteAttempts ≠ [] ∨ L.issuedUnlinked ≠ [])) ∨
      ∃ t ∈ L.incompleteAttempts, ∃ o ∈ L.auditOutbox,
        o.key = ⟨.adapterReceiptRecorded, t.attemptId⟩ ∧ ¬ rt.AtMost o.createdAt recoveryAt)

/-- The branches of the eight writers that commit a ledger which is not accepted. -/
def LedgerOperation.CommitsUnaccepted : LedgerOperation → Prop
  | .call c => c.CommitsUnaccepted rt L
  | .recordAttemptOutcome a => a.Ok rt ∧ ∃ t ∈ L.attempts, t.attemptId = a.attemptId ∧
      t.link = none ∧ t.state.effect = none ∧ rt.AtMost t.reservedAt a.completedAt ∧
      (a.newState t.state).CheckOk ∧ a.Misfits rt L t
  | .recoverIncompleteAttempts operatorAssertedQuiesced recoveryAt =>
    operatorAssertedQuiesced = true ∧ RecoveryMisfits rt L recoveryAt

end Branches

section Safe

variable {rt : Runtime} {L L' : Ledger}

/-- An outcome is recorded for an open attempt, or repeated. -/
theorem recordAttemptOutcomeBody_eq_ok (h : Accepted rt L) {a : OutcomeArgs} {u : Unit}
    (hbody : recordAttemptOutcomeBody rt a L = .ok (u, L')) :
    L' = L ∨ ∃ t ∈ L.attempts, t.attemptId = a.attemptId ∧ t.link = none ∧
      t.state.effect = none ∧ rt.AtMost t.reservedAt a.completedAt ∧
      (a.newState t.state).CheckOk ∧
      L' = terminatedLedger rt L t a.outcomeState a.outcomeSha256
        (a.adapterReceiptSha256 <|> t.state.adapterReceiptSha256) a.completedAt .attemptTerminal
        (attemptTerminalPayload a.outcomeState a.outcomeSha256 a.adapterReceiptSha256) := by
  unfold recordAttemptOutcomeBody at hbody
  cases hfound : L.attempt a.attemptId with
  | none => simp [hfound] at hbody
  | some t =>
    obtain ⟨ht, hid⟩ := (Ledger.attempt_eq_some h.schema).mp hfound
    simp only [hfound, require_bind_eq_ok] at hbody
    obtain ⟨hl, htime, hbody⟩ := hbody
    have hterminate : ∀ s, t.state = s → s.effect = none → terminateAttempt rt a s L = .ok L' →
        (a.newState t.state).CheckOk ∧
          L' = terminatedLedger rt L t a.outcomeState a.outcomeSha256
            (a.adapterReceiptSha256 <|> t.state.adapterReceiptSha256) a.completedAt
            .attemptTerminal (attemptTerminalPayload a.outcomeState a.outcomeSha256
              a.adapterReceiptSha256) := by
      rintro s rfl hopen hs
      simp only [terminateAttempt, require_bind_eq_ok, Ledger.insertOutbox_eq_ok] at hs
      obtain ⟨hcheck, -, rfl⟩ := hs
      refine ⟨hcheck, ?_⟩
      simp only [terminatedLedger, updatedLedger, updatedRow, hid]
      rfl
    cases hs : t.state with
    | terminal e o r c =>
      simp only [hs, require_bind_eq_ok, pure, Except.pure, Except.ok.injEq,
        Prod.mk.injEq] at hbody
      exact .inl hbody.2.2.symm
    | reserved =>
      simp only [hs, bind_eq_ok, pure, Except.pure, Except.ok.injEq, Prod.mk.injEq] at hbody
      obtain ⟨_, hM, -, rfl⟩ := hbody
      obtain ⟨hcheck, heq⟩ := hterminate _ hs rfl hM
      exact .inr ⟨t, ht, hid, hl, by simp [hs, AttemptState.effect], htime, hs ▸ hcheck, hs ▸ heq⟩
    | receiptRecorded o r =>
      simp only [hs, bind_eq_ok, pure, Except.pure, Except.ok.injEq, Prod.mk.injEq] at hbody
      obtain ⟨_, hM, -, rfl⟩ := hbody
      obtain ⟨hcheck, heq⟩ := hterminate _ hs rfl hM
      exact .inr ⟨t, ht, hid, hl, by simp [hs, AttemptState.effect], htime, hs ▸ hcheck, hs ▸ heq⟩

theorem recordAttemptOutcome_accepted (h : Accepted rt L) {a : OutcomeArgs}
    (hsafe : ¬ (LedgerOperation.recordAttemptOutcome a).CommitsUnaccepted rt L) :
    Accepted rt (recordAttemptOutcome rt a L).ledger := by
  refine checked_transaction_preserved h ?_
  intro _ _ L' hargs hbody
  rw [require_eq_ok] at hargs
  rw [onIntegrity_eq_ok] at hbody
  have hschema := (h.keepsTerminal.recordAttemptOutcomeBody hbody).schema
  rcases recordAttemptOutcomeBody_eq_ok h hbody with
    rfl | ⟨t, ht, hid, hl, hopen, htime, hcheck, rfl⟩
  · exact h
  · have hfits : ¬ a.Misfits rt L t := fun hbad =>
      hsafe ⟨hargs, t, ht, hid, hl, hopen, htime, hcheck, hbad⟩
    simp only [OutcomeArgs.Misfits, not_or, not_and, not_not, not_exists] at hfits
    obtain ⟨hreserved, hdigest, hreceipt⟩ := hfits
    obtain ⟨-, houtcome, hat, hsha⟩ := hargs
    have hok := h.relations.unlinkedAttempts t ht hl
    refine TerminationOk.accepted ⟨hopen, hreserved, ?_, .inl ⟨rfl, hdigest⟩, houtcome, ?_,
      ⟨hat, htime⟩, hreceipt⟩ h ht hl hschema
    · cases a.adapterReceiptSha256 <;> simp
    · intro x hx
      cases hr : a.adapterReceiptSha256 with
      | none =>
        rw [hr] at hx
        exact hok.receipt x hx
      | some r =>
        rw [hr] at hx hsha
        cases hx
        exact hsha _ rfl

/-- What a loop requires of every element and keeps in every round. -/
theorem foldlM_eq_ok {α β : Type} {f : Ledger → α → Except LedgerError Ledger} {P : α → Prop}
    {g : Ledger → β} (hf : ∀ x N N', f N x = .ok N' → P x ∧ g N' = g N) {xs : List α}
    {M M' : Ledger} (hrun : xs.foldlM f M = .ok M') : (∀ x ∈ xs, P x) ∧ g M' = g M := by
  induction xs generalizing M with
  | nil =>
    simp only [List.foldlM_nil, pure, Except.pure, Except.ok.injEq] at hrun
    simp [hrun]
  | cons x xs ih =>
    rw [List.foldlM_cons, bind_eq_ok] at hrun
    obtain ⟨N, hN, hrest⟩ := hrun
    obtain ⟨hx, hsame⟩ := hf x M N hN
    obtain ⟨hxs, hsame'⟩ := ih hrest
    refine ⟨fun y hy => ?_, hsame'.trans hsame⟩
    rcases List.mem_cons.mp hy with rfl | hy
    · exact hx
    · exact hxs y hy

theorem mem_incompleteAttempts {t : AttemptRow} :
    t ∈ L.incompleteAttempts ↔ t ∈ L.attempts ∧ t.link = none ∧ t.state.effect = none := by
  simp [Ledger.incompleteAttempts]

theorem mem_issuedUnlinked {z : AuthorizationRow} :
    z ∈ L.issuedUnlinked ↔ z ∈ L.authorizations ∧ z.link = none ∧ z.state = .issued := by
  simp [Ledger.issuedUnlinked]

theorem nodup_incompleteAttempts (hs : L.SchemaOk) :
    (L.incompleteAttempts.map AttemptRow.attemptId).Nodup := by
  have hperm := List.mergeSort_perm
    (L.attempts.filter fun t => t.link = none ∧ t.state.effect = none)
    fun t u => decide (t.attemptId ≤ u.attemptId)
  refine (hperm.map AttemptRow.attemptId).nodup_iff.mpr ?_
  exact hs.attemptIds.sublist (List.filter_sublist.map _)

/-- The rows that the rest of the recovery of attempts works on. -/
structure RecoveryReady (rt : Runtime) (recoveryAt : String) (ts : List AttemptRow)
    (N : Ledger) : Prop where
  accepted : Accepted rt N
  distinct : (ts.map AttemptRow.attemptId).Nodup
  rows : ∀ t ∈ ts, t ∈ N.attempts ∧ t.link = none ∧ t.state.effect = none
  receipts : ∀ t ∈ ts, ∀ o ∈ N.auditOutbox, o.key = ⟨.adapterReceiptRecorded, t.attemptId⟩ →
    rt.AtMost o.createdAt recoveryAt

/-- One round of the recovery of attempts. -/
theorem RecoveryReady.step {recoveryAt : String} {t : AttemptRow} {ts : List AttemptRow}
    {N N' : Ledger} (h : RecoveryReady rt recoveryAt (t :: ts) N)
    (hat : rt.IsOffsetTimestamp recoveryAt) (hstep : recoverAttempt rt recoveryAt N t = .ok N') :
    RecoveryReady rt recoveryAt ts N' := by
  obtain ⟨ht, hl, hopen⟩ := h.rows t List.mem_cons_self
  have hok := h.accepted.relations.unlinkedAttempts t ht hl
  have hcheck : (recoveredState rt recoveryAt t).CheckOk := fun hne => absurd rfl hne
  have hschema : N'.SchemaOk := by
    simp only [recoverAttempt, require_bind_eq_ok] at hstep
    exact (h.accepted.schema.updateAttempts hcheck).insertOutbox rt
      h.accepted.relations.eventId_le hstep.2
  simp only [recoverAttempt, require_bind_eq_ok, Ledger.insertOutbox_eq_ok] at hstep
  obtain ⟨htime, -, rfl⟩ := hstep
  have hend : TerminationOk rt N t .unknownEffect (recoveredOutcomeSha256 rt t.attemptId)
      t.state.adapterReceiptSha256 recoveryAt .attemptRecoveredUnknown
      attemptRecoveredUnknownPayload :=
    ⟨hopen, fun _ => rfl, id, .inr ⟨rfl, rfl, rfl⟩, rt.sha256Json_isSha256 _, hok.receipt,
      ⟨hat, htime⟩, h.receipts t List.mem_cons_self⟩
  refine ⟨?_, ?_, ?_, ?_⟩
  · exact hend.accepted h.accepted ht hl hschema
  · exact (List.nodup_cons.mp h.distinct).2
  · intro u hu
    obtain ⟨hmem, hlink, heffect⟩ := h.rows u (List.mem_cons_of_mem _ hu)
    refine ⟨?_, hlink, heffect⟩
    -- another attempt has another identifier
    have hne : u.attemptId ≠ t.attemptId := by
      intro heq
      exact (List.nodup_cons.mp h.distinct).1 (List.mem_map.mpr ⟨u, hu, heq⟩)
    exact mem_updateWhere.mpr ⟨u, hmem, by simp [hne]⟩
  · intro u hu o ho hkey
    rcases List.mem_append.mp ho with ho | ho
    · exact h.receipts u (List.mem_cons_of_mem _ hu) o ho hkey
    · rw [List.mem_singleton.mp ho] at hkey
      cases congrArg EventKey.eventType hkey

theorem RecoveryReady.run {recoveryAt : String} {ts : List AttemptRow} {N N' : Ledger}
    (h : RecoveryReady rt recoveryAt ts N) (hat : rt.IsOffsetTimestamp recoveryAt)
    (hrun : ts.foldlM (recoverAttempt rt recoveryAt) N = .ok N') : Accepted rt N' := by
  induction ts generalizing N with
  | nil =>
    simp only [List.foldlM_nil, pure, Except.pure, Except.ok.injEq] at hrun
    exact hrun ▸ h.accepted
  | cons t ts ih =>
    rw [List.foldlM_cons, bind_eq_ok] at hrun
    obtain ⟨M, hM, hrest⟩ := hrun
    exact ih (h.step hat hM) hrest

/-- The loop over the issued authorizations without a request. -/
theorem revokeUnlinked_run {recoveryAt : String} (hat : rt.IsOffsetTimestamp recoveryAt)
    {zs : List AuthorizationRow} {N N' : Ledger} (h : Accepted rt N)
    (hdistinct : (zs.map AuthorizationRow.tokenId).Nodup)
    (hrows : ∀ z ∈ zs, z ∈ N.authorizations ∧ z.link = none ∧ z.state = .issued)
    (hrun : zs.foldlM (revokeUnlinked rt recoveryAt) N = .ok N') : Accepted rt N' := by
  induction zs generalizing N with
  | nil =>
    simp only [List.foldlM_nil, pure, Except.pure, Except.ok.injEq] at hrun
    exact hrun ▸ h
  | cons z zs ih =>
    rw [List.foldlM_cons, bind_eq_ok] at hrun
    obtain ⟨M, hM, hrest⟩ := hrun
    obtain ⟨hz, hl, hstate⟩ := hrows z List.mem_cons_self
    have hschema : M.SchemaOk := by
      simp only [revokeUnlinked, require_bind_eq_ok] at hM
      exact h.schema.updateAuthorizations.insertOutbox rt h.relations.eventId_le hM.2
    simp only [revokeUnlinked, require_bind_eq_ok, Ledger.insertOutbox_eq_ok] at hM
    obtain ⟨htime, -, rfl⟩ := hM
    have haccepted := ended_accepted h hz hl hstate (.revoked recoveryAt) hat htime hschema
    refine ih haccepted (List.nodup_cons.mp hdistinct).2 (fun y hy => ?_) hrest
    obtain ⟨hmem, hlink, hissued⟩ := hrows y (List.mem_cons_of_mem _ hy)
    refine ⟨(mem_updateAuthorizations_of_ne ?_).mpr hmem, hlink, hissued⟩
    intro heq
    exact (List.nodup_cons.mp hdistinct).1 (List.mem_map.mpr ⟨y, hy, heq⟩)

theorem recoverIncompleteAttempts_accepted (h : Accepted rt L) {quiesced : Bool}
    {recoveryAt : String}
    (hsafe : ¬ (LedgerOperation.recoverIncompleteAttempts quiesced recoveryAt).CommitsUnaccepted
      rt L) : Accepted rt (recoverIncompleteAttempts rt quiesced recoveryAt L).ledger := by
  refine checked_transaction_preserved h ?_
  intro _ n L' hargs hbody
  rw [require_eq_ok] at hargs
  simp only [onIntegrity_eq_ok, recoverIncompleteBody, bind_eq_ok, require_eq_ok, exists_const,
    pure, Except.pure, Except.ok.injEq, Prod.mk.injEq] at hbody
  obtain ⟨hlinked, L₁, hattempts, L₂, hrevoked, -, rfl⟩ := hbody
  obtain ⟨htimes, hauths⟩ := foldlM_eq_ok (P := fun t => rt.AtMost t.reservedAt recoveryAt)
    (g := Ledger.authorizations) (fun t N N' hstep => by
      simp only [recoverAttempt, require_bind_eq_ok, Ledger.insertOutbox_eq_ok] at hstep
      obtain ⟨htime, -, rfl⟩ := hstep
      exact ⟨htime, rfl⟩) hattempts
  have hissued : L₁.issuedUnlinked = L.issuedUnlinked := by
    simp only [Ledger.issuedUnlinked, hauths]
  rw [hissued] at hrevoked
  obtain ⟨hissuedTimes, -⟩ := foldlM_eq_ok (P := fun z => rt.AtMost z.issuedAt recoveryAt)
    (g := Ledger.requests) (fun z N N' hstep => by
      simp only [revokeUnlinked, require_bind_eq_ok, Ledger.insertOutbox_eq_ok] at hstep
      obtain ⟨htime, -, rfl⟩ := hstep
      exact ⟨htime, rfl⟩) hrevoked
  have hcommits := fun hbad => hsafe ⟨hargs, hlinked, htimes, hissuedTimes, hbad⟩
  by_cases hat : rt.IsOffsetTimestamp recoveryAt
  · have hreceipts : ∀ t ∈ L.incompleteAttempts, ∀ o ∈ L.auditOutbox,
        o.key = ⟨.adapterReceiptRecorded, t.attemptId⟩ → rt.AtMost o.createdAt recoveryAt := by
      intro t ht o ho hkey
      by_contra hlate
      exact hcommits (.inr ⟨t, ht, o, ho, hkey, hlate⟩)
    have hready : RecoveryReady rt recoveryAt L.incompleteAttempts L :=
      ⟨h, nodup_incompleteAttempts h.schema, fun t ht => mem_incompleteAttempts.mp ht, hreceipts⟩
    refine revokeUnlinked_run hat (hready.run hat hattempts) ?_ (fun z hz => ?_) hrevoked
    · exact h.schema.tokenIds.sublist (List.filter_sublist.map _)
    · rw [hauths]
      exact mem_issuedUnlinked.mp hz
  · -- without rows to recover the clock is not used
    have hnone : L.incompleteAttempts = [] := by
      by_contra hsome
      exact hcommits (.inl ⟨hat, .inl hsome⟩)
    have hnone' : L.issuedUnlinked = [] := by
      by_contra hsome
      exact hcommits (.inl ⟨hat, .inr hsome⟩)
    rw [hnone] at hattempts
    rw [hnone'] at hrevoked
    simp only [List.foldlM_nil, pure, Except.pure, Except.ok.injEq] at hattempts hrevoked
    rw [← hrevoked, ← hattempts]
    exact h

/-- An operation outside the branches leaves an accepted ledger. -/
theorem LedgerOperation.accepted (h : Accepted rt L) {op : LedgerOperation}
    (hsafe : ¬ op.CommitsUnaccepted rt L) : Accepted rt (op.run rt L).ledger := by
  cases op with
  | call c => exact LedgerCall.accepted_any h hsafe
  | recordAttemptOutcome a => exact recordAttemptOutcome_accepted h hsafe
  | recoverIncompleteAttempts q recoveryAt => exact recoverIncompleteAttempts_accepted h hsafe

/-- No operation of the run takes one of the branches. -/
def RunSafe (rt : Runtime) : Ledger → List LedgerOperation → Prop
  | _, [] => True
  | L, op :: ops => ¬ op.CommitsUnaccepted rt L ∧ RunSafe rt (op.run rt L).ledger ops

/-- Such a run ends in an accepted ledger. -/
theorem runOperations_accepted (h : Accepted rt L) {ops : List LedgerOperation}
    (hsafe : RunSafe rt L ops) : Accepted rt (runOperations rt L ops) := by
  induction ops generalizing L with
  | nil => exact h
  | cons op ops ih => exact ih (op.accepted h hsafe.1) hsafe.2

end Safe

/-! ## §3 The commit of a completion -/

section Commit

variable {rt : Runtime} {L L' : Ledger} {stored : RequestLookupResult}
  {completion : Option AttemptCompletion}

/-- A completion that returns leaves its result stored, whether it closed the request or
repeated an earlier completion. -/
theorem holdsResult_of_completeRequestBody (h : Accepted rt L) {u : Unit}
    (hbody : completeRequestBody rt stored completion L = .ok (u, L')) :
    HoldsResult rt L' stored := by
  unfold completeRequestBody at hbody
  cases hrequest : L.request stored.key with
  | none => simp [hrequest] at hbody
  | some r =>
    obtain ⟨hr, hrk⟩ := (Ledger.request_eq_some h.schema).mp hrequest
    simp only [hrequest, bind_eq_ok, require_eq_ok, exists_const] at hbody
    obtain ⟨hsha, -, attempt, -, hbody⟩ := hbody
    by_cases hterminal : r.state = .terminal
    · rw [if_pos hterminal] at hbody
      simp only [repeatCompletion, require_bind_eq_ok, pure, Except.pure, Except.ok.injEq,
        Prod.mk.injEq] at hbody
      obtain ⟨⟨x, hx, hdigest, hrender⟩, -, -, rfl⟩ := hbody
      -- the one stored result has the text of this one
      have htext : canonicalJson x.result.toDict = canonicalJson stored.toDict :=
        congrArg String.ofList hrender
      have hresult : x.result = stored := RequestLookupResult.eq_of_toDict htext
      have hmem : x ∈ L.resultsOf r.key := by
        rw [hrk]
        exact List.mem_of_mem_head? hx
      have hxok := (h.relations.requests r hr).result x hmem
      have hrow : x = storedResultRow rt stored := by
        obtain ⟨principalId, requestId, result, resultSha256, terminalAt⟩ := x
        have hkey := (Ledger.mem_resultsOf.mp hmem).2
        simp only [ResultRow.key, hrk, RequestLookupResult.key, RequestKey.mk.injEq] at hkey
        simp only [storedResultRow, ResultRow.mk.injEq]
        exact ⟨hkey.1, hkey.2, hresult, hdigest, hxok.terminal.1.trans (by rw [hresult])⟩
      refine ⟨⟨r, hr, hrk, hsha, hterminal⟩, ?_⟩
      have hone : ∀ y ∈ L.resultsOf stored.key, y = x := fun y hy =>
        eq_of_nodup_key h.schema.resultKeys (Ledger.mem_resultsOf.mp hy).1
          (Ledger.mem_resultsOf.mp hmem).1 (by
            rw [(Ledger.mem_resultsOf.mp hy).2, (Ledger.mem_resultsOf.mp hmem).2, hrk])
      rw [← hrow]
      rw [hrk] at hmem
      have hnodup : (L.resultsOf stored.key).Nodup :=
        (List.Nodup.of_map _ h.schema.resultKeys).filter _
      generalize hrows : L.resultsOf stored.key = xs at hmem hone hnodup
      match xs, hmem, hone, hnodup with
      | [y], _, hone, _ => rw [hone y List.mem_cons_self]
      | y :: z :: _, _, hone, hnodup =>
        have hyz : y = z := (hone y (by simp)).trans (hone z (by simp)).symm
        simp [hyz] at hnodup
    · rw [if_neg hterminal] at hbody
      simp only [bind_eq_ok, require_eq_ok, exists_const] at hbody
      obtain ⟨-, -, -, hresults, hbody⟩ := hbody
      cases attempt with
      | none =>
        simp only [pure, Except.pure] at hbody
        exact holdsResult_of_storeResult ⟨r, hr, hrk, hsha, hterminal⟩ hresults hbody
      | some p =>
        rw [bind_eq_ok] at hbody
        obtain ⟨M, hclosed, hstore⟩ := hbody
        obtain ⟨hrequests, hresults'⟩ := closeAttempt_keeps hclosed
        refine holdsResult_of_storeResult ⟨r, ?_, hrk, hsha, hterminal⟩ ?_ hstore
        · rw [hrequests]
          exact hr
        · rw [Ledger.resultsOf, hresults']
          exact hresults

/-- What `complete_request` commits when it returns. -/
theorem completeRequest_committed (h : Accepted rt L) {args : CompleteArgs}
    (hcommit : (completeRequest rt args L).result = .ok ()) :
    (∃ completion, args.check rt = .ok completion) ∧
      HoldsResult rt (completeRequest rt args L).ledger args.result.stored := by
  rcases checked_transaction_cases rt L (args.check rt) (fun completion L =>
      onIntegrity .requestResultConflict
        (completeRequestBody rt args.result.stored completion L)) with
    ⟨e, he⟩ | ⟨completion, u, L', hcheck, hbody, hrun⟩
  · have herror : completeRequest rt args L = ⟨.error e, L⟩ := he
    rw [herror] at hcommit
    cases hcommit
  · rw [onIntegrity_eq_ok] at hbody
    have hok : completeRequest rt args L = ⟨.ok u, L'⟩ := hrun
    rw [hok]
    exact ⟨⟨completion, hcheck⟩, holdsResult_of_completeRequestBody h hbody⟩

/-- The exact repetition of a completion returns and changes nothing. -/
theorem HoldsResult.completeRequest {args : CompleteArgs}
    (h : HoldsResult rt L args.result.stored) (hL : Accepted rt L)
    (hcheck : args.check rt = .ok completion) : completeRequest rt args L = ⟨.ok (), L⟩ := by
  have hbody := h.completeRequestBody hL (CompleteArgs.check_eq_ok hcheck)
  simp only [StageA.completeRequest, hcheck, checked]
  exact transaction_of_ok hL.relations (onIntegrity_eq_ok.mpr hbody)

/-- A completion of the same request with another result raises and changes nothing. -/
theorem HoldsResult.completeRequest_other {x : RequestLookupResult} (h : HoldsResult rt L x)
    (hL : Accepted rt L) {other : CompleteArgs} (hkey : other.result.key = x.key)
    (hne : other.result.stored ≠ x) : ∃ e, StageA.completeRequest rt other L = ⟨.error e, L⟩ := by
  rcases checked_transaction_cases rt L (other.check rt) (fun completion L =>
      onIntegrity .requestResultConflict
        (StageA.completeRequestBody rt other.result.stored completion L)) with
    ⟨e, he⟩ | ⟨completion, u, L', -, hbody, -⟩
  · exact ⟨e, he⟩
  · rw [onIntegrity_eq_ok] at hbody
    have hstored : other.result.stored.key = x.key := hkey
    exact absurd (h.completeRequestBody_eq_ok hL hstored hbody).2 hne

/-- A lookup that returns has validated the ledger. -/
theorem lookup_validates {k : RequestKey} {requestSha256 : String}
    {x : Option RequestLookupResult} (h : lookupRequestResult rt k requestSha256 L = .ok x) :
    ControlRelationsOk rt L := by
  unfold lookupRequestResult at h
  rw [require_bind_eq_ok, require_bind_eq_ok] at h
  exact h.2.1

end Commit

/-! ## §4 Terminal results through a run -/

section Run

variable {rt : Runtime} {L : Ledger}

/-- After a completion has committed, no operation of a run that stays outside the
branches changes what the ledger answers about it. -/
theorem terminal_result_immutable (rt : Runtime) (L : Ledger) (args : CompleteArgs)
    (ops : List LedgerOperation) (h : Accepted rt L)
    (hcommit : (completeRequest rt args L).result = .ok ())
    (hsafe : RunSafe rt L (.call (.completeRequest args) :: ops)) :
    let M := runOperations rt (completeRequest rt args L).ledger ops
    lookupRequestResult rt args.result.key args.result.requestSha256 M =
        .ok (some args.result.asReplay) ∧
      completeRequest rt args M = ⟨.ok (), M⟩ ∧
      (∀ other : CompleteArgs, other.result.key = args.result.key →
        other.result.stored ≠ args.result.stored →
          ∃ e, completeRequest rt other M = ⟨.error e, M⟩) ∧
      ∀ requestSha256, IsSha256 requestSha256 → requestSha256 ≠ args.result.requestSha256 →
        lookupRequestResult rt args.result.key requestSha256 M = .error .requestIdConflict := by
  intro M
  obtain ⟨⟨completion, hcheck⟩, hcommitted⟩ := completeRequest_committed h hcommit
  have haccepted : Accepted rt (completeRequest rt args L).ledger :=
    LedgerOperation.accepted h hsafe.1
  -- the rows of the result stay, and the ledger stays accepted
  have hM : Accepted rt M := runOperations_accepted haccepted hsafe.2
  have hholds : HoldsResult rt M args.result.stored :=
    hcommitted.of_keepsTerminal (runOperations_keepsTerminal haccepted.keepsTerminal ops)
  have hkey : args.result.stored.key = args.result.key := rfl
  refine ⟨?_, hholds.completeRequest hM hcheck, fun other hother hne => ?_, fun _ hsha hne => ?_⟩
  · exact hholds.lookup hM
  · exact hholds.completeRequest_other hM (hother.trans hkey.symm) hne
  · exact hholds.lookup_conflict hM hsha hne

end Run

/-- A denial of the request `r-1` of `alpha`. -/
def deniedResult : RequestLookupResult where
  schemaVersion := REQUEST_LOOKUP_SCHEMA_VERSION
  principalId := "alpha"
  requestId := "r-1"
  requestSha256 := requestDigest
  disposition := .deniedNoEffect
  decisionId := "decision-1"
  decisionOutcome := .deny
  decisionSha256 := requestDigest
  decisionContextSha256 := requestDigest
  policySha256 := requestDigest
  verificationStatus := .notApplicable
  verificationSha256 := none
  attemptId := none
  adapterReceiptSha256 := none
  targetStateSha256 := none
  decidedAt := "2026-01-01T00:00:01+00:00"
  terminalAt := "2026-01-01T00:00:01+00:00"
  recoveryRequired := false
  reasonCodes := ["SIMULATION_ONLY_REQUIRED"]
  replayed := false
  executionAttemptedThisCall := false
  newDecision := false
  newAuthorization := false
  newEffect := false

/-- The completion with that denial. -/
def deniedCompletion : CompleteArgs := ⟨deniedResult, none, none, none⟩

section Denied

variable (sha256 : String → String) (hsha : ∀ s, IsSha256 (sha256 s))

/-- The ledger in which `alpha` has claimed the request. -/
def alphaClaimed : Ledger :=
  claimedLedger (.ofInstants Runtime.newYear sha256 hsha Runtime.secondsNamed_newYear) .empty
    ⟨"alpha", "r-1"⟩ requestDigest "2026-01-01T00:00:00+00:00"

theorem alphaClaimed_accepted :
    Accepted (.ofInstants Runtime.newYear sha256 hsha) (alphaClaimed sha256 hsha) := by
  have hargs : ClaimArgsOk (.ofInstants Runtime.newYear sha256 hsha) ⟨"alpha", "r-1"⟩
      requestDigest "2026-01-01T00:00:00+00:00" :=
    ⟨by decide, by decide, by decide, by decide, by decide, rfl⟩
  exact (claim_commit (.empty _) hargs rfl (by decide) (by decide)).accepted (.empty _)

theorem length_deniedResult : (canonicalJson deniedResult.stored.toDict).length ≤ 32768 := by
  rw [length_canonicalJson]
  refine (Json.length_render_obj_le _).trans ?_
  simp only [deniedResult, List.map_cons, List.map_nil, List.sum_cons, List.sum_nil, Json.render,
    RequestLookupResult.stored, Json.ofOption, Json.renderItems]
  decide

theorem deniedResult_postInit :
    deniedResult.stored.PostInit (.ofInstants Runtime.newYear sha256 hsha) := by
  constructor
  case chronology => exact Runtime.AtMost.refl_of_isSome _ rfl
  all_goals decide

theorem deniedCompletion_check :
    deniedCompletion.check (.ofInstants Runtime.newYear sha256 hsha) = .ok none := by
  simp only [CompleteArgs.check, require_bind_eq_ok]
  refine ⟨deniedResult_postInit sha256 hsha, length_deniedResult, ?_⟩
  simp [deniedCompletion, deniedResult, RequestLookupResult.stored, require]

theorem deniedResult_closes :
    Closes (.ofInstants Runtime.newYear sha256 hsha) (alphaClaimed sha256 hsha)
      deniedResult.stored none := by
  refine ⟨claimedRow ⟨"alpha", "r-1"⟩ requestDigest "2026-01-01T00:00:00+00:00",
    List.mem_singleton.mpr rfl, List.mem_singleton.mpr rfl, rfl, rfl, .inl rfl, ?_, ?_⟩
  · show (1767225600000000 : Int) ≤ 1767225601000000
    decide
  · intro a ha
    cases ha

/-- The denial commits. -/
theorem deniedCompletion_commits :
    completeRequest (.ofInstants Runtime.newYear sha256 hsha) deniedCompletion
      (alphaClaimed sha256 hsha) = ⟨.ok (), closedLedger (.ofInstants Runtime.newYear sha256 hsha)
        (alphaClaimed sha256 hsha) deniedResult.stored none⟩ := by
  have haccepted := alphaClaimed_accepted sha256 hsha
  have hcheck := deniedCompletion_check sha256 hsha
  have hbody := completeRequestBody_of_closes haccepted (CompleteArgs.check_eq_ok hcheck)
    (deniedResult_closes sha256 hsha)
  simp only [StageA.completeRequest, hcheck, checked]
  exact transaction_of_ok haccepted.relations (onIntegrity_eq_ok.mpr hbody)

theorem deniedCompletion_safe :
    ¬ (LedgerOperation.call (.completeRequest deniedCompletion)).CommitsUnaccepted
      (.ofInstants Runtime.newYear sha256 hsha) (alphaClaimed sha256 hsha) := by
  rintro ⟨completion, hcheck, -, hbad⟩
  rw [deniedCompletion_check] at hcheck
  cases hcheck
  exact hbad ⟨by decide, by simp⟩

/-- The one request of the ledger is that of `alpha`. -/
theorem subjects_deniedCompletion :
    ∀ r ∈ (completeRequest (.ofInstants Runtime.newYear sha256 hsha) deniedCompletion
      (alphaClaimed sha256 hsha)).ledger.requests, r.key = ⟨"alpha", "r-1"⟩ := by
  rw [deniedCompletion_commits]
  intro r hr
  rw [List.mem_singleton.mp hr]
  rfl

end Denied

/-- The digests of the texts of that denial. -/
def deniedDigests : List (String × String) :=
  (canonicalJson deniedResult.stored.toDict,
    "2f28cf7f1435d4d4d5e240f568811c68a7c4f60af203252c0cae32e13dcf3f4d") ::
  (canonicalJson (.obj [("event_type", .str "REQUEST_TERMINAL"), ("subject_id", .str "alpha:r-1"),
      ("payload", requestTerminalPayload
        "2f28cf7f1435d4d4d5e240f568811c68a7c4f60af203252c0cae32e13dcf3f4d" .deniedNoEffect)]),
    "e6d3f059afc80d6fe6880d224c3e68db9ae6b4c00191364eeeb212fac79ef63f") ::
  newYearDigests

theorem deniedDigests_isSha256 (text : String) :
    IsSha256 (Runtime.ofDigests deniedDigests text) := by
  refine Runtime.ofDigests_isSha256 ?_ text
  simp only [deniedDigests, newYearDigests, List.mem_cons, List.not_mem_nil, or_false,
    forall_eq_or_imp, forall_eq]
  decide

/-- The first seconds of 2026, under those digests. -/
def deniedRuntime : Runtime :=
  .ofInstants Runtime.newYear (Runtime.ofDigests deniedDigests) deniedDigests_isSha256
    Runtime.secondsNamed_newYear

/-- A claim of `beta` after it. -/
def betaClaim : LedgerOperation :=
  .call (.claimRequest ⟨"beta", "r-1"⟩ requestDigest "2026-01-01T00:00:02+00:00")

/-- The denial is still answered after `beta` has claimed a request. -/
theorem terminal_result_immutable_denied :
    lookupRequestResult deniedRuntime deniedCompletion.result.key
      deniedCompletion.result.requestSha256
      (runOperations deniedRuntime (completeRequest deniedRuntime deniedCompletion
        (alphaClaimed _ deniedDigests_isSha256)).ledger [betaClaim]) =
      .ok (some deniedCompletion.result.asReplay) := by
  have hsafe : RunSafe deniedRuntime (alphaClaimed _ deniedDigests_isSha256)
      [.call (.completeRequest deniedCompletion), betaClaim] := by
    refine ⟨deniedCompletion_safe _ deniedDigests_isSha256, ?_, trivial⟩
    rintro ⟨-, -, -, hlong | ⟨r, hr, hsubject⟩⟩
    · exact absurd hlong (by decide)
    · rw [subjects_deniedCompletion _ deniedDigests_isSha256 r hr] at hsubject
      exact absurd hsubject (by decide)
  have hcommits := deniedCompletion_commits _ deniedDigests_isSha256
  exact (terminal_result_immutable deniedRuntime (alphaClaimed _ deniedDigests_isSha256)
    deniedCompletion [betaClaim] (alphaClaimed_accepted _ deniedDigests_isSha256)
    (congrArg Outcome.result hcommits) hsafe).1

/-- A claim with two identifiers of 300 characters, and the denial is answered no more. -/
theorem terminal_result_mutable :
    ¬ ∃ (sha256 : String → String) (hsha : ∀ s, IsSha256 (sha256 s)),
      ∀ (L : Ledger) (args : CompleteArgs) (ops : List LedgerOperation),
        Accepted (.ofInstants Runtime.newYear sha256 hsha) L →
        (completeRequest (.ofInstants Runtime.newYear sha256 hsha) args L).result = .ok () →
        lookupRequestResult (.ofInstants Runtime.newYear sha256 hsha) args.result.key
          args.result.requestSha256
          (runOperations (.ofInstants Runtime.newYear sha256 hsha)
            (completeRequest (.ofInstants Runtime.newYear sha256 hsha) args L).ledger ops) =
          .ok (some args.result.asReplay) := by
  rintro ⟨sha256, hsha, hall⟩
  have haccepted : Accepted (.ofInstants Runtime.newYear sha256 hsha)
      (completeRequest (.ofInstants Runtime.newYear sha256 hsha) deniedCompletion
        (alphaClaimed sha256 hsha)).ledger :=
    LedgerOperation.accepted (alphaClaimed_accepted sha256 hsha) (deniedCompletion_safe sha256 hsha)
  have hat : (Runtime.ofInstants Runtime.newYear sha256 hsha).IsOffsetTimestamp
      "2026-01-01T00:00:02+00:00" := ⟨by decide, by decide, rfl⟩
  have hlookup := hall (alphaClaimed sha256 hsha) deniedCompletion
    [.call (.claimRequest longKey requestDigest "2026-01-01T00:00:02+00:00")]
    (alphaClaimed_accepted sha256 hsha)
    (congrArg Outcome.result (deniedCompletion_commits sha256 hsha))
  rw [runOperations_cons, runOperations_nil] at hlookup
  refine LedgerCall.not_preserved haccepted (longClaim_commitsUnaccepted haccepted hat) ?_
  -- the lookup has validated the ledger of the claim
  exact LedgerCall.preserved_of_relations _ (lookup_validates hlookup)

end DecisionFirewall.StageA
