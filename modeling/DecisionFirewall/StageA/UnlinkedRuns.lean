import DecisionFirewall.StageA.LedgerRuns

/-!
# Runs of the Writers of Unlinked Attempts

The five writers that serve authorizations without a request: registration,
consumption, the recorded receipt, the recorded outcome and the recovery. The first
three keep every accepted ledger accepted. The last two do so except on a branch each,
and on that branch the ledger they commit is never accepted.

- §1 the five writers
- §2 an outcome that does not fit its attempt
- §3 a recovery that does not fit its attempts
- §4 runs
-/

namespace DecisionFirewall.StageA

open Lib.Table

/-! ## §1 The five writers -/

/-- The operations that serve authorizations without a request. -/
def LedgerOperation.OnUnlinked : LedgerOperation → Prop
  | .call (.register args) => ¬ args.Linked
  | .call (.consumeOnce _ _) | .call (.recordAdapterReceipt _ _ _ _)
  | .recordAttemptOutcome _ | .recoverIncompleteAttempts _ _ => True
  | .call (.claimRequest _ _ _) | .call (.revokeIssuedForRequest _ _ _ _)
  | .call (.completeRequest _) => False

instance (op : LedgerOperation) : Decidable op.OnUnlinked := by
  unfold LedgerOperation.OnUnlinked
  split <;> infer_instance

section Branches

variable {rt : Runtime} {L L' : Ledger}

/-! ## §2 An outcome that does not fit its attempt -/

section Outcome

variable {a : OutcomeArgs} {t : AttemptRow}

/-- The ledger that `record_attempt_outcome` commits for the open attempt `t`. -/
def outcomeLedger (rt : Runtime) (L : Ledger) (a : OutcomeArgs) (t : AttemptRow) : Ledger :=
  terminatedLedger rt L t a.outcomeState a.outcomeSha256
    (a.adapterReceiptSha256 <|> t.state.adapterReceiptSha256) a.completedAt .attemptTerminal
    (attemptTerminalPayload a.outcomeState a.outcomeSha256 a.adapterReceiptSha256)

/-- An event of an open attempt is still unused. -/
theorem Accepted.unused_of_open (h : Accepted rt L) (ht : t ∈ L.attempts)
    (hopen : t.state.effect = none) {e : EventType}
    (he : e ∈ [EventType.attemptTerminal, .attemptRecoveredUnknown]) :
    ∀ o ∈ L.auditOutbox, o.key ≠ ⟨e, t.attemptId⟩ :=
  h.relations.projection.unobserved (h.not_emitted_of_open ht hopen he)

theorem unused_pair {key : EventKey} (h : ∀ o ∈ L.auditOutbox, o.key ≠ key) (digest : String) :
    (key, digest) ∉ L.auditOutbox.map (fun o => (o.key, o.payloadSha256)) := by
  intro hmem
  obtain ⟨o, ho, heq⟩ := List.mem_map.mp hmem
  exact h o ho (congrArg Prod.fst heq)

/-- The outcome of an open attempt commits. -/
theorem recordAttemptOutcome_of_open (h : Accepted rt L) (hargs : a.Ok rt) (ht : t ∈ L.attempts)
    (hid : t.attemptId = a.attemptId) (hl : t.link = none) (hopen : t.state.effect = none)
    (htime : rt.AtMost t.reservedAt a.completedAt) (hcheck : (a.newState t.state).CheckOk) :
    recordAttemptOutcome rt a L = ⟨.ok (), outcomeLedger rt L a t⟩ := by
  have hfound : L.attempt a.attemptId = some t :=
    (Ledger.attempt_eq_some h.schema).mpr ⟨ht, hid⟩
  have hunused := h.unused_of_open ht hopen (e := .attemptTerminal) (by simp)
  have hterminate : terminateAttempt rt a t.state L = .ok (outcomeLedger rt L a t) := by
    simp only [terminateAttempt, require_bind_eq_ok, Ledger.insertOutbox_eq_ok]
    refine ⟨hcheck, unused_pair (hid ▸ hunused) _, ?_⟩
    simp only [outcomeLedger, terminatedLedger, updatedLedger, updatedRow, hid]
    rfl
  have hbody : recordAttemptOutcomeBody rt a L = .ok ((), outcomeLedger rt L a t) := by
    unfold recordAttemptOutcomeBody
    simp only [hfound, require_bind_eq_ok]
    refine ⟨hl, htime, ?_⟩
    cases hs : t.state with
    | terminal e o r c =>
      rw [hs] at hopen
      simp [AttemptState.effect] at hopen
    | reserved =>
      rw [hs] at hterminate
      simp [hterminate, bind, Except.bind, pure, Except.pure]
    | receiptRecorded o r =>
      rw [hs] at hterminate
      simp [hterminate, bind, Except.bind, pure, Except.pure]
  simp only [recordAttemptOutcome, require, if_pos hargs, checked]
  exact transaction_of_ok h.relations (onIntegrity_eq_ok.mpr hbody)

/-- The event that the end of an unlinked attempt calls for. -/
theorem exists_terminalEvent (rt : Runtime) (hl : t.link = none) (effect : EffectState)
    (outcome : String) (receipt : Option String) (completedAt : String) :
    ∃ e ∈ attemptEvents rt { t with state := .terminal effect outcome receipt completedAt },
      e.key = ⟨.attemptTerminal, t.attemptId⟩ ∧
        e.digest = some (eventDigest rt ⟨.attemptTerminal, t.attemptId⟩
          (attemptTerminalPayload effect outcome receipt)) := by
  let terminal := exactEvent rt ⟨.attemptTerminal, t.attemptId⟩
    (attemptTerminalPayload effect outcome receipt) completedAt
  by_cases hunknown : effect = .unknownEffect
  · subst hunknown
    rw [attemptEvents_unlinked_unknown hl]
    exact ⟨{ terminal with required := false }, by simp [terminal], rfl, rfl⟩
  · rw [attemptEvents_unlinked_known hunknown]
    exact ⟨terminal, by simp [terminal], rfl, rfl⟩

/-- The ledger of an outcome that does not fit is not accepted. -/
theorem OutcomeArgs.Misfits.not_accepted (hbad : a.Misfits rt L t) (h : Accepted rt L)
    (ht : t ∈ L.attempts) (hl : t.link = none) (hopen : t.state.effect = none)
    (hcheck : (a.newState t.state).CheckOk) :
    ¬ ControlRelationsOk rt (outcomeLedger rt L a t) := by
  intro hrel
  have hsel : SelectsAttempt L t fun u => u.attemptId = t.attemptId ∧ u.state.effect = none := by
    refine ⟨ht, by simp [hopen], fun u _ hu => ?_⟩
    simp only [decide_eq_true_eq] at hu
    exact hu.1
  have hmem : { t with state := a.newState t.state } ∈ (outcomeLedger rt L a t).attempts :=
    hsel.mem_updated
  have hevents : ∀ e ∈ attemptEvents rt { t with state := a.newState t.state },
      e ∈ expectedEvents rt (outcomeLedger rt L a t) :=
    fun e he => mem_expectedEvents.mpr (.inr (.inl ⟨_, hmem, he⟩))
  rcases hbad with ⟨hreserved, hknown⟩ | hdigest | ⟨o, ho, hkey, hlate⟩
  · -- a known effect calls for the event of its receipt, which nothing has written
    have hreceipt : (a.adapterReceiptSha256 <|> t.state.adapterReceiptSha256).isSome = true :=
      hcheck hknown
    obtain ⟨o, ho, hkey⟩ := hrel.projection.covered
      ⟨⟨.adapterReceiptRecorded, t.attemptId⟩, none, none, true⟩ (hevents _ (by
        simp only [OutcomeArgs.newState]
        rw [attemptEvents_unlinked_known hknown, if_pos hreceipt]
        simp)) rfl
    rcases List.mem_append.mp ho with ho | ho
    · have hemitted := h.relations.projection.emitted ho
      rw [hkey] at hemitted
      obtain ⟨u, hu, huid, hsome⟩ := hemitted
      rw [eq_of_nodup_key h.schema.attemptIds hu ht huid, hreserved] at hsome
      cases hsome
    · rw [List.mem_singleton.mp ho] at hkey
      cases congrArg EventKey.eventType hkey
  · -- the event that was written has another digest than the row calls for
    have hrow : updatedRow rt L t .attemptTerminal
        (attemptTerminalPayload a.outcomeState a.outcomeSha256 a.adapterReceiptSha256)
        a.completedAt ∈ (outcomeLedger rt L a t).auditOutbox :=
      List.mem_append_right _ (List.mem_singleton.mpr rfl)
    obtain ⟨e, he, hkey, hmatches, -⟩ := hrel.projection.matched _ hrow
    obtain ⟨e', he', hkey', hd⟩ := exists_terminalEvent rt hl a.outcomeState
      a.outcomeSha256 (a.adapterReceiptSha256 <|> t.state.adapterReceiptSha256) a.completedAt
    have hsame : e = e' :=
      eq_of_nodup_key hrel.projection.expectedKeys he (hevents e' he') (hkey.trans hkey'.symm)
    exact hdigest (hmatches _ (hsame ▸ hd))
  · -- the receipt is later than the end that the row names
    have hkept : o ∈ (outcomeLedger rt L a t).auditOutbox := List.mem_append_left _ ho
    have hchronology := hrel.projection.receiptChronology o hkept
      (congrArg EventKey.eventType hkey) _ hmem (congrArg EventKey.subjectId hkey).symm
    exact hlate (hchronology.2 _ rfl)

end Outcome

/-! ## §3 A recovery that does not fit its attempts -/

section Recovery

variable {recoveryAt : String}

/-- The recovery of open attempts runs through: it only appends events, leaves the
authorizations, ends each of its attempts and keeps every ended one. -/
theorem recoverAttempts_run {ts : List AttemptRow} {N : Ledger}
    (hdistinct : (ts.map AttemptRow.attemptId).Nodup)
    (htimes : ∀ t ∈ ts, rt.AtMost t.reservedAt recoveryAt)
    (hrows : ∀ t ∈ ts, t ∈ N.attempts ∧ t.state.effect = none)
    (hunused : ∀ t ∈ ts, ∀ o ∈ N.auditOutbox, o.key ≠ ⟨.attemptRecoveredUnknown, t.attemptId⟩) :
    ∃ N', ts.foldlM (recoverAttempt rt recoveryAt) N = .ok N' ∧
      N'.authorizations = N.authorizations ∧
      (∀ o ∈ N'.auditOutbox, o ∈ N.auditOutbox ∨ o.eventType = .attemptRecoveredUnknown) ∧
      (∀ o ∈ N.auditOutbox, o ∈ N'.auditOutbox) ∧
      (∀ u ∈ N.attempts, u.state.effect.isSome = true → u ∈ N'.attempts) ∧
      ∀ t ∈ ts, { t with state := recoveredState rt recoveryAt t } ∈ N'.attempts := by
  induction ts generalizing N with
  | nil => exact ⟨N, rfl, rfl, fun _ ho => .inl ho, fun _ ho => ho, fun _ hu _ => hu, by simp⟩
  | cons t ts ih =>
    obtain ⟨ht, hopen⟩ := hrows t List.mem_cons_self
    let p : AttemptRow → Bool := fun u => u.attemptId = t.attemptId ∧ u.state.effect = none
    let M : Ledger := updatedLedger rt N t p (recoveredState rt recoveryAt t)
      .attemptRecoveredUnknown attemptRecoveredUnknownPayload recoveryAt
    have hstep : recoverAttempt rt recoveryAt N t = .ok M := by
      simp only [recoverAttempt, require_bind_eq_ok, Ledger.insertOutbox_eq_ok]
      exact ⟨htimes t List.mem_cons_self, unused_pair (hunused t List.mem_cons_self) _, rfl⟩
    have hother : ∀ u ∈ ts, u.attemptId ≠ t.attemptId := fun u hu heq =>
      (List.nodup_cons.mp hdistinct).1 (List.mem_map.mpr ⟨u, hu, heq⟩)
    -- the update leaves every row but the one of `t`
    have hkept : ∀ u ∈ N.attempts, p u = false → u ∈ M.attempts := fun u hu hp =>
      mem_updateWhere.mpr ⟨u, hu, by simp [hp]⟩
    obtain ⟨N', hrun, hauths, hevents, hold, hended, hrecovered⟩ := ih (N := M)
      (List.nodup_cons.mp hdistinct).2 (fun u hu => htimes u (List.mem_cons_of_mem _ hu))
      (fun u hu => ⟨hkept u (hrows u (List.mem_cons_of_mem _ hu)).1 (by simp [p, hother u hu]),
        (hrows u (List.mem_cons_of_mem _ hu)).2⟩)
      (fun u hu o ho hkey => by
        rcases List.mem_append.mp ho with ho | ho
        · exact hunused u (List.mem_cons_of_mem _ hu) o ho hkey
        · rw [List.mem_singleton.mp ho] at hkey
          exact hother u hu (congrArg EventKey.subjectId hkey).symm)
    refine ⟨N', ?_, hauths, fun o ho => ?_, fun o ho => ?_, fun u hu heffect => ?_,
      fun u hu => ?_⟩
    · rw [List.foldlM_cons, hstep]
      exact hrun
    · rcases hevents o ho with ho | htype
      · rcases List.mem_append.mp ho with ho | ho
        · exact .inl ho
        · rw [List.mem_singleton.mp ho]
          exact .inr rfl
      · exact .inr htype
    · exact hold o (List.mem_append_left _ ho)
    · refine hended u (hkept u hu ?_) heffect
      cases he : u.state.effect with
      | none => simp [he] at heffect
      | some e => simp [p, he]
    · rcases List.mem_cons.mp hu with rfl | hu
      · exact hended _ (mem_updateWhere.mpr ⟨u, ht, by simp [p, hopen]⟩) rfl
      · exact hrecovered u hu

/-- So does the revocation of issued authorizations. -/
theorem revokeUnlinked_runs (rt : Runtime) (recoveryAt : String) {zs : List AuthorizationRow}
    {N : Ledger}
    (hdistinct : (zs.map AuthorizationRow.tokenId).Nodup)
    (htimes : ∀ z ∈ zs, rt.AtMost z.issuedAt recoveryAt)
    (hrows : ∀ z ∈ zs, z ∈ N.authorizations ∧ z.state = .issued)
    (hunused : ∀ z ∈ zs, ∀ o ∈ N.auditOutbox, o.key ≠ ⟨.authorizationRevoked, z.tokenId⟩) :
    ∃ N', zs.foldlM (revokeUnlinked rt recoveryAt) N = .ok N' ∧ N'.attempts = N.attempts ∧
      (∀ o ∈ N.auditOutbox, o ∈ N'.auditOutbox) ∧
      (∀ y ∈ N.authorizations, y.state ≠ .issued → y ∈ N'.authorizations) ∧
      ∀ z ∈ zs, { z with state := .revoked recoveryAt "QUIESCED_RECOVERY" } ∈
        N'.authorizations := by
  induction zs generalizing N with
  | nil => exact ⟨N, rfl, rfl, fun _ ho => ho, fun _ hy _ => hy, by simp⟩
  | cons z zs ih =>
    obtain ⟨hz, hstate⟩ := hrows z List.mem_cons_self
    let M : Ledger := endedLedger rt N z (.revoked recoveryAt "QUIESCED_RECOVERY")
      .authorizationRevoked authorizationRevokedPayload recoveryAt
    have hstep : revokeUnlinked rt recoveryAt N z = .ok M := by
      simp only [revokeUnlinked, require_bind_eq_ok, Ledger.insertOutbox_eq_ok]
      exact ⟨htimes z List.mem_cons_self, unused_pair (hunused z List.mem_cons_self) _, rfl⟩
    have hother : ∀ y ∈ zs, y.tokenId ≠ z.tokenId := fun y hy heq =>
      (List.nodup_cons.mp hdistinct).1 (List.mem_map.mpr ⟨y, hy, heq⟩)
    obtain ⟨N', hrun, hattempts, hold, hended, hrevoked⟩ := ih (N := M)
      (List.nodup_cons.mp hdistinct).2 (fun y hy => htimes y (List.mem_cons_of_mem _ hy))
      (fun y hy => ⟨(mem_updateAuthorizations_of_ne (hother y hy)).mpr
        (hrows y (List.mem_cons_of_mem _ hy)).1, (hrows y (List.mem_cons_of_mem _ hy)).2⟩)
      (fun y hy o ho hkey => by
        rcases List.mem_append.mp ho with ho | ho
        · exact hunused y (List.mem_cons_of_mem _ hy) o ho hkey
        · rw [List.mem_singleton.mp ho] at hkey
          exact hother y hy (congrArg EventKey.subjectId hkey).symm)
    refine ⟨N', ?_, hattempts, fun o ho => ?_, fun y hy hne => ?_, fun y hy => ?_⟩
    · rw [List.foldlM_cons, hstep]
      exact hrun
    · exact hold o (List.mem_append_left _ ho)
    · exact hended y (mem_updateWhere.mpr ⟨y, hy, by simp [hne]⟩) hne
    · rcases List.mem_cons.mp hy with rfl | hy
      · exact hended _ (updateAuthorizations_mem hz hstate _) (by simp)
      · exact hrevoked y hy

/-- A recovery whose times are in order runs through both loops. -/
theorem recoverIncompleteAttempts_run (h : Accepted rt L)
    (hlinked : ∀ t ∈ L.attempts, t.link.isSome = true → t.state.effect.isSome = true)
    (htimes : ∀ t ∈ L.incompleteAttempts, rt.AtMost t.reservedAt recoveryAt)
    (hissued : ∀ z ∈ L.issuedUnlinked, rt.AtMost z.issuedAt recoveryAt) :
    ∃ L₁ L₂, L.incompleteAttempts.foldlM (recoverAttempt rt recoveryAt) L = .ok L₁ ∧
      L₁.issuedUnlinked.foldlM (revokeUnlinked rt recoveryAt) L₁ = .ok L₂ ∧
      recoverIncompleteAttempts rt true recoveryAt L = ⟨.ok L.incompleteAttempts.length, L₂⟩ ∧
      (∀ o ∈ L.auditOutbox, o ∈ L₂.auditOutbox) ∧
      (∀ u ∈ L.attempts, u.state.effect.isSome = true → u ∈ L₂.attempts) ∧
      (∀ t ∈ L.incompleteAttempts,
        { t with state := recoveredState rt recoveryAt t } ∈ L₂.attempts) ∧
      (∀ y ∈ L.authorizations, y.state ≠ .issued → y ∈ L₂.authorizations) ∧
      ∀ z ∈ L.issuedUnlinked,
        { z with state := .revoked recoveryAt "QUIESCED_RECOVERY" } ∈ L₂.authorizations := by
  obtain ⟨L₁, hattempts, hauths, hevents, hold, hended, hrecovered⟩ := recoverAttempts_run (N := L)
    (nodup_incompleteAttempts h.schema) htimes
    (fun t ht => ⟨(mem_incompleteAttempts.mp ht).1, (mem_incompleteAttempts.mp ht).2.2⟩)
    (fun t ht => h.unused_of_open (mem_incompleteAttempts.mp ht).1
      (mem_incompleteAttempts.mp ht).2.2 (by simp))
  have hrows : L₁.issuedUnlinked = L.issuedUnlinked := by
    simp only [Ledger.issuedUnlinked, hauths]
  obtain ⟨L₂, hrevokes, hsame, hold', hkept, hrevoked⟩ := revokeUnlinked_runs rt recoveryAt
    (by rw [hrows]; exact h.schema.tokenIds.sublist (List.filter_sublist.map _))
    (by rw [hrows]; exact hissued)
    (fun z hz => ⟨(mem_issuedUnlinked.mp hz).1, (mem_issuedUnlinked.mp hz).2.2⟩)
    (fun z hz o ho hkey => by
      rw [hrows] at hz
      obtain ⟨hz, -, hstate⟩ := mem_issuedUnlinked.mp hz
      rcases hevents o ho with ho | htype
      · have hunemitted : ¬ L.Emitted ⟨.authorizationRevoked, z.tokenId⟩ :=
          h.not_emitted_of_issued hz hstate (.inr rfl)
        exact h.relations.projection.unobserved hunemitted o ho hkey
      · rw [show o.eventType = .authorizationRevoked from
          congrArg EventKey.eventType hkey] at htype
        cases htype)
  have hbody : recoverIncompleteBody rt recoveryAt L =
      .ok (L.incompleteAttempts.length, L₂) := by
    simp only [recoverIncompleteBody, bind_eq_ok, require_eq_ok, exists_const, pure, Except.pure,
      Except.ok.injEq, Prod.mk.injEq]
    exact ⟨hlinked, L₁, hattempts, L₂, hrevokes, trivial, rfl⟩
  refine ⟨L₁, L₂, hattempts, hrevokes, ?_, fun o ho => hold' o (hold o ho), ?_, ?_, ?_, ?_⟩
  · simp only [recoverIncompleteAttempts, require, if_true, checked]
    exact transaction_of_ok h.relations (onIntegrity_eq_ok.mpr hbody)
  · intro u hu heffect
    rw [hsame]
    exact hended u hu heffect
  · intro t ht
    rw [hsame]
    exact hrecovered t ht
  · intro y hy hne
    exact hkept y (by rwa [hauths]) hne
  · intro z hz
    exact hrevoked z (by rwa [hrows])

/-- A recovery whose clock does not fit commits a ledger that is not accepted. -/
theorem RecoveryMisfits.not_accepted (hbad : RecoveryMisfits rt L recoveryAt)
    (h : Accepted rt L) :
    ¬ ControlRelationsOk rt (recoverIncompleteAttempts rt true recoveryAt L).ledger := by
  obtain ⟨hlinked, htimes, hissued, hclock⟩ := hbad
  obtain ⟨L₁, L₂, -, -, hrun, hold, -, hended, -, hrevoked⟩ :=
    recoverIncompleteAttempts_run h hlinked htimes hissued
  rw [hrun]
  intro hrel
  rcases hclock with ⟨hat, hsome | hsome⟩ | ⟨t, ht, o, ho, hkey, hlate⟩
  · -- a recovered attempt is completed at a text that is no timestamp
    obtain ⟨t, ht⟩ := List.exists_mem_of_ne_nil _ hsome
    exact hat ((hrel.unlinkedAttempts _ (hended t ht)
      (mem_incompleteAttempts.mp ht).2.1).completed _ rfl).1
  · obtain ⟨z, hz⟩ := List.exists_mem_of_ne_nil _ hsome
    exact hat ((hrel.unlinkedAuthorizations _ (hrevoked z hz)
      (mem_issuedUnlinked.mp hz).2.1).ended _ rfl).1
  · have hchronology := hrel.projection.receiptChronology o (hold o ho)
      (congrArg EventKey.eventType hkey) _ (hended t ht) (congrArg EventKey.subjectId hkey).symm
    exact hlate (hchronology.2 _ rfl)

end Recovery

/-! ## §4 Runs -/

/-- On the branch of the last two writers the ledger that is committed is not accepted. -/
theorem LedgerOperation.not_accepted (h : Accepted rt L) {op : LedgerOperation}
    (hop : op.OnUnlinked) (hbad : op.CommitsUnaccepted rt L) :
    ¬ Accepted rt (op.run rt L).ledger := by
  intro haccepted
  cases op with
  | call c => cases c <;> first | exact hbad | exact hop
  | recordAttemptOutcome a =>
    obtain ⟨hargs, t, ht, hid, hl, hopen, htime, hcheck, hmisfits⟩ := hbad
    apply hmisfits.not_accepted h ht hl hopen hcheck
    have hrun := recordAttemptOutcome_of_open h hargs ht hid hl hopen htime hcheck
    rw [← show (StageA.recordAttemptOutcome rt a L).ledger = outcomeLedger rt L a t by rw [hrun]]
    exact haccepted.relations
  | recoverIncompleteAttempts quiesced recoveryAt =>
    obtain ⟨rfl, hmisfits⟩ := hbad
    exact hmisfits.not_accepted h haccepted.relations

/-- A run of the five writers leaves an accepted ledger after every step exactly when no
step takes one of the two branches. -/
theorem runOperations_accepted_iff {ops : List LedgerOperation}
    (hops : ∀ op ∈ ops, op.OnUnlinked) (h : Accepted rt L) :
    (∀ n, Accepted rt (runOperations rt L (ops.take n))) ↔ RunSafe rt L ops := by
  induction ops generalizing L with
  | nil => simp [RunSafe, h]
  | cons op ops ih =>
    have hrest : ∀ o ∈ ops, o.OnUnlinked := fun o ho => hops o (List.mem_cons_of_mem _ ho)
    constructor
    · intro hall
      -- the first step is safe, since the ledger after it is accepted
      have hstep : Accepted rt (op.run rt L).ledger := hall 1
      refine ⟨fun hbad => ?_, (ih hrest hstep).mp fun n => hall (n + 1)⟩
      exact op.not_accepted h (hops op List.mem_cons_self) hbad hstep
    · rintro ⟨hsafe, hrun⟩ n
      cases n with
      | zero => exact h
      | succ n => exact (ih hrest (op.accepted h hsafe)).mpr hrun n

/-- Every state that the five writers reach from the new ledger is accepted, exactly when
no recorded outcome and no recovery misfits what was recorded before. -/
theorem unlinked_writers_accepted_iff (rt : Runtime) (ops : List LedgerOperation)
    (hops : ∀ op ∈ ops, op.OnUnlinked) :
    (∀ n, Accepted rt (runOperations rt .empty (ops.take n))) ↔ RunSafe rt .empty ops :=
  runOperations_accepted_iff hops (.empty rt)

/-- Every call of the run returns. -/
def AllSucceed (rt : Runtime) : Ledger → List LedgerOperation → Prop
  | _, [] => True
  | L, op :: ops => (op.run rt L).result = .ok () ∧ AllSucceed rt (op.run rt L).ledger ops

end Branches

section Consume

variable {rt : Runtime} {L : Ledger} {a : AuthorizationRow} {res : Reservation}
  {consumedAt : String}

/-- An issued authorization without a request is consumed with a fresh attempt. -/
theorem consumeOnceBody_of_issued (h : Accepted rt L) (ha : a ∈ L.authorizations)
    (hl : a.link = none) (hstate : a.state = .issued) (htime : rt.AtMost a.issuedAt consumedAt)
    (hfresh : res.attemptId ∉ L.attempts.map AttemptRow.attemptId ∧
      a.tokenId ∉ L.attempts.map AttemptRow.tokenId ∧
      res.idempotencyKey ∉ L.attempts.map AttemptRow.idempotencyKey ∧
      res.bindingSha256 ∉ L.attempts.map AttemptRow.bindingSha256)
    (hkey : res.idempotencyKey = res.bindingSha256) :
    consumeOnceBody rt a.tokenId (some res) none consumedAt L =
      .ok ((), unlinkedConsumedLedger rt L a res consumedAt) := by
  have hfound := (Ledger.authorization_eq_some h.schema).mpr ⟨ha, rfl⟩
  have hlink : (reservedAttempt rt a res none consumedAt).link = none :=
    reservedAttempt_unlinked hl
  have hreserved : ∀ o ∈ L.auditOutbox, o.key ≠ ⟨.attemptReserved, res.attemptId⟩ := by
    apply h.relations.projection.unobserved
    rintro ⟨t, ht, hid⟩
    exact hfresh.1 (List.mem_map.mpr ⟨t, ht, hid⟩)
  have hconsumed : ∀ o ∈ L.auditOutbox, o.key ≠ ⟨.authorizationConsumed, a.tokenId⟩ :=
    h.relations.projection.unobserved (h.not_emitted_of_issued ha hstate (.inl rfl))
  have hattempt : L.insertAttempt (reservedAttempt rt a res none consumedAt) =
      .ok { L with attempts := L.attempts ++ [reservedAttempt rt a res none consumedAt] } := by
    refine Ledger.insertAttempt_eq_ok.mpr ⟨⟨hfresh.1, hfresh.2.1, hfresh.2.2.1, hfresh.2.2.2, ?_,
      ⟨hkey, trivial⟩, ⟨a, ha, rfl⟩, ?_⟩, rfl⟩
    · simp [AttemptRow.requestKey, hlink]
    · simp [hlink]
  unfold consumeOnceBody
  simp only [hfound, hl, requireSummary, reserveAttempt, bind_eq_ok, require_eq_ok, exists_const,
    pure, Except.pure, Except.ok.injEq, Prod.mk.injEq, hattempt, exists_eq_left',
    Ledger.insertOutbox_eq_ok]
  refine ⟨hstate, ⟨htime, by simp⟩, trivial, _, ⟨unused_pair hreserved _, rfl⟩, _,
    ⟨unused_pair (fun o ho => ?_) _, rfl⟩, trivial, ?_⟩
  · rcases List.mem_append.mp ho with ho | ho
    · exact hconsumed o ho
    · rw [List.mem_singleton.mp ho]
      exact fun hne => by cases congrArg EventKey.eventType hne
  · simp only [unlinkedConsumedLedger, Ledger.updateAuthorizations, List.append_assoc]
    rfl

/-- The checks of a consumption with an attempt and its own time. -/
theorem ConsumeArgs.check_of_attempt {tokenId attemptId binding now : String}
    (htoken : IsIdentifier tokenId) (hid : IsIdentifier attemptId) (hsha : IsSha256 binding)
    (hat : rt.IsOffsetTimestamp consumedAt) :
    ConsumeArgs.check rt now ⟨tokenId, some attemptId, some binding, some consumedAt, none, none⟩ =
      .ok (some ⟨attemptId, binding, binding⟩, consumedAt) := by
  have hidentifier : IsIdentifier consumedAt := ⟨hat.1, hat.2.1.trans (by decide)⟩
  have hreservation : ConsumeArgs.toReservation rt
      ⟨tokenId, some attemptId, some binding, some consumedAt, none, none⟩ =
        .ok (some ⟨attemptId, binding, binding⟩) := by
    apply require_bind_eq_ok.mpr ⟨hid, ?_⟩
    apply require_bind_eq_ok.mpr ⟨hsha, ?_⟩
    apply require_bind_eq_ok.mpr ⟨hsha, ?_⟩
    apply require_bind_eq_ok.mpr ⟨⟨consumedAt, rfl, hidentifier⟩, ?_⟩
    apply require_bind_eq_ok.mpr ⟨rfl, ?_⟩
    exact require_bind_eq_ok.mpr ⟨by simp, rfl⟩
  simp only [ConsumeArgs.check, hreservation, orDefault, hat.1, if_false, require_bind_eq_ok]
  exact ⟨htoken, require_bind_eq_ok.mpr ⟨hat, rfl⟩⟩

end Consume

/-- A token without a request. -/
def unlinkedRegistration : RegisterArgs :=
  ⟨"token-1", some "verification-1", some "decision-1", none, none, none, none, none, none, none,
    "2026-01-01T00:00:00+00:00"⟩

/-- Its row. -/
def unlinkedRow : AuthorizationRow :=
  ⟨"token-1", "verification-1", "decision-1", none, .issued, "2026-01-01T00:00:00+00:00"⟩

/-- Its consumption, with one attempt. -/
def unlinkedConsumption : ConsumeArgs :=
  ⟨"token-1", some "attempt-1", some requestDigest, some "2026-01-01T00:00:01+00:00", none, none⟩

/-- A known effect of that attempt, with the digest of a receipt. -/
def unlinkedOutcome : OutcomeArgs :=
  ⟨"attempt-1", .verifiedEffect, requestDigest, "2026-01-01T00:00:02+00:00", some requestDigest⟩

section Unrecorded

variable (sha256 : String → String) (hsha : ∀ s, IsSha256 (sha256 s))

/-- The ledger after the registration. -/
def registeredOnce : Ledger :=
  issuedLedger (.ofInstants Runtime.newYear sha256 hsha Runtime.secondsNamed_newYear) .empty
    unlinkedRow

theorem register_unlinkedRegistration :
    register (.ofInstants Runtime.newYear sha256 hsha) unlinkedRegistration .empty =
      ⟨.ok (), registeredOnce sha256 hsha⟩ := by
  have hrow : unlinkedRegistration.toRow (.ofInstants Runtime.newYear sha256 hsha) =
      .ok unlinkedRow := by
    simp only [RegisterArgs.toRow, RegisterArgs.toLink, require_bind_eq_ok]
    exact ⟨by decide, by decide, by decide, ⟨by decide, by decide, rfl⟩, rfl⟩
  have hbody : registerBody (.ofInstants Runtime.newYear sha256 hsha) unlinkedRow .empty =
      .ok ((), registeredOnce sha256 hsha) := by
    simp only [registerBody, bind_eq_ok, require_eq_ok, exists_const,
      Ledger.insertAuthorization_eq_ok, Ledger.insertOutbox_eq_ok]
    refine ⟨by simp [unlinkedRow], _, ⟨by simp [Ledger.empty, unlinkedRow,
      AuthorizationRow.requestKey], rfl⟩, _, ⟨?_, rfl⟩, rfl⟩
    simp [Ledger.empty, unlinkedRow]
  simp only [register, hrow, checked]
  exact transaction_of_ok (Accepted.empty _).relations (onIntegrity_eq_ok.mpr hbody)

theorem registeredOnce_accepted :
    Accepted (.ofInstants Runtime.newYear sha256 hsha) (registeredOnce sha256 hsha) := by
  have hstep : Accepted (.ofInstants Runtime.newYear sha256 hsha)
      (register (.ofInstants Runtime.newYear sha256 hsha) unlinkedRegistration .empty).ledger :=
    register_unlinked_accepted (.empty _) (by decide)
  rwa [register_unlinkedRegistration] at hstep

/-- The ledger after the consumption. -/
def consumedOnce : Ledger :=
  unlinkedConsumedLedger (.ofInstants Runtime.newYear sha256 hsha Runtime.secondsNamed_newYear)
    (registeredOnce sha256 hsha) unlinkedRow ⟨"attempt-1", requestDigest, requestDigest⟩
    "2026-01-01T00:00:01+00:00"

theorem consumeOnce_unlinkedConsumption :
    consumeOnce (.ofInstants Runtime.newYear sha256 hsha) "2026-01-01T00:00:01+00:00"
      unlinkedConsumption (registeredOnce sha256 hsha) =
      ⟨.ok (), consumedOnce sha256 hsha⟩ := by
  have hcheck : unlinkedConsumption.check (.ofInstants Runtime.newYear sha256 hsha)
      "2026-01-01T00:00:01+00:00" = .ok (some ⟨"attempt-1", requestDigest, requestDigest⟩,
        "2026-01-01T00:00:01+00:00") :=
    ConsumeArgs.check_of_attempt (by decide) (by decide) (by decide) ⟨by decide, by decide, rfl⟩
  have htime : (Runtime.ofInstants Runtime.newYear sha256 hsha).AtMost unlinkedRow.issuedAt
      "2026-01-01T00:00:01+00:00" := by
    show (1767225600000000 : Int) ≤ 1767225601000000
    decide
  have hbody : consumeOnceBody (.ofInstants Runtime.newYear sha256 hsha) unlinkedRow.tokenId
      (some ⟨"attempt-1", requestDigest, requestDigest⟩) none "2026-01-01T00:00:01+00:00"
      (registeredOnce sha256 hsha) = .ok ((), consumedOnce sha256 hsha) :=
    consumeOnceBody_of_issued (registeredOnce_accepted sha256 hsha) (List.mem_singleton.mpr rfl)
      rfl rfl htime
      ⟨List.not_mem_nil, List.not_mem_nil, List.not_mem_nil, List.not_mem_nil⟩ rfl
  simp only [consumeOnce, hcheck, checked]
  exact transaction_of_ok (registeredOnce_accepted sha256 hsha).relations
    (onIntegrity_eq_ok.mpr hbody)

theorem consumedOnce_accepted :
    Accepted (.ofInstants Runtime.newYear sha256 hsha) (consumedOnce sha256 hsha) := by
  have hrow : unlinkedRow ∈ (registeredOnce sha256 hsha).authorizations :=
    List.mem_singleton.mpr rfl
  have hstep : Accepted (.ofInstants Runtime.newYear sha256 hsha)
      (consumeOnce (.ofInstants Runtime.newYear sha256 hsha) "2026-01-01T00:00:01+00:00"
        unlinkedConsumption (registeredOnce sha256 hsha)).ledger :=
    consumeOnce_unlinked_accepted (registeredOnce_accepted sha256 hsha) hrow rfl rfl
  rwa [consumeOnce_unlinkedConsumption] at hstep

/-- The attempt of that consumption. -/
def unlinkedAttempt : AttemptRow :=
  ⟨"attempt-1", "token-1", none, requestDigest, requestDigest, .reserved,
    "2026-01-01T00:00:01+00:00"⟩

/-- The calls up to an outcome `a`. -/
def unlinkedCalls (a : OutcomeArgs) : List LedgerOperation :=
  [.call (.register unlinkedRegistration),
    .call (.consumeOnce "2026-01-01T00:00:01+00:00" unlinkedConsumption), .recordAttemptOutcome a]

theorem onUnlinked_unlinkedCalls (a : OutcomeArgs) : ∀ op ∈ unlinkedCalls a, op.OnUnlinked := by
  simp only [unlinkedCalls, List.mem_cons, List.not_mem_nil, or_false, forall_eq_or_imp, forall_eq]
  exact ⟨by decide, trivial, trivial⟩

/-- The calls reach the consumed token and record the outcome there. -/
theorem runOperations_unlinkedCalls (a : OutcomeArgs) :
    runOperations (.ofInstants Runtime.newYear sha256 hsha) .empty (unlinkedCalls a) =
      (recordAttemptOutcome (.ofInstants Runtime.newYear sha256 hsha) a
        (consumedOnce sha256 hsha)).ledger := by
  simp only [unlinkedCalls, runOperations_cons, runOperations_nil, LedgerOperation.run,
    LedgerCall.run]
  rw [register_unlinkedRegistration]
  dsimp only
  rw [consumeOnce_unlinkedConsumption]

theorem recordAttemptOutcome_unlinkedOutcome :
    recordAttemptOutcome (.ofInstants Runtime.newYear sha256 hsha) unlinkedOutcome
      (consumedOnce sha256 hsha) = ⟨.ok (), outcomeLedger (.ofInstants Runtime.newYear sha256 hsha)
        (consumedOnce sha256 hsha) unlinkedOutcome unlinkedAttempt⟩ := by
  refine recordAttemptOutcome_of_open (consumedOnce_accepted sha256 hsha) ?_
    (List.mem_singleton.mpr rfl) rfl rfl rfl ?_ (fun _ => rfl)
  · refine ⟨by decide, by decide, ⟨by decide, by decide, rfl⟩, ?_⟩
    intro s hs
    cases hs
    decide
  · show (1767225601000000 : Int) ≤ 1767225602000000
    decide

end Unrecorded

/-- A known effect recorded without a recorded receipt: every call returns, and the
ledger is accepted no more. -/
theorem unlinked_writers_commit_unaccepted :
    ¬ ∃ (sha256 : String → String) (hsha : ∀ s, IsSha256 (sha256 s)),
      ∀ ops : List LedgerOperation, (∀ op ∈ ops, op.OnUnlinked) →
        AllSucceed (.ofInstants Runtime.newYear sha256 hsha) .empty ops →
        ControlRelationsOk (.ofInstants Runtime.newYear sha256 hsha)
          (runOperations (.ofInstants Runtime.newYear sha256 hsha) .empty ops) := by
  rintro ⟨sha256, hsha, hall⟩
  have hsucceed : AllSucceed (.ofInstants Runtime.newYear sha256 hsha) .empty
      (unlinkedCalls unlinkedOutcome) := by
    simp only [unlinkedCalls, AllSucceed, LedgerOperation.run, LedgerCall.run,
      register_unlinkedRegistration, consumeOnce_unlinkedConsumption,
      recordAttemptOutcome_unlinkedOutcome, and_self]
  have hrel := hall _ (onUnlinked_unlinkedCalls _) hsucceed
  rw [runOperations_unlinkedCalls, recordAttemptOutcome_unlinkedOutcome] at hrel
  -- the attempt is reserved and its effect is known
  have hmisfits : unlinkedOutcome.Misfits (.ofInstants Runtime.newYear sha256 hsha)
      (consumedOnce sha256 hsha) unlinkedAttempt := .inl ⟨rfl, by decide⟩
  exact hmisfits.not_accepted (consumedOnce_accepted sha256 hsha) (List.mem_singleton.mpr rfl) rfl
    rfl (fun _ => rfl) hrel

/-- The same calls with an unknown effect stay safe. -/
theorem unlinked_writers_accepted_iff_unknown :
    (∀ n, Accepted newYearRuntime (runOperations newYearRuntime .empty
      ((unlinkedCalls { unlinkedOutcome with outcomeState := .unknownEffect }).take n))) ↔
      RunSafe newYearRuntime .empty
        (unlinkedCalls { unlinkedOutcome with outcomeState := .unknownEffect }) :=
  unlinked_writers_accepted_iff newYearRuntime _ (onUnlinked_unlinkedCalls _)

end DecisionFirewall.StageA
