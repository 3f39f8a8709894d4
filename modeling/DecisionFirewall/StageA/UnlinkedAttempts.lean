import DecisionFirewall.StageA.UnlinkedCommits

/-!
# Committing Attempts Without a Request

The attempt of an unlinked authorization, from its reservation to its end: what each
writer appends and when the validator accepts the ledger again.

- §1 reserving
- §2 updating one attempt
- §3 recording a receipt
- §4 terminating
-/

namespace DecisionFirewall.StageA

open Lib.Table

/-! ## §1 Reserving -/

section Reserve

variable (rt : Runtime) (L : Ledger) (a : AuthorizationRow) (res : Reservation)
  (consumedAt : String)

/-- The ledger that the consumption of an unlinked authorization with an attempt commits. -/
def unlinkedConsumedLedger : Ledger :=
  { L with
    authorizations := (L.updateAuthorizations
      (fun b => b.tokenId = a.tokenId ∧ b.state = .issued) (.consumed consumedAt)).authorizations
    attempts := L.attempts ++ [reservedAttempt rt a res none consumedAt]
    auditOutbox := L.auditOutbox ++
      [reservedRow rt L a res consumedAt, consumedRow rt L a res consumedAt]
    sequence := L.sequence + 2 }

variable {rt L a res consumedAt}

theorem reservedAttempt_unlinked (hl : a.link = none) :
    (reservedAttempt rt a res none consumedAt).link = none := by
  simp [reservedAttempt, hl]

/-- Consuming an unlinked authorization with an exact attempt commits. -/
theorem unlinkedConsumed_accepted (h : Accepted rt L) (ha : a ∈ L.authorizations)
    (hl : a.link = none) (hstate : a.state = .issued) (hid : IsIdentifier res.attemptId)
    (hsha : IsSha256 res.bindingSha256) (hkey : res.idempotencyKey = res.bindingSha256)
    (hat : rt.IsOffsetTimestamp consumedAt) (htime : rt.AtMost a.issuedAt consumedAt)
    (hschema : (unlinkedConsumedLedger rt L a res consumedAt).SchemaOk)
    (hnew : res.attemptId ∉ L.attempts.map AttemptRow.attemptId) :
    Accepted rt (unlinkedConsumedLedger rt L a res consumedAt) := by
  have hok := h.relations.unlinkedAuthorizations a ha hl
  have hold := h.tokenRows_of_issued ha hl hstate
  have hnone := h.no_attempt_of_issued ha hl hstate
  have hlink : (reservedAttempt rt a res none consumedAt).link = none :=
    reservedAttempt_unlinked hl
  have hmem := updateAuthorizations_mem ha hstate (.consumed consumedAt)
  have hrows : TokenRows (unlinkedConsumedLedger rt L a res consumedAt)
      { a with state := .consumed consumedAt }
      (some (reservedAttempt rt a res none consumedAt)) := by
    refine ⟨hmem, hl, fun u => ?_⟩
    simp only [unlinkedConsumedLedger, List.mem_append, List.mem_singleton, Option.mem_def,
      Option.some.injEq]
    constructor
    · rintro ⟨hu | rfl, hut⟩
      · exact absurd hut (hnone u hu)
      · rfl
    · rintro rfl
      exact ⟨.inr rfl, rfl⟩
  have hevents : authorizationEvents rt (unlinkedConsumedLedger rt L a res consumedAt)
      { a with state := .consumed consumedAt } = authorizationEvents rt L a ++
        [exactEvent rt ⟨.authorizationConsumed, a.tokenId⟩
          (authorizationConsumedPayload (some res.attemptId)) consumedAt] := by
    have hby := hrows.attemptByToken hschema
    simp only [authorizationEvents, hstate, hby]
    rfl
  -- neither the attempt nor the consumption has been written before
  have hattemptFresh : ∀ type : EventType, type.owner = 1 → ¬ L.Emitted ⟨type, res.attemptId⟩ := by
    intro type htype hemitted
    refine hnew (List.mem_map.mpr ?_)
    cases type <;> simp only [EventType.owner] at htype <;>
      first | exact absurd htype (by decide) | skip
    · exact hemitted
    all_goals
      obtain ⟨t, ht, htid, -⟩ := hemitted
      exact ⟨t, ht, htid⟩
  have hrowFresh : ∀ o ∈ [reservedRow rt L a res consumedAt, consumedRow rt L a res consumedAt],
      ¬ L.Emitted o.key := by
    simp only [List.mem_cons, List.not_mem_nil, or_false, forall_eq_or_imp, forall_eq]
    exact ⟨hattemptFresh _ rfl, h.not_emitted_of_issued ha hstate (.inl rfl)⟩
  have hdistinct : ([reservedRow rt L a res consumedAt, consumedRow rt L a res consumedAt].map
      OutboxRow.key).Nodup := by
    simp [reservedRow, consumedRow, OutboxRow.key, Ledger.outboxRow]
  have hunobserved : ∀ type : EventType, type.owner = 1 → type ≠ .attemptReserved →
      ∀ o ∈ (unlinkedConsumedLedger rt L a res consumedAt).auditOutbox,
        o.key ≠ ⟨type, res.attemptId⟩ := by
    intro type htype hne
    refine unobserved_commit h rfl (hattemptFresh type htype) ?_
    simp only [List.mem_cons, List.not_mem_nil, or_false, forall_eq_or_imp, forall_eq]
    refine ⟨fun hkey => hne (congrArg EventKey.eventType hkey).symm, fun hkey => ?_⟩
    rw [← show _ = type from congrArg EventKey.eventType hkey] at htype
    simp [consumedRow, OutboxRow.key, Ledger.outboxRow, EventType.owner] at htype
  suffices hcommit : TokenRowsCommit rt L (unlinkedConsumedLedger rt L a res consumedAt) a none
      { a with state := .consumed consumedAt } (some (reservedAttempt rt a res none consumedAt))
      [reservedRow rt L a res consumedAt, consumedRow rt L a res consumedAt] from
    hcommit.accepted h
  constructor
  case requests => rfl
  case requestResults => rfl
  case groups =>
    intro k
    refine group_of_authorizations ?_ rfl (filter_updateAuthorizations h.schema ha hl _ k)
    simp [unlinkedConsumedLedger, List.filter_append, AttemptRow.requestKey, hlink]
  case authorizations => exact fun b hne => mem_updateAuthorizations_of_ne hne
  case attempts =>
    intro u hne
    simp only [unlinkedConsumedLedger, List.mem_append, List.mem_singleton, or_iff_left_iff_imp]
    rintro rfl
    exact absurd rfl hne
  case schema => exact hschema
  case appended =>
    refine ⟨rfl, rfl, rfl, ?_, hdistinct, hrowFresh⟩
    simp only [List.mem_cons, List.not_mem_nil, or_false, forall_eq_or_imp, forall_eq]
    exact ⟨outboxRowOk_outboxRow hid hat,
      hok.identifiers.1, rt.sha256Json_isSha256 _, hat, by simp [consumedRow, Ledger.outboxRow]⟩
  case old => exact hold
  case new => exact hrows
  case token => rfl
  case authorizationOk =>
    refine ⟨hok.identifiers, hok.issued, ?_, by simp [AuthorizationState.revocationReason]⟩
    simpa [AuthorizationState.endedAt] using ⟨hat, htime⟩
  case attemptOk =>
    simp only [Option.mem_def, Option.some.injEq, forall_eq']
    refine ⟨⟨hid, hok.identifiers.1⟩, ⟨?_, hsha⟩, ⟨_, hmem, hl, rfl, rfl, htime⟩, hat, ?_, ?_, ?_⟩
    · show IsSha256 res.idempotencyKey
      rw [hkey]
      exact hsha
    all_goals simp [reservedAttempt, AttemptState.outcomeSha256, AttemptState.adapterReceiptSha256,
      AttemptState.completedAt]
  case kept =>
    intro e he
    refine ⟨e, ?_, .refl e⟩
    simp only [tokenEvents, Option.toList_none, List.flatMap_nil, List.nil_append] at he
    rw [tokenEvents, hevents]
    exact List.mem_append_right _ (List.mem_append_left _ he)
  case matched =>
    simp only [tokenEvents, hevents, List.mem_cons, List.not_mem_nil, or_false, forall_eq_or_imp,
      forall_eq]
    refine ⟨⟨attemptReservedEvent rt (reservedAttempt rt a res none consumedAt),
      List.mem_append_left _ ?_, outboxRow_matches⟩,
      ⟨_, List.mem_append_right _ (List.mem_append_right _ (List.mem_singleton.mpr rfl)), ?_⟩⟩
    · simp [attemptEvents]
    · refine ⟨rfl, ?_, ?_⟩ <;> intro _ hd <;> cases hd <;> rfl
  case covered =>
    intro e he hreq
    simp only [tokenEvents, hevents, Option.toList_some, List.flatMap_cons, List.flatMap_nil,
      List.append_nil, Option.toList_none, List.nil_append, List.mem_append,
      List.mem_singleton] at he ⊢
    rcases he with he | he | he
    · rw [attemptEvents_of_reserved rfl, List.mem_singleton] at he
      exact .inr ⟨_, List.mem_cons_self, by rw [he]; rfl⟩
    · exact .inl ⟨e, he, hreq, rfl⟩
    · exact .inr ⟨_, List.mem_cons_of_mem _ (List.mem_singleton.mpr rfl), by rw [he]; rfl⟩
  case receipts =>
    simp only [Option.mem_def, Option.some.injEq, forall_eq']
    exact fun o ho hkey => absurd hkey (hunobserved _ rfl (by simp) o ho)
  case unknown =>
    simp only [Option.mem_def, Option.some.injEq, forall_eq']
    intro hunknown
    simp [AttemptRow.UnlinkedUnknown, reservedAttempt, AttemptState.effect] at hunknown
  case attemptsOrdered =>
    simp only [Option.mem_def, Option.some.injEq, forall_eq']
    refine ⟨?_, ⟨eventBefore_of_second (hunobserved _ rfl (by simp)), fun e he => ?_⟩⟩
    · have hkeys : ((unlinkedConsumedLedger rt L a res consumedAt).auditOutbox.map
          OutboxRow.key).Nodup := nodup_keys_append h rfl hdistinct hrowFresh
      exact eventBefore_of_rows hkeys
        (List.mem_append_right _ List.mem_cons_self)
        (List.mem_append_right _ (List.mem_cons_of_mem _ (List.mem_singleton.mpr rfl)))
        (Nat.lt_succ_self _)
    · have hterminal : e.owner = 1 ∧ e ≠ .attemptReserved := by
        rcases List.mem_cons.mp he with rfl | he
        · exact ⟨rfl, (by simp)⟩
        · rw [List.mem_singleton.mp he]
          exact ⟨rfl, (by simp)⟩
      have hsecond := hunobserved e hterminal.1 hterminal.2
      exact ⟨eventBefore_of_second hsecond, eventBefore_of_second hsecond,
        fun _ _ => eventBefore_of_first hsecond⟩

end Reserve

/-! ## §2 Updating one attempt -/

/-- A new state of an attempt and the event of its transition, by themselves. -/
structure AttemptStep (rt : Runtime) (t : AttemptRow) (s : AttemptState) (type : EventType)
    (payload : Json) (writtenAt : String) : Prop where
  eventType : type.owner = 1 ∧ type ≠ .attemptReserved
  timestamp : rt.IsOffsetTimestamp writtenAt
  outcome : ∀ x ∈ s.outcomeSha256, IsSha256 x
  receipt : ∀ x ∈ s.adapterReceiptSha256, IsSha256 x
  completed : ∀ c ∈ s.completedAt, rt.IsOffsetTimestamp c ∧ rt.AtMost t.reservedAt c
  kept : ∀ e ∈ attemptEvents rt t, ∃ e' ∈ attemptEvents rt { t with state := s }, e'.Weakens e
  matched : ∃ e ∈ attemptEvents rt { t with state := s }, e.key = ⟨type, t.attemptId⟩ ∧
    (∀ d ∈ e.digest, eventDigest rt ⟨type, t.attemptId⟩ payload = d) ∧
    ∀ c ∈ e.createdAt, writtenAt = c
  covered : ∀ e' ∈ attemptEvents rt { t with state := s }, e'.required = true →
    (∃ e ∈ attemptEvents rt t, e.required = true ∧ e.key = e'.key) ∨
      e'.key = ⟨type, t.attemptId⟩

section Update

variable (rt : Runtime) (L : Ledger) (t : AttemptRow) (p : AttemptRow → Bool) (s : AttemptState)
  (type : EventType) (payload : Json) (writtenAt : String)

/-- The outbox row of the transition. -/
def updatedRow : OutboxRow := L.outboxRow rt ⟨type, t.attemptId⟩ payload writtenAt

/-- The ledger that the transition commits. -/
def updatedLedger : Ledger :=
  { L with
    attempts := (L.updateAttempts p s).attempts
    auditOutbox := L.auditOutbox ++ [updatedRow rt L t type payload writtenAt]
    sequence := L.sequence + 1 }

/-- The `WHERE` of an update selects the attempt `t` alone. -/
structure SelectsAttempt : Prop where
  mem : t ∈ L.attempts
  self : p t = true
  only : ∀ u ∈ L.attempts, p u = true → u.attemptId = t.attemptId

variable {rt L t p s type payload writtenAt}

theorem SelectsAttempt.mem_updated (h : SelectsAttempt L t p) :
    { t with state := s } ∈ (updatedLedger rt L t p s type payload writtenAt).attempts :=
  mem_updateWhere.mpr ⟨t, h.mem, by simp [h.self]⟩

theorem SelectsAttempt.eq (h : SelectsAttempt L t p) (hs : L.SchemaOk) {u : AttemptRow}
    (hu : u ∈ L.attempts) (hp : p u = true) : u = t :=
  eq_of_nodup_key hs.attemptIds hu h.mem (h.only u hu hp)

/-- The authorization of an unlinked attempt. -/
theorem Accepted.tokenRows_of_attempt (h : Accepted rt L) (ht : t ∈ L.attempts)
    (hl : t.link = none) : ∃ a, TokenRows L a (some t) ∧ t.tokenId = a.tokenId ∧
      a.state.consumedAt = some t.reservedAt ∧ rt.AtMost a.issuedAt t.reservedAt := by
  obtain ⟨a, ha, halink, hat, hconsumed, htime⟩ := (h.relations.unlinkedAttempts t ht hl).authority
  refine ⟨a, ⟨ha, halink, fun u => ?_⟩, hat.symm, hconsumed, htime⟩
  rw [Option.mem_def, Option.some.injEq]
  constructor
  · rintro ⟨hu, hut⟩
    exact (eq_of_nodup_key h.schema.attemptTokens hu ht (hut.trans hat)).symm
  · rintro rfl
    exact ⟨ht, hat.symm⟩

theorem SelectsAttempt.tokenRows (h : SelectsAttempt L t p) (hL : Accepted rt L)
    {a : AuthorizationRow} (hold : TokenRows L a (some t)) :
    TokenRows (updatedLedger rt L t p s type payload writtenAt) a
      (some { t with state := s }) := by
  have htoken : t.tokenId = a.tokenId := ((hold.attempt t).mpr rfl).2
  refine ⟨hold.mem, hold.link, fun u => ?_⟩
  rw [Option.mem_def, Option.some.injEq]
  constructor
  · rintro ⟨hu, hut⟩
    obtain ⟨v, hv, rfl⟩ := mem_updateWhere.mp hu
    by_cases hp : p v = true
    · have heq := h.eq hL.schema hv hp
      subst heq
      simp [hp]
    · -- another attempt of the same token
      rw [if_neg hp] at hut
      have heq := (hold.attempt v).mp ⟨hv, hut⟩
      rw [Option.mem_def, Option.some.injEq] at heq
      rw [← heq] at hp
      exact absurd h.self hp
  · rintro rfl
    exact ⟨h.mem_updated, htoken⟩

/-- An attempt without a terminal state has written no terminal event. -/
theorem Accepted.not_emitted_of_open (h : Accepted rt L) (ht : t ∈ L.attempts)
    (hopen : t.state.effect = none) {e : EventType}
    (he : e ∈ [EventType.attemptTerminal, .attemptRecoveredUnknown]) :
    ¬ L.Emitted ⟨e, t.attemptId⟩ := by
  rcases List.mem_cons.mp he with rfl | he
  · rintro ⟨u, hu, hut, heffect⟩
    rw [eq_of_nodup_key h.schema.attemptIds hu ht hut, hopen] at heffect
    simp at heffect
  · rw [List.mem_singleton.mp he]
    rintro ⟨u, hu, hut, heffect⟩
    rw [eq_of_nodup_key h.schema.attemptIds hu ht hut, hopen] at heffect
    simp at heffect

/-- The order checks on the attempt, after any of its transitions. -/
theorem attemptOrdered_updated (h : Accepted rt L) (hsel : SelectsAttempt L t p)
    (hl : t.link = none) (hopen : t.state.effect = none)
    (htype : type.owner = 1 ∧ type ≠ .attemptReserved) :
    AttemptOrdered (updatedLedger rt L t p s type payload writtenAt) { t with state := s } := by
  have hord := h.relations.projection.ordered h.schema
  have hrow : ∀ {key : EventKey}, key.eventType ≠ type →
      ∀ o ∈ [updatedRow rt L t type payload writtenAt], o.key ≠ key := by
    intro key hne
    simp only [List.mem_singleton, forall_eq]
    rintro rfl
    exact hne rfl
  have hreserved : ∀ o ∈ [updatedRow rt L t type payload writtenAt],
      o.key ≠ ⟨.attemptReserved, t.attemptId⟩ := hrow fun hne => htype.2 hne.symm
  have hattempt := hord.attempts t hsel.mem
  refine ⟨eventBefore_commit h rfl rfl (.inl ⟨hreserved, hord.reservedConsumed t hsel.mem⟩),
    ⟨eventBefore_commit h rfl rfl (.inl ⟨hreserved, hattempt.receipt⟩), fun e he => ?_⟩⟩
  obtain ⟨hfirst, hsecond, -⟩ := hattempt.terminal e he
  refine ⟨eventBefore_commit h rfl rfl (.inl ⟨hreserved, hfirst⟩), ?_,
    by simp [AttemptRow.requestKey, hl]⟩
  by_cases hreceipt : EventType.adapterReceiptRecorded = type
  · -- the receipt is what is written now
    refine eventBefore_commit h rfl rfl (.inr ⟨h.not_emitted_of_open hsel.mem hopen he, ?_⟩)
    apply hrow
    rw [← hreceipt]
    rcases List.mem_cons.mp he with rfl | he
    · simp
    · rw [List.mem_singleton.mp he]
      simp
  · exact eventBefore_commit h rfl rfl (.inl ⟨hrow hreceipt, hsecond⟩)

/-- A transition of an unlinked attempt commits. -/
theorem AttemptStep.accepted (hstep : AttemptStep rt t s type payload writtenAt)
    (h : Accepted rt L) (hsel : SelectsAttempt L t p) (hl : t.link = none)
    (hopen : t.state.effect = none) (hfresh : ¬ L.Emitted ⟨type, t.attemptId⟩)
    (hschema : (updatedLedger rt L t p s type payload writtenAt).SchemaOk)
    (hreceipts : ∀ o ∈ (updatedLedger rt L t p s type payload writtenAt).auditOutbox,
      ReceiptBetween rt { t with state := s } o)
    (hunknown : UnknownGroupOk (updatedLedger rt L t p s type payload writtenAt)
      { t with state := s }) :
    Accepted rt (updatedLedger rt L t p s type payload writtenAt) := by
  obtain ⟨a, hold, htoken, hconsumed, htime⟩ := h.tokenRows_of_attempt hsel.mem hl
  have hok := h.relations.unlinkedAttempts t hsel.mem hl
  have hnew : TokenRows (updatedLedger rt L t p s type payload writtenAt) a
      (some { t with state := s }) := hsel.tokenRows h hold
  have hsame : authorizationEvents rt (updatedLedger rt L t p s type payload writtenAt) a =
      authorizationEvents rt L a :=
    authorizationEvents_updateAttempts rt h.schema hschema hsel.mem hsel.mem_updated htoken
  suffices hcommit : TokenRowsCommit rt L (updatedLedger rt L t p s type payload writtenAt)
      a (some t) a (some { t with state := s }) [updatedRow rt L t type payload writtenAt] from
    hcommit.accepted h
  have hne : ∀ u : AttemptRow, u.tokenId ≠ a.tokenId → u ≠ t := by
    rintro u hu rfl
    exact hu htoken
  constructor
  case requests => rfl
  case requestResults => rfl
  case groups =>
    intro k
    refine group_of_authorizations ?_ rfl rfl
    refine filter_updateWhere_of_disjoint ?_ ?_ <;>
    · intro u hu hup
      rw [hsel.eq h.schema hu hup]
      simp [AttemptRow.requestKey, hl]
  case authorizations => exact fun _ _ => Iff.rfl
  case attempts =>
    intro u hu
    constructor
    · intro hmem
      obtain ⟨v, hv, rfl⟩ := mem_updateWhere.mp hmem
      by_cases hp : p v = true
      · rw [if_pos hp, hsel.eq h.schema hv hp] at hu
        exact absurd htoken hu
      · rwa [if_neg hp]
    · intro hmem
      have hp : ¬ p u = true := fun hp => hne u hu (hsel.eq h.schema hmem hp)
      exact mem_updateWhere.mpr ⟨u, hmem, by simp [hp]⟩
  case schema => exact hschema
  case appended =>
    refine ⟨rfl, rfl, rfl, ?_, by simp, ?_⟩ <;> simp only [List.mem_singleton, forall_eq]
    · exact outboxRowOk_outboxRow hok.identifiers.1 hstep.timestamp
    · exact hfresh
  case old => exact hold
  case new => exact hnew
  case token => rfl
  case authorizationOk => exact h.relations.unlinkedAuthorizations a hold.mem hold.link
  case attemptOk =>
    simp only [Option.mem_def, Option.some.injEq, forall_eq']
    exact ⟨hok.identifiers, hok.digests, hok.authority, hok.reserved, hstep.outcome,
      hstep.receipt, hstep.completed⟩
  case kept =>
    simp only [tokenEvents, Option.toList_some, List.flatMap_cons, List.flatMap_nil,
      List.append_nil, List.mem_append, hsame]
    rintro e (he | he)
    · obtain ⟨e', he', hweak⟩ := hstep.kept e he
      exact ⟨e', .inl he', hweak⟩
    · exact ⟨e, .inr he, .refl e⟩
  case matched =>
    simp only [tokenEvents, Option.toList_some, List.flatMap_cons, List.flatMap_nil,
      List.append_nil, List.mem_append, List.mem_singleton, forall_eq]
    obtain ⟨e, he, hkey, hdigest, hat⟩ := hstep.matched
    exact ⟨e, .inl he, hkey, hdigest, hat⟩
  case covered =>
    simp only [tokenEvents, Option.toList_some, List.flatMap_cons, List.flatMap_nil,
      List.append_nil, List.mem_append, List.mem_singleton, exists_eq_left, hsame]
    rintro e' (he' | he') hreq
    · rcases hstep.covered e' he' hreq with ⟨e, he, hreq', hkey⟩ | hkey
      · exact .inl ⟨e, .inl he, hreq', hkey⟩
      · exact .inr hkey.symm
    · exact .inl ⟨e', .inr he', hreq, rfl⟩
  case receipts =>
    simp only [Option.mem_def, Option.some.injEq, forall_eq']
    exact hreceipts
  case unknown =>
    simp only [Option.mem_def, Option.some.injEq, forall_eq']
    exact hunknown
  case attemptsOrdered =>
    simp only [Option.mem_def, Option.some.injEq, forall_eq']
    exact attemptOrdered_updated h hsel hl hopen hstep.eventType

end Update

/-! ## §3 Recording a receipt -/

section Receipt

variable {rt : Runtime} {L : Ledger} {t : AttemptRow} {receipt outcome recordedAt : String}

/-- The recording of a receipt commits. -/
theorem unlinkedReceipt_accepted (h : Accepted rt L) (ht : t ∈ L.attempts) (hl : t.link = none)
    (hstate : t.state = .reserved)
    (hargs : ReceiptArgsOk rt t.attemptId receipt outcome recordedAt)
    (htime : rt.AtMost t.reservedAt recordedAt)
    (hevent : (⟨.adapterReceiptRecorded, t.attemptId⟩, eventDigest rt
        ⟨.adapterReceiptRecorded, t.attemptId⟩ (adapterReceiptRecordedPayload receipt outcome)) ∉
      L.auditOutbox.map fun o => (o.key, o.payloadSha256)) :
    Accepted rt (receiptLedger rt L t receipt outcome recordedAt) := by
  obtain ⟨-, hreceipt, houtcome, hat⟩ := hargs
  have hopen : t.state.effect = none := by simp [hstate, AttemptState.effect]
  have hsel : SelectsAttempt L t fun u => u.attemptId = t.attemptId ∧ u.state = .reserved := by
    refine ⟨ht, by simp [hstate], fun u _ hu => ?_⟩
    simp only [decide_eq_true_eq] at hu
    exact hu.1
  have hfresh : ¬ L.Emitted ⟨.adapterReceiptRecorded, t.attemptId⟩ := by
    rintro ⟨u, hu, hut, hrecorded⟩
    rw [eq_of_nodup_key h.schema.attemptIds hu ht hut, hstate] at hrecorded
    simp [AttemptState.adapterReceiptSha256] at hrecorded
  have hschema : (receiptLedger rt L t receipt outcome recordedAt).SchemaOk := by
    have h₁ := h.schema.updateAttempts
      (p := fun u => u.attemptId = t.attemptId ∧ u.state = .reserved)
      (s := .receiptRecorded outcome receipt) trivial
    exact h₁.insertOutbox rt h.relations.eventId_le
      (Ledger.insertOutbox_eq_ok.mpr ⟨hevent, rfl⟩)
  have hstep : AttemptStep rt t (.receiptRecorded outcome receipt) .adapterReceiptRecorded
      (adapterReceiptRecordedPayload receipt outcome) recordedAt := by
    have hold : attemptEvents rt t = [attemptReservedEvent rt t] :=
      attemptEvents_of_reserved hstate
    constructor
    case eventType => exact ⟨rfl, by simp⟩
    case timestamp => exact hat
    case outcome => simpa [AttemptState.outcomeSha256] using houtcome
    case receipt => simpa [AttemptState.adapterReceiptSha256] using hreceipt
    case completed => simp [AttemptState.completedAt]
    case kept =>
      simp only [hold, List.mem_singleton, forall_eq]
      exact ⟨_, List.mem_cons_self, .refl _⟩
    case matched =>
      refine ⟨_, List.mem_cons_of_mem _ (List.mem_singleton.mpr rfl), rfl, ?_, by simp⟩
      intro _ hd
      cases hd
      rfl
    case covered =>
      rw [hold]
      simp only [attemptEvents, List.mem_cons, List.not_mem_nil, or_false]
      rintro e' (rfl | rfl) hreq
      · exact .inl ⟨_, rfl, hreq, rfl⟩
      · exact .inr rfl
  refine hstep.accepted (p := fun u => u.attemptId = t.attemptId ∧ u.state = .reserved) h hsel hl
    hopen hfresh hschema (fun o ho hkey => ?_) ?_
  · rcases List.mem_append.mp ho with ho | ho
    · exact absurd hkey (h.relations.projection.unobserved hfresh o ho)
    · rw [List.mem_singleton.mp ho]
      exact ⟨htime, by simp [AttemptState.completedAt]⟩
  · intro hunknown
    simp [AttemptRow.UnlinkedUnknown, AttemptState.effect] at hunknown

end Receipt

/-! ## §4 Terminating -/

section Terminate

variable (rt : Runtime) (L : Ledger) (t : AttemptRow) (effect : EffectState) (outcome : String)
  (receipt : Option String) (completedAt : String) (type : EventType) (payload : Json)

/-- When the validator accepts the end of an open unlinked attempt: the event is one of
the two that the new state calls for, a known effect has its receipt recorded before,
and a recorded receipt stays and is not later than the end. -/
structure TerminationOk : Prop where
  effectNone : t.state.effect = none
  reserved : t.state = .reserved → effect = .unknownEffect
  receiptKept : t.state.adapterReceiptSha256.isSome = true → receipt.isSome = true
  event : (type = .attemptTerminal ∧
      eventDigest rt ⟨.attemptTerminal, t.attemptId⟩ payload =
        eventDigest rt ⟨.attemptTerminal, t.attemptId⟩
          (attemptTerminalPayload effect outcome receipt)) ∨
    (type = .attemptRecoveredUnknown ∧ payload = attemptRecoveredUnknownPayload ∧
      effect = .unknownEffect)
  outcomeOk : IsSha256 outcome
  receiptOk : ∀ x ∈ receipt, IsSha256 x
  completed : rt.IsOffsetTimestamp completedAt ∧ rt.AtMost t.reservedAt completedAt
  receiptInTime : ∀ o ∈ L.auditOutbox, o.key = ⟨.adapterReceiptRecorded, t.attemptId⟩ →
    rt.AtMost o.createdAt completedAt

/-- The ledger that the end of an attempt commits. -/
def terminatedLedger : Ledger :=
  updatedLedger rt L t (fun u => u.attemptId = t.attemptId ∧ u.state.effect = none)
    (.terminal effect outcome receipt completedAt) type payload completedAt

variable {rt L t effect outcome receipt completedAt type payload}

/-- The events of a terminated unlinked attempt, for an unknown effect and for others. -/
theorem attemptEvents_unlinked_unknown (hl : t.link = none) :
    attemptEvents rt { t with state := .terminal .unknownEffect outcome receipt completedAt } =
      attemptReservedEvent rt t :: ((if receipt.isSome then
        [⟨⟨.adapterReceiptRecorded, t.attemptId⟩, none, none, false⟩] else []) ++
      [{ exactEvent rt ⟨.attemptTerminal, t.attemptId⟩
          (attemptTerminalPayload .unknownEffect outcome receipt) completedAt with
            required := false },
       { exactEvent rt ⟨.attemptRecoveredUnknown, t.attemptId⟩ attemptRecoveredUnknownPayload
          completedAt with required := false }]) := by
  simp [attemptEvents, attemptTerminalEvents, AttemptRow.UnlinkedUnknown, hl, AttemptState.effect,
    attemptReservedEvent]

theorem attemptEvents_unlinked_known (hne : effect ≠ .unknownEffect) :
    attemptEvents rt { t with state := .terminal effect outcome receipt completedAt } =
      attemptReservedEvent rt t :: ((if receipt.isSome then
        [⟨⟨.adapterReceiptRecorded, t.attemptId⟩, none, none, true⟩] else []) ++
      [exactEvent rt ⟨.attemptTerminal, t.attemptId⟩
        (attemptTerminalPayload effect outcome receipt) completedAt]) := by
  have hother : ¬ AttemptRow.UnlinkedUnknown
      { t with state := .terminal effect outcome receipt completedAt } := by
    simp [AttemptRow.UnlinkedUnknown, AttemptState.effect, hne]
  simp [attemptEvents, attemptTerminalEvents, hother, attemptReservedEvent, hne]

/-- The events of an open attempt. -/
theorem mem_attemptEvents_of_open (hopen : t.state.effect = none) {e : ExpectedEvent} :
    e ∈ attemptEvents rt t ↔ e = attemptReservedEvent rt t ∨
      ∃ o r, t.state = .receiptRecorded o r ∧
        e = ⟨⟨.adapterReceiptRecorded, t.attemptId⟩,
          some (eventDigest rt ⟨.adapterReceiptRecorded, t.attemptId⟩
            (adapterReceiptRecordedPayload r o)), none, true⟩ := by
  cases hs : t.state with
  | reserved => simp [attemptEvents, hs]
  | receiptRecorded o r =>
    simp only [attemptEvents, hs, List.mem_cons, List.not_mem_nil, or_false,
      AttemptState.receiptRecorded.injEq]
    refine or_congr_right ⟨fun he => ⟨o, r, ⟨rfl, rfl⟩, he⟩, ?_⟩
    rintro ⟨_, _, ⟨rfl, rfl⟩, he⟩
    exact he
  | terminal e o r c =>
    rw [hs] at hopen
    simp [AttemptState.effect] at hopen

theorem TerminationOk.attemptStep
    (h : TerminationOk rt L t effect outcome receipt completedAt type payload)
    (hl : t.link = none) :
    AttemptStep rt t (.terminal effect outcome receipt completedAt) type payload completedAt := by
  have hopen := h.effectNone
  -- a recorded receipt keeps an event, of which less is asked now
  have hreceipt : ∀ required : Bool, (∃ o r, t.state = .receiptRecorded o r) →
      (⟨⟨.adapterReceiptRecorded, t.attemptId⟩, none, none, required⟩ : ExpectedEvent) ∈
        (if receipt.isSome then
          [⟨⟨.adapterReceiptRecorded, t.attemptId⟩, none, none, required⟩] else []) := by
    rintro required ⟨o, r, hs⟩
    have hsome := h.receiptKept (by simp [hs, AttemptState.adapterReceiptSha256])
    simp [hsome]
  constructor
  case eventType =>
    rcases h.event with ⟨rfl, -⟩ | ⟨rfl, -, -⟩
    · exact ⟨rfl, by simp⟩
    · exact ⟨rfl, by simp⟩
  case timestamp => exact h.completed.1
  case outcome => simpa [AttemptState.outcomeSha256] using h.outcomeOk
  case receipt => simpa [AttemptState.adapterReceiptSha256] using h.receiptOk
  case completed => simpa [AttemptState.completedAt] using h.completed
  case kept =>
    intro e he
    by_cases hunknown : effect = .unknownEffect
    · subst hunknown
      rw [attemptEvents_unlinked_unknown hl]
      rcases (mem_attemptEvents_of_open hopen).mp he with rfl | ⟨o, r, hs, rfl⟩
      · exact ⟨_, List.mem_cons_self, .refl _⟩
      · exact ⟨_, List.mem_cons_of_mem _ (List.mem_append_left _ (hreceipt _ ⟨o, r, hs⟩)),
          rfl, by simp, by simp⟩
    · rw [attemptEvents_unlinked_known hunknown]
      rcases (mem_attemptEvents_of_open hopen).mp he with rfl | ⟨o, r, hs, rfl⟩
      · exact ⟨_, List.mem_cons_self, .refl _⟩
      · exact ⟨_, List.mem_cons_of_mem _ (List.mem_append_left _ (hreceipt _ ⟨o, r, hs⟩)),
          rfl, by simp, by simp⟩
  case matched =>
    by_cases hunknown : effect = .unknownEffect
    · subst hunknown
      rw [attemptEvents_unlinked_unknown hl]
      rcases h.event with ⟨rfl, hdigest⟩ | ⟨rfl, rfl, -⟩
      · refine ⟨_, List.mem_cons_of_mem _ (List.mem_append_right _ List.mem_cons_self), rfl, ?_, ?_⟩
        · simpa [exactEvent] using hdigest
        · simp [exactEvent]
      · refine ⟨_, List.mem_cons_of_mem _ (List.mem_append_right _ (List.mem_cons_of_mem _
          (List.mem_singleton.mpr rfl))), rfl, ?_, ?_⟩ <;> simp [exactEvent]
    · rw [attemptEvents_unlinked_known hunknown]
      rcases h.event with ⟨rfl, hdigest⟩ | ⟨-, -, heq⟩
      · refine ⟨_, List.mem_cons_of_mem _ (List.mem_append_right _ (List.mem_singleton.mpr rfl)),
          rfl, ?_, ?_⟩
        · simpa [exactEvent] using hdigest
        · simp [exactEvent]
      · exact absurd heq hunknown
  case covered =>
    intro e' he' hreq
    have hreserved : attemptReservedEvent rt t ∈ attemptEvents rt t :=
      (mem_attemptEvents_of_open hopen).mpr (.inl rfl)
    by_cases hunknown : effect = .unknownEffect
    · subst hunknown
      rw [attemptEvents_unlinked_unknown hl] at he'
      simp only [List.mem_cons, List.mem_append, List.not_mem_nil, or_false,
        List.mem_ite_nil_right] at he'
      rcases he' with rfl | ⟨-, rfl⟩ | rfl | rfl
      · exact .inl ⟨_, hreserved, hreq, rfl⟩
      · cases hreq
      · cases hreq
      · cases hreq
    · rw [attemptEvents_unlinked_known hunknown] at he'
      simp only [List.mem_cons, List.mem_append, List.not_mem_nil, or_false,
        List.mem_ite_nil_right] at he'
      rcases he' with rfl | ⟨-, rfl⟩ | rfl
      · exact .inl ⟨_, hreserved, hreq, rfl⟩
      · -- the receipt of a known effect was recorded
        cases hs : t.state with
        | reserved => exact absurd (h.reserved hs) hunknown
        | receiptRecorded o r =>
          exact .inl ⟨_, (mem_attemptEvents_of_open hopen).mpr (.inr ⟨o, r, hs, rfl⟩), rfl, rfl⟩
        | terminal e o r c =>
          rw [hs] at hopen
          simp [AttemptState.effect] at hopen
      · rcases h.event with ⟨rfl, -⟩ | ⟨-, -, heq⟩
        · exact .inr rfl
        · exact absurd heq hunknown

/-- The end of an open unlinked attempt commits. -/
theorem TerminationOk.accepted
    (h : TerminationOk rt L t effect outcome receipt completedAt type payload)
    (hL : Accepted rt L) (ht : t ∈ L.attempts) (hl : t.link = none)
    (hschema : (terminatedLedger rt L t effect outcome receipt completedAt type
      payload).SchemaOk) :
    Accepted rt (terminatedLedger rt L t effect outcome receipt completedAt type payload) := by
  have hopen := h.effectNone
  have hsel : SelectsAttempt L t fun u => u.attemptId = t.attemptId ∧ u.state.effect = none := by
    refine ⟨ht, by simp [hopen], fun u _ hu => ?_⟩
    simp only [decide_eq_true_eq] at hu
    exact hu.1
  have htype : type ∈ [EventType.attemptTerminal, .attemptRecoveredUnknown] := by
    rcases h.event with ⟨rfl, -⟩ | ⟨rfl, -, -⟩ <;> simp
  have hfresh : ∀ e ∈ [EventType.attemptTerminal, .attemptRecoveredUnknown],
      ¬ L.Emitted ⟨e, t.attemptId⟩ := fun e he => hL.not_emitted_of_open ht hopen he
  refine (h.attemptStep hl).accepted hL hsel hl hopen (hfresh type htype) hschema ?_ ?_
  · intro o ho hkey
    rcases List.mem_append.mp ho with ho | ho
    · have hbetween := hL.relations.projection.receiptChronology o ho
        (congrArg EventKey.eventType hkey) t ht (congrArg EventKey.subjectId hkey).symm
      exact ⟨hbetween.1, by simpa [AttemptState.completedAt] using h.receiptInTime o ho hkey⟩
    · rw [List.mem_singleton.mp ho] at hkey
      have htype' : type = .adapterReceiptRecorded := congrArg EventKey.eventType hkey
      rw [htype'] at htype
      simp at htype
  · -- the row of `type` is written, the other is not
    intro _ heq
    have hwritten : (terminatedLedger rt L t effect outcome receipt completedAt type
        payload).eventId ⟨type, t.attemptId⟩ = some (L.sequence + 1) := by
      have hnone : L.auditOutbox.find? (fun o => o.key = ⟨type, t.attemptId⟩) = none := by
        rw [List.find?_eq_none]
        intro o ho
        simpa using hL.relations.projection.unobserved (hfresh type htype) o ho
      simp only [Ledger.eventId, terminatedLedger, updatedLedger, List.find?_append, hnone,
        Option.none_or]
      simp [updatedRow]
      rfl
    have hother : ∀ e ∈ [EventType.attemptTerminal, .attemptRecoveredUnknown], e ≠ type →
        (terminatedLedger rt L t effect outcome receipt completedAt type payload).eventId
          ⟨e, t.attemptId⟩ = none := by
      intro e he hne
      refine Ledger.eventId_eq_none (unobserved_commit hL rfl (hfresh e he) ?_)
      simp only [List.mem_singleton, forall_eq]
      exact fun hkey => hne (congrArg EventKey.eventType hkey).symm
    rcases h.event with ⟨rfl, -⟩ | ⟨rfl, -, -⟩
    · have hnone := hother .attemptRecoveredUnknown (by simp) (by simp)
      rw [← terminatedLedger, hwritten, hnone] at heq
      simp at heq
    · have hnone := hother .attemptTerminal (by simp) (by simp)
      rw [← terminatedLedger, hwritten, hnone] at heq
      simp at heq

end Terminate

end DecisionFirewall.StageA
