import DecisionFirewall.StageA.AuthorizationCommits

/-!
# Committing Attempts

`consume_once` for a request-linked authorization and `record_adapter_receipt` on an
accepted ledger: each commits a ledger that the validator accepts again.
-/

namespace DecisionFirewall.StageA

open Lib.Table

theorem attemptEvents_of_reserved {rt : Runtime} {t : AttemptRow} (h : t.state = .reserved) :
    attemptEvents rt t = [attemptReservedEvent rt t] := by
  simp [attemptEvents, h]

/-! ## §1 consume_once -/

section Consume

variable (rt : Runtime) (L : Ledger) (a : AuthorizationRow) (l : AuthorizationLink)
  (res : Reservation) (s : RecoverySummary) (consumedAt : String)

/-- `state='ATTEMPT_RESERVED', updated_at=consumed_at`. -/
def reserveRequest (r : RequestRow) : RequestRow :=
  { r with state := .attemptReserved, updatedAt := consumedAt }

/-- The link of a reserved attempt. -/
def reservedLink : AttemptLink :=
  ⟨l.principalId, l.requestId, l.requestSha256, s, rt.sha256Json s.toDict⟩

/-- The two outbox rows that a consumption adds. -/
def reservedRow : OutboxRow :=
  L.outboxRow rt ⟨.attemptReserved, res.attemptId⟩
    (attemptReservedPayload rt a.tokenId res.bindingSha256 res.idempotencyKey) consumedAt

def consumedRow : OutboxRow :=
  { L.outboxRow rt ⟨.authorizationConsumed, a.tokenId⟩
      (authorizationConsumedPayload (some res.attemptId)) consumedAt with
    eventId := L.sequence + 2 }

/-- The ledger that the consumption of a linked authorization commits. -/
def consumedLedger : Ledger where
  requests := updateWhere (isAuthorizedRequest l) (reserveRequest consumedAt) L.requests
  authorizations := (L.updateAuthorizations
    (fun b => b.tokenId = a.tokenId ∧ b.state = .issued) (.consumed consumedAt)).authorizations
  attempts := L.attempts ++ [reservedAttempt rt a res (some s) consumedAt]
  requestResults := L.requestResults
  auditOutbox := L.auditOutbox ++
    [reservedRow rt L a res consumedAt, consumedRow rt L a res consumedAt]
  sequence := L.sequence + 2

variable {rt L a l res s consumedAt} {L' : Ledger}

theorem reservedAttempt_link (rt : Runtime) (res : Reservation) (s : RecoverySummary)
    (consumedAt : String) (hl : a.link = some l) :
    (reservedAttempt rt a res (some s) consumedAt).link = some (reservedLink rt l s) := by
  simp [reservedAttempt, hl, reservedLink]

/-- Linked authority is consumed with an exact attempt and a bound summary. -/
theorem consumeOnceBody_eq_ok (h : Accepted rt L) {tokenId : String}
    {reservation : Option Reservation} {summary : Option RecoverySummary} {u : Unit}
    (hlinked : ∀ a ∈ L.authorizations, a.tokenId = tokenId → a.link.isSome = true)
    (hbody : consumeOnceBody rt tokenId reservation summary consumedAt L = .ok (u, L')) :
    ∃ a l res s, a ∈ L.authorizations ∧ a.tokenId = tokenId ∧ a.link = some l ∧
      a.state = .issued ∧ reservation = some res ∧ summary = some s ∧
      rt.AtMost a.issuedAt consumedAt ∧
      SummaryBinds rt L a l s consumedAt ∧
      L'.SchemaOk ∧
      (reservedAttempt rt a res (some s) consumedAt).attemptId ∉
        L.attempts.map AttemptRow.attemptId ∧
      L' = consumedLedger rt L a l res s consumedAt := by
  unfold consumeOnceBody at hbody
  cases hfound : L.authorization tokenId with
  | none => simp [hfound] at hbody
  | some a =>
    obtain ⟨ha, htoken⟩ := (Ledger.authorization_eq_some h.schema).mp hfound
    obtain ⟨l, hl⟩ := Option.isSome_iff_exists.mp (hlinked a ha htoken)
    subst htoken
    have hgiven : reservation.isSome = true ∧ summary.isSome = true := by
      simp only [hfound, requireSummary, hl, bind_eq_ok, require_eq_ok, exists_const] at hbody
      exact hbody.2.2.1.1
    obtain ⟨res, rfl⟩ := Option.isSome_iff_exists.mp hgiven.1
    obtain ⟨s, rfl⟩ := Option.isSome_iff_exists.mp hgiven.2
    simp only [hfound, requireSummary, hl, bind_eq_ok, require_eq_ok, exists_const, pure, Except.pure,
      Except.ok.injEq, Prod.mk.injEq] at hbody
    obtain ⟨hstate, ⟨htime, -⟩, ⟨-, hbinds⟩, L₁, hreserve, L₂, hconsumed, -, rfl⟩ := hbody
    simp only [reserveAttempt, hl, bind_eq_ok, require_eq_ok, exists_const, pure, Except.pure,
      Except.ok.injEq] at hreserve
    obtain ⟨L₃, hattempt, -, L₄, rfl, hreserved⟩ := hreserve
    have hs₃ := h.schema.insertAttempt hattempt
    have hfacts := Ledger.insertAttempt_eq_ok.mp hattempt
    obtain ⟨⟨hid, -⟩, rfl⟩ := hfacts
    have hs₄ := hs₃.updateRequests (p := isAuthorizedRequest l)
      (f := reserveRequest consumedAt) (fun _ => rfl) (fun _ => rfl)
    have hs₁ := hs₄.insertOutbox rt h.relations.eventId_le hreserved
    obtain ⟨-, rfl⟩ := Ledger.insertOutbox_eq_ok.mp hreserved
    have hs₅ := hs₁.updateAuthorizations
      (p := fun b => b.tokenId = a.tokenId ∧ b.state = .issued) (s := .consumed consumedAt)
    have hids : ∀ o ∈ L.auditOutbox ++ [reservedRow rt L a res consumedAt],
        o.eventId ≤ L.sequence + 1 := by
      intro o ho
      rcases List.mem_append.mp ho with ho | ho
      · exact (h.relations.eventId_le o ho).trans (Nat.le_succ _)
      · rw [List.mem_singleton.mp ho]
        exact le_rfl
    have hs := hs₅.insertOutbox rt hids hconsumed
    obtain ⟨-, rfl⟩ := Ledger.insertOutbox_eq_ok.mp hconsumed
    refine ⟨a, l, res, s, ha, rfl, hl, hstate, rfl, rfl, htime, hbinds s rfl, hs, hid, ?_⟩
    simp only [consumedLedger, Ledger.updateAuthorizations, Ledger.updateRequests,
      List.append_assoc]
    rfl

/-- What the argument checks of `consume_once` leave. -/
structure ReservationOk (rt : Runtime) (res : Reservation) (s : RecoverySummary)
    (consumedAt : String) : Prop where
  attemptId : IsIdentifier res.attemptId
  bindingSha256 : IsSha256 res.bindingSha256
  idempotencyKey : res.idempotencyKey = res.bindingSha256
  summary : s.Valid rt
  consumedAt : rt.IsOffsetTimestamp consumedAt

/-- The consumption of a linked authorization commits. -/
theorem consume_commit (h : Accepted rt L) (ha : a ∈ L.authorizations) (hl : a.link = some l)
    (hstate : a.state = .issued) (hargs : ReservationOk rt res s consumedAt)
    (htime : rt.AtMost a.issuedAt consumedAt) (hbinds : SummaryBinds rt L a l s consumedAt)
    (hschema : (consumedLedger rt L a l res s consumedAt).SchemaOk)
    (hid : res.attemptId ∉ L.attempts.map AttemptRow.attemptId) :
    RequestCommit rt L (consumedLedger rt L a l res s consumedAt) l.key
      [reservedRow rt L a res consumedAt, consumedRow rt L a res consumedAt] := by
  obtain ⟨r, hr, hrk, hauthorized, hgroup, hok⟩ := h.of_issued ha hl hstate
  obtain ⟨hauths, hattempts, hresults⟩ := Ledger.group_eq hgroup
  have haok := hok.authorization a (by simp) l hl
  have hlink := reservedAttempt_link rt res s consumedAt hl
  have htkey : (reservedAttempt rt a res (some s) consumedAt).requestKey = some l.key := by
    simp only [AttemptRow.requestKey, hlink]
    rfl
  have hrows : L.requestsOf l.key = [r] := hrk ▸ Ledger.requestsOf_eq_singleton h.schema hr
  have hrows' : (consumedLedger rt L a l res s consumedAt).requestsOf l.key =
      [reserveRequest consumedAt r] :=
    Ledger.requestsOf_update (f := reserveRequest consumedAt) rfl (fun _ => rfl) hrows
      (by simp [isAuthorizedRequest, hrk, haok.binding.2, hauthorized])
  have hgroup' : (consumedLedger rt L a l res s consumedAt).group l.key =
      ⟨[{ a with state := .consumed consumedAt }],
        [reservedAttempt rt a res (some s) consumedAt], []⟩ := by
    refine Ledger.group_mk (Ledger.authorizationsOf_update rfl hauths (by simp [hstate])) ?_ hresults
    have hinsert := Ledger.attemptsOf_insert (L := L)
      (rfl : (consumedLedger rt L a l res s consumedAt).attempts = _) htkey
    rwa [hattempts] at hinsert
  obtain ⟨hauths', hattempts', -⟩ := Ledger.group_eq hgroup'
  have hbyToken : (consumedLedger rt L a l res s consumedAt).attemptByToken a.tokenId =
      some (reservedAttempt rt a res (some s) consumedAt) :=
    (Ledger.attemptByToken_eq_some hschema).mpr
      ⟨List.mem_append_right _ (List.mem_singleton.mpr rfl), rfl⟩
  -- neither the attempt nor the consumption has been written before
  have hattemptFresh : ∀ type : EventType, type.owner = 1 → ¬ L.Emitted ⟨type, res.attemptId⟩ := by
    intro type htype hemitted
    refine hid (List.mem_map.mpr ?_)
    cases type <;> simp only [EventType.owner] at htype <;>
      first | exact absurd htype (by decide) | skip
    · exact hemitted
    all_goals
      obtain ⟨t, ht, htid, -⟩ := hemitted
      exact ⟨t, ht, htid⟩
  have hconsumedFresh : ¬ L.Emitted ⟨.authorizationConsumed, a.tokenId⟩ := by
    rintro ⟨b, hb, hba, hconsumed⟩
    rw [eq_of_nodup_key h.schema.tokenIds hb ha hba, hstate] at hconsumed
    simp [AuthorizationState.consumedAt] at hconsumed
  have hrowFresh : ∀ o ∈ [reservedRow rt L a res consumedAt, consumedRow rt L a res consumedAt],
      ¬ L.Emitted o.key := by
    simp only [List.mem_cons, List.not_mem_nil, or_false, forall_eq_or_imp, forall_eq]
    exact ⟨hattemptFresh _ rfl, hconsumedFresh⟩
  have hdistinct : ([reservedRow rt L a res consumedAt, consumedRow rt L a res consumedAt].map
      OutboxRow.key).Nodup := by
    simp [reservedRow, consumedRow, OutboxRow.key, Ledger.outboxRow]
  have hold := groupEvents_eq rt hrows hgroup
  have hnew := groupEvents_eq rt hrows' hgroup'
  simp only [List.flatMap_cons, List.flatMap_nil, List.append_nil, authorizationEvents,
    hstate, attemptEvents_of_reserved (t := reservedAttempt rt a res (some s) consumedAt) rfl,
    hbyToken] at hold hnew
  constructor
  case write =>
    refine ⟨.update ?_ fun _ => rfl, .update ?_ fun _ => by rfl, .append htkey, .refl⟩
    · intro b _ hb
      simp only [isAuthorizedRequest, decide_eq_true_eq] at hb
      simpa using hb.1
    · intro b hb hbp
      simp only [decide_eq_true_eq] at hbp
      rw [eq_of_nodup_key h.schema.tokenIds hb ha hbp.1]
      simp [AuthorizationRow.requestKey, hl]
  case schema => exact hschema
  case subjects =>
    simp only [consumedLedger]
    rw [map_updateWhere_of_eq fun _ _ => by rfl]
    exact h.subjects
  case outbox => rfl
  case sequence => rfl
  case rowIds => rfl
  case rowsOk =>
    simp only [List.mem_cons, List.not_mem_nil, or_false, forall_eq_or_imp, forall_eq]
    exact ⟨outboxRowOk_outboxRow hargs.attemptId hargs.consumedAt,
      haok.identifiers.1, rt.sha256Json_isSha256 _, hargs.consumedAt,
      by simp [consumedRow, Ledger.outboxRow]⟩
  case distinct => exact hdistinct
  case fresh => exact hrowFresh
  case request =>
    rw [hrows', hgroup']
    simp only [List.mem_singleton, forall_eq]
    have hclaim : rt.AtMost r.claimedAt consumedAt := haok.issued.2.1.trans rt htime
    constructor
    case identifiers => exact hok.identifiers
    case timestamps => exact ⟨hok.timestamps.1, hargs.consumedAt, hclaim⟩
    case coherent =>
      exact lifecycleCoherent_attemptReserved.mpr ⟨_, _, rfl, rfl, rfl⟩
    case authorization =>
      simp only [List.mem_singleton, forall_eq, hl, Option.mem_def, Option.some.injEq, forall_eq']
      refine ⟨haok.identifiers, haok.digests, haok.binding,
        ⟨haok.issued.1, haok.issued.2.1, fun hs => by cases hs⟩, ?_, ?_⟩
      · simpa [AuthorizationState.endedAt] using ⟨hargs.consumedAt, htime⟩
      · simp [AuthorizationState.revocationReason]
    case attempt =>
      simp only [List.mem_singleton, forall_eq, hlink, hl, Option.mem_def, Option.some.injEq,
        forall_eq', exists_eq_left, exists_eq_left']
      obtain ⟨r', hr', hdecided⟩ := hbinds.afterClaim
      obtain ⟨hr', hrk'⟩ := (Ledger.request_eq_some h.schema).mp hr'
      rw [eq_of_nodup_key h.schema.requestKeys hr' hr (hrk'.trans hrk.symm)] at hdecided
      have hprincipal : s.principalId = r.principalId :=
        hbinds.principalId.trans (congrArg RequestKey.principalId hrk.symm)
      have hrequest : s.requestId = r.requestId :=
        hbinds.requestId.trans (congrArg RequestKey.requestId hrk.symm)
      have hlength : (canonicalJson s.toDict).length ≤ 16384 := by
        apply RecoverySummary.length_canonicalJson_le hargs.summary
        have := h.length_subject_le hr
        rw [RequestKey.length_subject] at this
        rw [hprincipal, hrequest]
        exact this
      constructor
      case identifiers => exact ⟨hargs.attemptId, haok.identifiers.1⟩
      case digests =>
        refine ⟨haok.digests.1, ?_, hargs.bindingSha256⟩
        simpa [reservedAttempt, hargs.idempotencyKey] using hargs.bindingSha256
      case binding => exact ⟨rfl, hrk.symm, haok.binding.2, hargs.idempotencyKey⟩
      case reserved => exact ⟨hargs.consumedAt, rfl, htime, fun _ => rfl⟩
      case summaryIntegrity => exact ⟨hlength, rfl, hargs.summary⟩
      case summaryBinding =>
        exact ⟨hprincipal, hrequest, hbinds.requestSha256.trans haok.binding.2, hbinds.decisionId,
          hbinds.decisionSha256, hbinds.outcome, hdecided, hbinds.beforeIssue⟩
      case outcome => simp [reservedAttempt, AttemptState.outcomeSha256]
      case receipt => simp [reservedAttempt, AttemptState.adapterReceiptSha256]
      case completed => simp [reservedAttempt, AttemptState.completedAt]
    all_goals simp
  case kept =>
    intro e he
    refine ⟨e, ?_, .refl e⟩
    rw [hold] at he
    rw [hnew]
    simp only [List.mem_append, List.mem_cons, List.not_mem_nil, or_false] at he ⊢
    rcases he with he | he
    · exact .inl (.inl he)
    · exact .inr (.inl he)
  case matched =>
    simp only [hnew, List.mem_cons, List.not_mem_nil, or_false, forall_eq_or_imp, forall_eq]
    refine ⟨⟨_, List.mem_append_left _ (List.mem_append_right _ (List.mem_singleton.mpr rfl)),
      outboxRow_matches⟩, ⟨_, List.mem_append_right _ (List.mem_cons_of_mem _
      (List.mem_singleton.mpr rfl)), ?_⟩⟩
    refine ⟨rfl, ?_, ?_⟩ <;> intro _ hd <;> cases hd <;> rfl
  case covered =>
    intro e he hreq
    rw [hnew] at he
    rw [hold]
    simp only [List.mem_append, List.mem_cons, List.not_mem_nil, or_false] at he
    rcases he with (he | he) | he | he
    · exact .inl ⟨e, List.mem_append_left _ he, hreq, rfl⟩
    · exact .inr ⟨_, List.mem_cons_self, by rw [he]; rfl⟩
    · exact .inl ⟨e, List.mem_append_right _ (by simp [he]), hreq, rfl⟩
    · exact .inr ⟨_, List.mem_cons_of_mem _ (List.mem_singleton.mpr rfl), by rw [he]; rfl⟩
  case receipts =>
    simp only [hattempts', List.mem_singleton, forall_eq]
    intro o ho hkey
    exact absurd hkey (unobserved_commit h rfl (hattemptFresh _ rfl)
      (by simp [reservedRow, consumedRow, OutboxRow.key, Ledger.outboxRow]) o ho)
  case authorizationsOrdered =>
    simp only [hauths', List.mem_singleton, forall_eq]
    exact authorizationOrdered_commit h rfl rfl hrowFresh ha rfl rfl
  case attemptsOrdered =>
    simp only [hattempts', List.mem_singleton, forall_eq]
    have hunobserved : ∀ type : EventType, type.owner = 1 → type ≠ .attemptReserved →
        ∀ o ∈ (consumedLedger rt L a l res s consumedAt).auditOutbox,
          o.key ≠ ⟨type, res.attemptId⟩ := by
      intro type htype hne
      refine unobserved_commit h rfl (hattemptFresh type htype) ?_
      simp only [List.mem_cons, List.not_mem_nil, or_false, forall_eq_or_imp, forall_eq]
      refine ⟨fun hkey => hne (congrArg EventKey.eventType hkey).symm, fun hkey => ?_⟩
      rw [← show _ = type from congrArg EventKey.eventType hkey] at htype
      simp [consumedRow, OutboxRow.key, Ledger.outboxRow, EventType.owner] at htype
    refine ⟨?_, ⟨eventBefore_of_second (hunobserved _ rfl (by simp)), fun e he => ?_⟩⟩
    · have hkeys : ((consumedLedger rt L a l res s consumedAt).auditOutbox.map
          OutboxRow.key).Nodup := nodup_keys_append h rfl hdistinct hrowFresh
      exact eventBefore_of_rows hkeys
        (List.mem_append_right _ List.mem_cons_self)
        (List.mem_append_right _ (List.mem_cons_of_mem _ (List.mem_singleton.mpr rfl)))
        (Nat.lt_succ_self _)
    · have hterminal : e.owner = 1 ∧ e ≠ .attemptReserved := by
        rcases List.mem_cons.mp he with rfl | he
        · exact ⟨rfl, (by simp)⟩
        · rw [List.mem_singleton.mp he]
          exact ⟨rfl, (by simp)⟩
      have hsecond := hunobserved e hterminal.1 hterminal.2
      exact ⟨eventBefore_of_second hsecond, eventBefore_of_second hsecond,
        fun _ _ => eventBefore_of_first hsecond⟩
  case requestOrdered =>
    simp only [hrows', List.mem_singleton, forall_eq]
    exact requestOrdered_commit (r := r) h rfl rfl hrowFresh hr

end Consume

/-! ## §2 Attempts that are still open -/

section Open

variable {rt : Runtime} {L L' : Ledger} {t : AttemptRow} {l : AttemptLink}

/-- The rows of a request whose attempt is reserved or has its receipt recorded. -/
structure OpenAttempt (rt : Runtime) (L : Ledger) (t : AttemptRow) (l : AttemptLink)
    (r : RequestRow) (a : AuthorizationRow) (al : AuthorizationLink) : Prop where
  request : r ∈ L.requests
  key : r.key = l.key
  state : r.state = .attemptReserved
  group : L.group l.key = ⟨[a], [t], []⟩
  ok : RequestOk rt r ⟨[a], [t], []⟩
  authorization : a ∈ L.authorizations
  link : a.link = some al
  consumed : a.state.consumedAt.isSome = true
  attemptOk : AttemptOk rt r a al t l

theorem Accepted.of_open (h : Accepted rt L) (ht : t ∈ L.attempts) (hl : t.link = some l)
    (hopen : t.state.effect = none) : ∃ r a al, OpenAttempt rt L t l r a al := by
  obtain ⟨a₀, ha₀, -, al₀, hal₀, hkey₀, -⟩ := h.schema.attemptFk t ht l hl
  obtain ⟨r, hr, hrk, -⟩ := h.schema.authorizationFk a₀ ha₀ al₀ hal₀
  have hrl : r.key = l.key := hrk.trans hkey₀
  have hok := h.relations.requests r hr
  have hmem : t ∈ (L.group r.key).attempts :=
    Ledger.mem_attemptsOf.mpr ⟨ht, by simp [AttemptRow.requestKey, hl, hrl]⟩
  have hcoherent := hok.coherent
  have hgroup : ∃ a, r.state = .attemptReserved ∧ L.group r.key = ⟨[a], [t], []⟩ ∧
      a.state.consumedAt.isSome = true := by
    cases hs : r.state with
    | claimed =>
      rw [hs, lifecycleCoherent_claimed] at hcoherent
      simp [hcoherent] at hmem
    | authorized =>
      rw [hs, lifecycleCoherent_authorized] at hcoherent
      obtain ⟨a, hg, -⟩ := hcoherent
      simp [hg] at hmem
    | attemptReserved =>
      rw [hs, lifecycleCoherent_attemptReserved] at hcoherent
      obtain ⟨a, u, hg, ha, -⟩ := hcoherent
      rw [hg] at hmem ⊢
      rw [List.mem_singleton.mp hmem]
      exact ⟨a, rfl, rfl, ha⟩
    | terminal =>
      rw [hs, lifecycleCoherent_terminal] at hcoherent
      rcases hcoherent with ⟨x, hg⟩ | ⟨b, x, hg, -⟩ | ⟨b, u, x, hg, -, hu⟩
      · simp [hg] at hmem
      · simp [hg] at hmem
      · rw [hg] at hmem
        rw [← List.mem_singleton.mp hmem, hopen] at hu
        simp at hu
  obtain ⟨a, hstate, hg, hconsumed⟩ := hgroup
  have hok' := hok
  rw [hg] at hok'
  obtain ⟨b, hb, al, hal, hattempt⟩ := hok'.attempt t (by simp) l hl
  rw [List.mem_singleton.mp hb] at hal hattempt
  have ha : a ∈ L.authorizations := by
    have : a ∈ (L.group r.key).authorizations := by simp [hg]
    exact (Ledger.mem_authorizationsOf.mp this).1
  exact ⟨r, a, al, hr, hrl, hstate, hrl ▸ hg, hok', ha, hal, hconsumed, hattempt⟩

/-- The events of an authorization depend on its attempt through the identifier only. -/
theorem authorizationEvents_congr {a : AuthorizationRow}
    (h : (L'.attemptByToken a.tokenId).map AttemptRow.attemptId =
      (L.attemptByToken a.tokenId).map AttemptRow.attemptId) :
    authorizationEvents rt L' a = authorizationEvents rt L a := by
  simp only [authorizationEvents, h]

/-- Recording or closing an attempt keeps the events of its authorization. -/
theorem authorizationEvents_updateAttempts (rt : Runtime) (h : L.SchemaOk) (h' : L'.SchemaOk)
    {a : AuthorizationRow} {s : AttemptState} (ht : t ∈ L.attempts)
    (ht' : { t with state := s } ∈ L'.attempts) (htoken : t.tokenId = a.tokenId) :
    authorizationEvents rt L' a = authorizationEvents rt L a := by
  apply authorizationEvents_congr
  rw [(Ledger.attemptByToken_eq_some h).mpr ⟨ht, htoken⟩,
    (Ledger.attemptByToken_eq_some h').mpr ⟨ht', htoken⟩]
  rfl

end Open

/-! ## §3 record_adapter_receipt -/

section Receipt

variable (rt : Runtime) (L : Ledger) (t : AttemptRow) (receipt outcome recordedAt : String)

/-- The outbox row that the recording of a receipt adds. -/
def receiptRow : OutboxRow :=
  L.outboxRow rt ⟨.adapterReceiptRecorded, t.attemptId⟩
    (adapterReceiptRecordedPayload receipt outcome) recordedAt

/-- The ledger that the recording of a receipt commits. -/
def receiptLedger : Ledger :=
  { L with
    attempts := (L.updateAttempts (fun u => u.attemptId = t.attemptId ∧ u.state = .reserved)
      (.receiptRecorded outcome receipt)).attempts
    auditOutbox := L.auditOutbox ++ [receiptRow rt L t receipt outcome recordedAt]
    sequence := L.sequence + 1 }

variable {rt L t receipt outcome recordedAt} {L' : Ledger} {l : AttemptLink}

/-- A receipt is recorded once; a repetition changes nothing. -/
theorem recordAdapterReceiptBody_eq_ok (h : Accepted rt L) {attemptId : String} {u : Unit}
    (hbody : recordAdapterReceiptBody rt attemptId receipt outcome recordedAt L = .ok (u, L')) :
    L' = L ∨ ∃ t ∈ L.attempts, t.attemptId = attemptId ∧ t.state = .reserved ∧
      rt.AtMost t.reservedAt recordedAt ∧
      ((⟨.adapterReceiptRecorded, t.attemptId⟩, eventDigest rt
          ⟨.adapterReceiptRecorded, t.attemptId⟩
          (adapterReceiptRecordedPayload receipt outcome)) ∉
        L.auditOutbox.map fun o => (o.key, o.payloadSha256)) ∧
      L' = receiptLedger rt L t receipt outcome recordedAt := by
  unfold recordAdapterReceiptBody at hbody
  cases hfound : L.attempt attemptId with
  | none => simp [hfound] at hbody
  | some t =>
    obtain ⟨ht, rfl⟩ := (Ledger.attempt_eq_some h.schema).mp hfound
    simp only [hfound, require_bind_eq_ok] at hbody
    obtain ⟨htime, hbody⟩ := hbody
    cases hs : t.state with
    | reserved =>
      simp only [hs, bind_eq_ok, Ledger.insertOutbox_eq_ok, pure, Except.pure, Except.ok.injEq,
        Prod.mk.injEq] at hbody
      obtain ⟨_, ⟨hevent, rfl⟩, -, rfl⟩ := hbody
      exact .inr ⟨t, ht, rfl, hs, htime, hevent, rfl⟩
    | receiptRecorded o r =>
      simp only [hs, require_bind_eq_ok, pure, Except.pure, Except.ok.injEq,
        Prod.mk.injEq] at hbody
      exact .inl hbody.2.2.symm
    | terminal e o r c => simp [hs] at hbody

/-- The recording of a receipt commits. -/
theorem receipt_commit (h : Accepted rt L) (ht : t ∈ L.attempts) (hl : t.link = some l)
    (hstate : t.state = .reserved)
    (hargs : ReceiptArgsOk rt t.attemptId receipt outcome recordedAt)
    (htime : rt.AtMost t.reservedAt recordedAt)
    (hevent : (⟨.adapterReceiptRecorded, t.attemptId⟩, eventDigest rt
        ⟨.adapterReceiptRecorded, t.attemptId⟩ (adapterReceiptRecordedPayload receipt outcome)) ∉
      L.auditOutbox.map fun o => (o.key, o.payloadSha256)) :
    RequestCommit rt L (receiptLedger rt L t receipt outcome recordedAt) l.key
      [receiptRow rt L t receipt outcome recordedAt] := by
  obtain ⟨r, a, al, hopen⟩ := h.of_open ht hl (by simp [hstate, AttemptState.effect])
  obtain ⟨hauths, hattempts, hresults⟩ := Ledger.group_eq hopen.group
  have hord := h.relations.projection.ordered h.schema
  have hrows : L.requestsOf l.key = [r] :=
    hopen.key ▸ Ledger.requestsOf_eq_singleton h.schema hopen.request
  have hrows' : (receiptLedger rt L t receipt outcome recordedAt).requestsOf l.key = [r] := hrows
  have hgroup' : (receiptLedger rt L t receipt outcome recordedAt).group l.key =
      ⟨[a], [{ t with state := .receiptRecorded outcome receipt }], []⟩ :=
    Ledger.group_mk hauths (Ledger.attemptsOf_update rfl hattempts (by simp [hstate])) hresults
  obtain ⟨hauths', hattempts', -⟩ := Ledger.group_eq hgroup'
  have hschema : (receiptLedger rt L t receipt outcome recordedAt).SchemaOk := by
    have h₁ := h.schema.updateAttempts
      (p := fun u => u.attemptId = t.attemptId ∧ u.state = .reserved)
      (s := .receiptRecorded outcome receipt) trivial
    exact h₁.insertOutbox rt h.relations.eventId_le
      (Ledger.insertOutbox_eq_ok.mpr ⟨hevent, rfl⟩)
  have ht' : { t with state := .receiptRecorded outcome receipt } ∈
      (receiptLedger rt L t receipt outcome recordedAt).attempts :=
    (Ledger.mem_attemptsOf.mp (hattempts' ▸ List.mem_singleton.mpr rfl)).1
  have hsame := authorizationEvents_updateAttempts rt h.schema hschema ht ht'
    hopen.attemptOk.binding.1
  -- an attempt in `RESERVED` has written nothing after its reservation
  have hunemitted : ∀ type : EventType, type.owner = 1 → type ≠ .attemptReserved →
      ¬ L.Emitted ⟨type, t.attemptId⟩ := by
    intro type htype hne hemitted
    cases type <;> simp only [EventType.owner] at htype <;>
      first | exact absurd htype (by decide) | skip
    · exact hne rfl
    all_goals
      obtain ⟨u, hu, hut, hstate'⟩ := hemitted
      rw [eq_of_nodup_key h.schema.attemptIds hu ht hut, hstate] at hstate'
      simp [AttemptState.adapterReceiptSha256, AttemptState.effect] at hstate'
  have hrowFresh : ∀ o ∈ [receiptRow rt L t receipt outcome recordedAt], ¬ L.Emitted o.key := by
    simp only [List.mem_singleton, forall_eq]
    exact hunemitted _ rfl (fun hs => by cases hs)
  have hold := groupEvents_eq rt hrows hopen.group
  have hnew := groupEvents_eq rt hrows' hgroup'
  simp only [List.flatMap_cons, List.flatMap_nil, List.append_nil, hsame, attemptEvents,
    hstate] at hold hnew
  obtain ⟨hid, hreceipt, houtcome, hat⟩ := hargs
  constructor
  case write =>
    refine ⟨.refl, .refl, .update ?_ fun _ => by rfl, .refl⟩
    intro u hu hup
    simp only [decide_eq_true_eq] at hup
    rw [eq_of_nodup_key h.schema.attemptIds hu ht hup.1]
    simp [AttemptRow.requestKey, hl]
  case schema => exact hschema
  case subjects => exact h.subjects
  case outbox => rfl
  case sequence => rfl
  case rowIds => rfl
  case rowsOk =>
    simp only [List.mem_singleton, forall_eq]
    exact outboxRowOk_outboxRow hid hat
  case distinct => simp
  case fresh => exact hrowFresh
  case request =>
    rw [hrows', hgroup']
    simp only [List.mem_singleton, forall_eq]
    constructor
    case identifiers => exact hopen.ok.identifiers
    case timestamps => exact hopen.ok.timestamps
    case coherent =>
      rw [hopen.state]
      exact lifecycleCoherent_attemptReserved.mpr ⟨_, _, rfl, hopen.consumed, rfl⟩
    case authorization => exact hopen.ok.authorization
    case attempt =>
      simp only [List.mem_singleton, forall_eq, hl, Option.mem_def, Option.some.injEq,
        forall_eq', exists_eq_left]
      refine ⟨al, hopen.link, ?_⟩
      exact { hopen.attemptOk with
        outcome := by simpa [AttemptState.outcomeSha256] using houtcome
        receipt := by simpa [AttemptState.adapterReceiptSha256] using hreceipt
        completed := by simp [AttemptState.completedAt] }
    all_goals simp
  case kept =>
    intro e he
    refine ⟨e, ?_, .refl e⟩
    rw [hold] at he
    rw [hnew]
    simp only [List.mem_append, List.mem_cons, List.not_mem_nil, or_false] at he ⊢
    rcases he with (he | he) | he
    · exact .inl (.inl he)
    · exact .inl (.inr (.inl he))
    · exact .inr he
  case matched =>
    simp only [hnew, List.mem_singleton, forall_eq]
    refine ⟨_, List.mem_append_left _ (List.mem_append_right _ (List.mem_cons_of_mem _
      (List.mem_singleton.mpr rfl))), rfl, ?_, by simp⟩
    intro _ hd
    cases hd
    rfl
  case covered =>
    intro e he hreq
    rw [hnew] at he
    rw [hold]
    simp only [List.mem_append, List.mem_cons, List.not_mem_nil, or_false] at he
    rcases he with (he | he | he) | he
    · exact .inl ⟨e, by simp [he], hreq, rfl⟩
    · exact .inl ⟨e, by simp [he, attemptReservedEvent], hreq, rfl⟩
    · exact .inr ⟨_, List.mem_singleton.mpr rfl, by rw [he]; rfl⟩
    · exact .inl ⟨e, by simp [he], hreq, rfl⟩
  case receipts =>
    simp only [hattempts', List.mem_singleton, forall_eq]
    intro o ho hkey
    rcases List.mem_append.mp ho with ho | ho
    · exact absurd hkey (h.relations.projection.unobserved
        (hunemitted .adapterReceiptRecorded rfl (by simp)) o ho)
    · rw [List.mem_singleton.mp ho]
      exact ⟨htime, by simp [AttemptState.completedAt]⟩
  case authorizationsOrdered =>
    simp only [hauths', List.mem_singleton, forall_eq]
    exact authorizationOrdered_commit h rfl rfl hrowFresh hopen.authorization rfl rfl
  case attemptsOrdered =>
    simp only [hattempts', List.mem_singleton, forall_eq]
    have hreserved : ∀ o ∈ [receiptRow rt L t receipt outcome recordedAt],
        o.key ≠ ⟨.attemptReserved, t.attemptId⟩ := by
      simp [receiptRow]
    refine ⟨eventBefore_commit h rfl rfl (.inl ⟨hreserved, hord.reservedConsumed t ht⟩),
      ⟨eventBefore_commit h rfl rfl (.inl ⟨hreserved, (hord.attempts t ht).receipt⟩),
        fun e he => ?_⟩⟩
    have hterminal : ∀ o ∈ (receiptLedger rt L t receipt outcome recordedAt).auditOutbox,
        o.key ≠ ⟨e, t.attemptId⟩ := by
      rcases List.mem_cons.mp he with rfl | he
      · exact unobserved_commit h rfl (hunemitted _ rfl (by simp)) (by simp [receiptRow])
      · rw [List.mem_singleton.mp he]
        exact unobserved_commit h rfl (hunemitted _ rfl (by simp)) (by simp [receiptRow])
    exact ⟨eventBefore_of_second hterminal, eventBefore_of_second hterminal,
      fun _ _ => eventBefore_of_first hterminal⟩
  case requestOrdered =>
    simp only [hrows', List.mem_singleton, forall_eq]
    exact requestOrdered_commit h rfl rfl hrowFresh hopen.request

end Receipt

end DecisionFirewall.StageA
