import DecisionFirewall.StageA.ClaimCommit

/-!
# Committing Authorizations

`register` and `revoke_issued_for_request` on an accepted ledger: each commits a
ledger that the validator accepts again.
-/

namespace DecisionFirewall.StageA

open Lib.Table

/-! ## §1 Order checks across a commit -/

section Order

variable {rt : Runtime} {L L' : Ledger} {rows : List OutboxRow} {first second : EventKey}

/-- An event without a row in the old ledger and not among the new rows is unwritten. -/
theorem unobserved_commit (hL : Accepted rt L) (hout : L'.auditOutbox = L.auditOutbox ++ rows)
    {key : EventKey} (hemitted : ¬ L.Emitted key) (hrows : ∀ o ∈ rows, o.key ≠ key) :
    ∀ o ∈ L'.auditOutbox, o.key ≠ key := by
  intro o ho
  rw [hout, List.mem_append] at ho
  rcases ho with ho | ho
  · exact hL.relations.projection.unobserved hemitted o ho
  · exact hrows o ho

/-- An order check survives a commit when its first event is old, and holds after it
when its second event was never written. -/
theorem eventBefore_commit (hL : Accepted rt L) (hout : L'.auditOutbox = L.auditOutbox ++ rows)
    (hids : rows.map OutboxRow.eventId = List.range' (L.sequence + 1) rows.length)
    (h : ((∀ o ∈ rows, o.key ≠ first) ∧ L.EventBefore first second) ∨
      (¬ L.Emitted second ∧ ∀ o ∈ rows, o.key ≠ second)) : L'.EventBefore first second := by
  rcases h with ⟨hfirst, hold⟩ | ⟨hemitted, hsecond⟩
  · exact eventBefore_append hout (hL.relations.lt_rows hids) hfirst hold
  · exact eventBefore_of_second (unobserved_commit hL hout hemitted hsecond)

/-- An authorization that was ordered stays ordered. -/
theorem authorizationOrdered_commit (hL : Accepted rt L)
    (hout : L'.auditOutbox = L.auditOutbox ++ rows)
    (hids : rows.map OutboxRow.eventId = List.range' (L.sequence + 1) rows.length)
    (hfresh : ∀ o ∈ rows, ¬ L.Emitted o.key) {a a' : AuthorizationRow}
    (ha : a ∈ L.authorizations) (htoken : a'.tokenId = a.tokenId)
    (hkey : a'.requestKey = a.requestKey) : AuthorizationOrdered L' a' := by
  have hord := hL.relations.projection.ordered hL.schema
  have hissued : ∀ o ∈ rows, o.key ≠ ⟨.authorizationIssued, a.tokenId⟩ :=
    fun o ho hne => hfresh o ho (hne ▸ ⟨a, ha, rfl⟩)
  constructor
  · intro k hk
    rw [hkey] at hk
    rw [htoken]
    refine eventBefore_commit hL hout hids (.inl ⟨fun o ho hne => hfresh o ho ?_, ?_⟩)
    · rw [hne]
      simp only [AuthorizationRow.requestKey, Option.mem_def, Option.map_eq_some_iff] at hk
      obtain ⟨l, hl, rfl⟩ := hk
      obtain ⟨r, hr, hrk, -⟩ := hL.schema.authorizationFk a ha l hl
      exact ⟨r, hr, by rw [hrk]⟩
    · exact hord.claimedIssued a ha k hk
  · rw [htoken]
    exact eventBefore_commit hL hout hids (.inl ⟨hissued, hord.issuedConsumed a ha⟩)
  · rw [htoken]
    exact eventBefore_commit hL hout hids (.inl ⟨hissued, hord.issuedRevoked a ha⟩)

/-- A request that was ordered stays ordered. -/
theorem requestOrdered_commit (hL : Accepted rt L) (hout : L'.auditOutbox = L.auditOutbox ++ rows)
    (hids : rows.map OutboxRow.eventId = List.range' (L.sequence + 1) rows.length)
    (hfresh : ∀ o ∈ rows, ¬ L.Emitted o.key) {r : RequestRow} (hr : r ∈ L.requests) :
    L'.EventBefore ⟨.requestClaimed, r.key.subject⟩ ⟨.requestTerminal, r.key.subject⟩ := by
  refine eventBefore_commit hL hout hids (.inl ⟨fun o ho hne => hfresh o ho ?_, ?_⟩)
  · rw [hne]
    exact ⟨r, hr, rfl⟩
  · exact hL.relations.projection.requestOrder r hr

end Order

/-! ## §2 register -/

section Register

variable (rt : Runtime) (L : Ledger) (a : AuthorizationRow) (l : AuthorizationLink)

/-- `state='AUTHORIZED', updated_at=issued_at`. -/
def authorizeRequest (r : RequestRow) : RequestRow :=
  { r with state := .authorized, updatedAt := a.issuedAt }

/-- The payload of the event of a registration. -/
def registeredPayload : Json :=
  authorizationIssuedPayload rt a.verificationId a.decisionId
    (a.link.map AuthorizationLink.requestSha256)

/-- The outbox row that a registration adds. -/
def registeredRow : OutboxRow :=
  L.outboxRow rt ⟨.authorizationIssued, a.tokenId⟩ (registeredPayload rt a) a.issuedAt

/-- The ledger that a linked registration commits. -/
def registeredLedger : Ledger :=
  { L with
    requests := updateWhere (fun r => r.key = l.key) (authorizeRequest a) L.requests
    authorizations := L.authorizations ++ [a]
    auditOutbox := L.auditOutbox ++ [registeredRow rt L a]
    sequence := L.sequence + 1 }

variable {rt L a l} {L' : Ledger}

theorem registerBody_eq_ok (hl : a.link = some l) {u : Unit}
    (h : registerBody rt a L = .ok (u, L')) :
    RegistrableRequest rt L a l ∧ (∃ L₁, L.insertAuthorization a = .ok L₁) ∧
      ((⟨.authorizationIssued, a.tokenId⟩, eventDigest rt ⟨.authorizationIssued, a.tokenId⟩
          (registeredPayload rt a)) ∉ L.auditOutbox.map fun o => (o.key, o.payloadSha256)) ∧
      L' = registeredLedger rt L a l := by
  simp only [registerBody, bind_eq_ok, require_eq_ok, exists_const, Ledger.insertOutbox_eq_ok, hl,
    pure, Except.pure, Except.ok.injEq, Prod.mk.injEq] at h
  obtain ⟨hreg, L₁, hins, _, ⟨hevent, rfl⟩, -, rfl⟩ := h
  refine ⟨hreg l rfl, ⟨L₁, hins⟩, ?_, ?_⟩ <;>
    obtain ⟨-, rfl⟩ := Ledger.insertAuthorization_eq_ok.mp hins
  · simpa [Ledger.updateRequests, registeredPayload, hl] using hevent
  · simp only [registeredLedger, registeredRow, registeredPayload, hl]
    rfl

/-- A registration for a claimed request commits. -/
theorem register_commit (h : Accepted rt L) (hl : a.link = some l) (hstate : a.state = .issued)
    (hids : IsIdentifier a.tokenId ∧ IsIdentifier a.verificationId ∧ IsIdentifier a.decisionId)
    (hlids : IsIdentifier l.issuerInstanceId ∧ IsIdentifier l.keyDomainId)
    (hdigests : IsSha256 l.requestSha256 ∧ IsSha256 l.unsignedTokenSha256 ∧
      IsSha256 l.decisionAuthorizationSha256)
    (hat : rt.IsOffsetTimestamp a.issuedAt) {u : Unit}
    (hbody : registerBody rt a L = .ok (u, L')) :
    RequestCommit rt L L' l.key [registeredRow rt L a] := by
  obtain ⟨hreg, ⟨L₁, hins⟩, hevent, rfl⟩ := registerBody_eq_ok hl hbody
  obtain ⟨r, hr, hsha, hclaimed, hissued⟩ := hreg
  obtain ⟨hr, hrk⟩ := (Ledger.request_eq_some h.schema).mp hr
  have hins' := hins
  obtain ⟨⟨htoken, -, -, -, -⟩, rfl⟩ := Ledger.insertAuthorization_eq_ok.mp hins'
  have hkey : a.requestKey = some l.key := by simp [AuthorizationRow.requestKey, hl]
  have hok := h.relations.requests r hr
  have hgroup : L.group l.key = ⟨[], [], []⟩ := by
    have := hok.coherent
    rwa [hclaimed, lifecycleCoherent_claimed, hrk] at this
  obtain ⟨hauths, hattempts, hresults⟩ := Ledger.group_eq hgroup
  have hrows : L.requestsOf l.key = [r] := hrk ▸ Ledger.requestsOf_eq_singleton h.schema hr
  have hrows' : (registeredLedger rt L a l).requestsOf l.key = [authorizeRequest a r] :=
    Ledger.requestsOf_update (f := authorizeRequest a) rfl (fun _ => rfl) hrows
      (by simpa using hrk)
  have hgroup' : (registeredLedger rt L a l).group l.key = ⟨[a], [], []⟩ := by
    refine Ledger.group_mk ?_ hattempts hresults
    rw [Ledger.authorizationsOf_insert rfl hkey, hauths]
    rfl
  obtain ⟨hauths', hattempts', -⟩ := Ledger.group_eq hgroup'
  have hfresh : ¬ L.Emitted ⟨.authorizationIssued, a.tokenId⟩ := by
    rintro ⟨b, hb, hba⟩
    exact htoken (List.mem_map.mpr ⟨b, hb, hba⟩)
  have hrowFresh : ∀ o ∈ [registeredRow rt L a], ¬ L.Emitted o.key := by
    simp only [List.mem_singleton, forall_eq]
    exact hfresh
  have hold := groupEvents_eq rt hrows hgroup
  have hnew := groupEvents_eq rt hrows' hgroup'
  simp only [List.flatMap_cons, List.flatMap_nil, List.append_nil, requestEvents,
    authorizationEvents, hstate] at hold hnew
  obtain ⟨hrids, htimes, -⟩ := hok
  have hclaim : rt.AtMost r.claimedAt a.issuedAt := htimes.2.2.trans rt hissued
  constructor
  case write =>
    refine ⟨.update ?_ fun _ => rfl, .append hkey, .refl, .refl⟩
    intro b _ hb
    simpa using hb
  case schema =>
    have h₁ := (h.schema.insertAuthorization hins).updateRequests
      (p := fun r => r.key = l.key) (f := authorizeRequest a) (fun _ => rfl) (fun _ => rfl)
    exact h₁.insertOutbox rt h.relations.eventId_le
      (Ledger.insertOutbox_eq_ok.mpr ⟨hevent, rfl⟩)
  case subjects =>
    simp only [registeredLedger]
    rw [map_updateWhere_of_eq fun _ _ => by rfl]
    exact h.subjects
  case outbox => rfl
  case sequence => rfl
  case rowIds => rfl
  case rowsOk =>
    simp only [List.mem_singleton, forall_eq]
    exact outboxRowOk_outboxRow hids.1 hat
  case distinct => simp
  case fresh => exact hrowFresh
  case request =>
    rw [hrows', hgroup']
    simp only [List.mem_singleton, forall_eq]
    constructor
    case identifiers => exact hrids
    case timestamps => exact ⟨htimes.1, hat, hclaim⟩
    case coherent => exact lifecycleCoherent_authorized.mpr ⟨a, rfl, by simp [hstate,
      AuthorizationState.consumedAt]⟩
    case authorization =>
      simp only [List.mem_singleton, forall_eq, hl, Option.mem_def, Option.some.injEq,
        forall_eq']
      refine ⟨⟨hids.1, hids.2.1, hids.2.2, hlids⟩, hdigests, ⟨hrk.symm, hsha.symm⟩,
        ⟨hat, hclaim, fun _ => rfl⟩, ?_, ?_⟩
      · simp [hstate, AuthorizationState.endedAt]
      · simp [hstate, AuthorizationState.revocationReason]
    all_goals simp
  case kept =>
    simp only [hold, hnew, List.mem_singleton, forall_eq]
    exact ⟨_, List.mem_append_left _ (List.mem_singleton.mpr rfl), .refl _⟩
  case matched =>
    simp only [hnew, List.mem_singleton, forall_eq]
    exact ⟨_, List.mem_append_right _ (List.mem_singleton.mpr rfl), outboxRow_matches⟩
  case covered =>
    simp only [hold, hnew, List.mem_append, List.mem_singleton]
    rintro e (rfl | rfl) -
    · exact .inl ⟨_, rfl, rfl, rfl⟩
    · exact .inr ⟨_, rfl, rfl⟩
  case receipts => simp [hattempts']
  case authorizationsOrdered =>
    simp only [hauths', List.mem_singleton, forall_eq]
    have hcommit : ∀ {first second : EventKey},
        ((∀ o ∈ [registeredRow rt L a], o.key ≠ first) ∧ L.EventBefore first second) ∨
          (¬ L.Emitted second ∧ ∀ o ∈ [registeredRow rt L a], o.key ≠ second) →
        (registeredLedger rt L a l).EventBefore first second :=
      eventBefore_commit h rfl rfl
    refine ⟨fun k _ => hcommit (.inl ⟨by simp [registeredRow], ?_⟩),
      hcommit (.inr ⟨?_, by simp [registeredRow]⟩), hcommit (.inr ⟨?_, by simp [registeredRow]⟩)⟩
    · exact eventBefore_of_second (h.relations.projection.unobserved hfresh)
    · rintro ⟨b, hb, hba, -⟩
      exact hfresh ⟨b, hb, hba⟩
    · rintro ⟨b, hb, hba, -⟩
      exact hfresh ⟨b, hb, hba⟩
  case attemptsOrdered => simp [hattempts']
  case requestOrdered =>
    simp only [hrows', List.mem_singleton, forall_eq]
    exact requestOrdered_commit (r := r) h rfl rfl hrowFresh hr

end Register

/-! ## §3 revoke_issued_for_request -/

section Revoke

variable (rt : Runtime) (L : Ledger) (a : AuthorizationRow) (revokedAt : String)

/-- The state of an authorization that recovery revoked. -/
def revokedState : AuthorizationState := .revoked revokedAt "QUIESCED_RECOVERY"

/-- The outbox row that a revocation adds. -/
def revokedRow : OutboxRow :=
  L.outboxRow rt ⟨.authorizationRevoked, a.tokenId⟩ authorizationRevokedPayload revokedAt

/-- The ledger that the revocation of one authorization commits. -/
def revokedLedger : Ledger :=
  { L with
    authorizations := (L.updateAuthorizations
      (fun b => b.tokenId = a.tokenId ∧ b.state = .issued) (revokedState revokedAt)).authorizations
    auditOutbox := L.auditOutbox ++ [revokedRow rt L a revokedAt]
    sequence := L.sequence + 1 }

variable {rt L a revokedAt} {L' : Ledger}

theorem revokeAuthorization_eq_ok :
    revokeAuthorization rt revokedAt L a = .ok L' ↔
      rt.AtMost a.issuedAt revokedAt ∧
      ((⟨.authorizationRevoked, a.tokenId⟩, eventDigest rt ⟨.authorizationRevoked, a.tokenId⟩
          authorizationRevokedPayload) ∉ L.auditOutbox.map fun o => (o.key, o.payloadSha256)) ∧
      L' = revokedLedger rt L a revokedAt := by
  simp only [revokeAuthorization, require_bind_eq_ok, Ledger.insertOutbox_eq_ok]
  rfl

/-- At most one authorization of a request can be revoked. -/
theorem issuedFor_cases (h : Accepted rt L) (k : RequestKey) (requestSha256 : String) :
    L.issuedFor k requestSha256 = [] ∨
      ∃ a l, L.issuedFor k requestSha256 = [a] ∧ a ∈ L.authorizations ∧ a.link = some l ∧
        l.key = k ∧ l.requestSha256 = requestSha256 ∧ a.state = .issued := by
  have hmem : ∀ a ∈ L.issuedFor k requestSha256, a ∈ L.authorizations ∧
      ∃ l, a.link = some l ∧ l.key = k ∧ l.requestSha256 = requestSha256 ∧ a.state = .issued := by
    intro a ha
    simp only [Ledger.issuedFor, List.mem_filter, decide_eq_true_eq] at ha
    obtain ⟨ha, ⟨l, hl, hkey, hsha⟩, hstate⟩ := ha
    exact ⟨ha, l, hl, hkey, hsha, hstate⟩
  cases hrows : L.issuedFor k requestSha256 with
  | nil => exact .inl rfl
  | cons a rest =>
    obtain ⟨ha, l, hl, hkey, hsha, hstate⟩ := hmem a (by simp [hrows])
    refine .inr ⟨a, l, ?_, ha, hl, hkey, hsha, hstate⟩
    -- `UNIQUE (principal_id, request_id)`
    have hnodup : (L.issuedFor k requestSha256).Nodup :=
      (List.Nodup.of_map _ h.schema.tokenIds).filter _
    rw [hrows] at hnodup
    cases rest with
    | nil => rfl
    | cons b rest =>
      obtain ⟨hb, lb, hlb, hkeyb, -⟩ := hmem b (by simp [hrows])
      have hab : a = b := eq_of_nodup_nullable_key h.schema.authorizationRequests ha hb
        (k := k) (by simp [AuthorizationRow.requestKey, hl, hkey])
        (by simp [AuthorizationRow.requestKey, hlb, hkeyb])
      simp [hab] at hnodup

theorem revokeIssuedBody_eq_ok (h : Accepted rt L) {k : RequestKey} {requestSha256 : String}
    {n : Nat} (hbody : revokeIssuedBody rt k requestSha256 revokedAt L = .ok (n, L')) :
    L' = L ∨ ∃ a l, a ∈ L.authorizations ∧ a.link = some l ∧ l.key = k ∧ a.state = .issued ∧
      revokeAuthorization rt revokedAt L a = .ok L' := by
  simp only [revokeIssuedBody, bind_eq_ok, pure, Except.pure, Except.ok.injEq,
    Prod.mk.injEq] at hbody
  obtain ⟨L₁, hfold, -, rfl⟩ := hbody
  rcases issuedFor_cases h k requestSha256 with hnil | ⟨a, l, hone, ha, hl, hkey, -, hstate⟩
  · rw [hnil] at hfold
    simp only [List.foldlM_nil, pure, Except.pure, Except.ok.injEq] at hfold
    exact .inl hfold.symm
  · rw [hone] at hfold
    simp only [List.foldlM_cons, List.foldlM_nil, bind_eq_ok, pure, Except.pure,
      Except.ok.injEq, exists_eq_right] at hfold
    exact .inr ⟨a, l, ha, hl, hkey, hstate, hfold⟩

/-- The request of a live authorization is `AUTHORIZED` and has no other rows. -/
theorem Accepted.of_issued (h : Accepted rt L) {l : AuthorizationLink} (ha : a ∈ L.authorizations)
    (hl : a.link = some l) (hstate : a.state = .issued) :
    ∃ r ∈ L.requests, r.key = l.key ∧ r.state = .authorized ∧ L.group l.key = ⟨[a], [], []⟩ ∧
      RequestOk rt r ⟨[a], [], []⟩ := by
  obtain ⟨r, hr, hrk, -⟩ := h.schema.authorizationFk a ha l hl
  have hok := h.relations.requests r hr
  have hmem : a ∈ (L.group r.key).authorizations :=
    Ledger.mem_authorizationsOf.mpr ⟨ha, by simp [AuthorizationRow.requestKey, hl, hrk]⟩
  have hcoherent := hok.coherent
  have hgroup : r.state = .authorized ∧ L.group r.key = ⟨[a], [], []⟩ := by
    cases hs : r.state with
    | claimed =>
      rw [hs, lifecycleCoherent_claimed] at hcoherent
      simp [hcoherent] at hmem
    | authorized =>
      rw [hs, lifecycleCoherent_authorized] at hcoherent
      obtain ⟨b, hg, -⟩ := hcoherent
      rw [hg] at hmem ⊢
      rw [List.mem_singleton.mp hmem]
      exact ⟨rfl, rfl⟩
    | attemptReserved =>
      rw [hs, lifecycleCoherent_attemptReserved] at hcoherent
      obtain ⟨b, t, hg, hb, -⟩ := hcoherent
      rw [hg] at hmem
      rw [← List.mem_singleton.mp hmem, hstate] at hb
      simp [AuthorizationState.consumedAt] at hb
    | terminal =>
      rw [hs, lifecycleCoherent_terminal] at hcoherent
      rcases hcoherent with ⟨x, hg⟩ | ⟨b, x, hg, hb⟩ | ⟨b, t, x, hg, hb, -⟩
      · simp [hg] at hmem
      · rw [hg] at hmem
        rw [← List.mem_singleton.mp hmem, hstate] at hb
        simp [AuthorizationState.revokedAt] at hb
      · rw [hg] at hmem
        rw [← List.mem_singleton.mp hmem, hstate] at hb
        simp [AuthorizationState.consumedAt] at hb
  exact ⟨r, hr, hrk, hgroup.1, hrk ▸ hgroup.2, hgroup.2 ▸ hok⟩

/-- A revocation commits. -/
theorem revoke_commit (h : Accepted rt L) {l : AuthorizationLink} (ha : a ∈ L.authorizations)
    (hl : a.link = some l) (hstate : a.state = .issued) (hat : rt.IsOffsetTimestamp revokedAt)
    (hbody : revokeAuthorization rt revokedAt L a = .ok L') :
    RequestCommit rt L L' l.key [revokedRow rt L a revokedAt] := by
  obtain ⟨hissued, hevent, rfl⟩ := revokeAuthorization_eq_ok.mp hbody
  obtain ⟨r, hr, hrk, hauthorized, hgroup, hok⟩ := h.of_issued ha hl hstate
  obtain ⟨hauths, hattempts, hresults⟩ := Ledger.group_eq hgroup
  have hrows : L.requestsOf l.key = [r] := hrk ▸ Ledger.requestsOf_eq_singleton h.schema hr
  have hrows' : (revokedLedger rt L a revokedAt).requestsOf l.key = [r] := hrows
  have hgroup' : (revokedLedger rt L a revokedAt).group l.key =
      ⟨[{ a with state := revokedState revokedAt }], [], []⟩ :=
    Ledger.group_mk (Ledger.authorizationsOf_update rfl hauths (by simp [hstate])) hattempts hresults
  obtain ⟨hauths', hattempts', -⟩ := Ledger.group_eq hgroup'
  have hfresh : ∀ type, type = .authorizationRevoked → ¬ L.Emitted ⟨type, a.tokenId⟩ := by
    rintro _ rfl ⟨b, hb, hba, hrevoked⟩
    rw [eq_of_nodup_key h.schema.tokenIds hb ha hba, hstate] at hrevoked
    simp [AuthorizationState.revokedAt] at hrevoked
  have hrowFresh : ∀ o ∈ [revokedRow rt L a revokedAt], ¬ L.Emitted o.key := by
    simp only [List.mem_singleton, forall_eq]
    exact hfresh _ rfl
  have hold := groupEvents_eq rt hrows hgroup
  have hnew := groupEvents_eq rt hrows' hgroup'
  simp only [List.flatMap_cons, List.flatMap_nil, List.append_nil, authorizationEvents,
    hstate, revokedState] at hold hnew
  have haok := hok.authorization a (by simp) l hl
  constructor
  case write =>
    refine ⟨.refl, .update ?_ fun _ => by rfl, .refl, .refl⟩
    intro b hb hbp
    simp only [decide_eq_true_eq] at hbp
    rw [eq_of_nodup_key h.schema.tokenIds hb ha hbp.1]
    simp [AuthorizationRow.requestKey, hl]
  case schema =>
    have h₁ := h.schema.updateAuthorizations
      (p := fun b => b.tokenId = a.tokenId ∧ b.state = .issued) (s := revokedState revokedAt)
    exact h₁.insertOutbox rt h.relations.eventId_le
      (Ledger.insertOutbox_eq_ok.mpr ⟨hevent, rfl⟩)
  case subjects => exact h.subjects
  case outbox => rfl
  case sequence => rfl
  case rowIds => rfl
  case rowsOk =>
    simp only [List.mem_singleton, forall_eq]
    exact outboxRowOk_outboxRow haok.identifiers.1 hat
  case distinct => simp
  case fresh => exact hrowFresh
  case request =>
    rw [hrows', hgroup']
    simp only [List.mem_singleton, forall_eq]
    constructor
    case identifiers => exact hok.identifiers
    case timestamps => exact hok.timestamps
    case coherent =>
      rw [hauthorized]
      exact lifecycleCoherent_authorized.mpr ⟨_, rfl, rfl⟩
    case authorization =>
      simp only [List.mem_singleton, forall_eq, hl, Option.mem_def, Option.some.injEq, forall_eq']
      refine ⟨haok.identifiers, haok.digests, haok.binding, haok.issued, ?_, ?_⟩
      · simpa [revokedState, AuthorizationState.endedAt] using ⟨hat, hissued⟩
      · simp only [revokedState, AuthorizationState.revocationReason, Option.mem_def,
          Option.some.injEq, forall_eq']
        decide
    all_goals simp
  case kept =>
    intro e he
    refine ⟨e, ?_, .refl e⟩
    rw [hold] at he
    rw [hnew]
    simp only [List.mem_append, List.mem_cons, List.not_mem_nil, or_false] at he ⊢
    rcases he with he | he
    · exact .inl he
    · exact .inr (.inl he)
  case matched =>
    simp only [hnew, List.mem_singleton, forall_eq]
    exact ⟨_, List.mem_append_right _ (List.mem_cons_of_mem _ (List.mem_singleton.mpr rfl)),
      outboxRow_matches⟩
  case covered =>
    intro e he hreq
    rw [hnew] at he
    rw [hold]
    simp only [List.mem_append, List.mem_cons, List.not_mem_nil, or_false] at he
    rcases he with he | he | he
    · exact .inl ⟨e, List.mem_append_left _ he, hreq, rfl⟩
    · exact .inl ⟨e, List.mem_append_right _ (by simp [he]), hreq, rfl⟩
    · exact .inr ⟨_, List.mem_singleton.mpr rfl, by rw [he]; rfl⟩
  case receipts => simp [hattempts']
  case authorizationsOrdered =>
    simp only [hauths', List.mem_singleton, forall_eq]
    exact authorizationOrdered_commit h rfl rfl hrowFresh ha rfl rfl
  case attemptsOrdered => simp [hattempts']
  case requestOrdered =>
    simp only [hrows', List.mem_singleton, forall_eq]
    exact requestOrdered_commit h rfl rfl hrowFresh hr

end Revoke

end DecisionFirewall.StageA
