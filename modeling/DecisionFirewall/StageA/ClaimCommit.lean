import DecisionFirewall.StageA.Schema

/-!
# Committing a Claim

`claim_request` on an accepted ledger: when it commits a new row, and exactly when
the ledger it commits is accepted again. The subject of the claim's event is the
concatenation of the two identifiers, so it may be too long for the outbox, or
repeat the subject of another request.
-/

namespace DecisionFirewall.StageA

open Lib.Table

section Ids

variable {rt : Runtime} {L : Ledger}

theorem Accepted.subjects (h : Accepted rt L) :
    (L.requests.map fun r => r.key.subject).Nodup :=
  (expectedKeys_nodup_iff h.schema).mp h.relations.projection.expectedKeys

/-- The claim event of a request bounds its subject. -/
theorem Accepted.length_subject_le (h : Accepted rt L) {r : RequestRow} (hr : r ∈ L.requests) :
    r.key.subject.length ≤ 512 := by
  have he : exactEvent rt ⟨.requestClaimed, r.key.subject⟩ (requestClaimedPayload r.requestSha256)
      r.claimedAt ∈ expectedEvents rt L :=
    mem_expectedEvents.mpr (.inl ⟨r, hr, List.mem_singleton.mpr rfl⟩)
  obtain ⟨o, ho, hkey⟩ := h.relations.projection.covered _ he rfl
  have hsubject := (h.relations.outboxRows o ho).subjectId.2
  rwa [show o.subjectId = r.key.subject from congrArg EventKey.subjectId hkey] at hsubject

/-- The outbox rows a writer adds pass the checks on a single row. -/
theorem outboxRowOk_outboxRow {key : EventKey} {payload : Json} {createdAt : String}
    (hsubject : IsIdentifier key.subjectId) (hat : rt.IsOffsetTimestamp createdAt) :
    OutboxRowOk rt (L.outboxRow rt key payload createdAt) :=
  ⟨hsubject, rt.sha256Json_isSha256 _, hat, by simp [Ledger.outboxRow]⟩

/-- A new row repeats the entry whose payload it digests. -/
theorem outboxRow_matches {key : EventKey} {payload : Json} {createdAt : String} :
    (L.outboxRow rt key payload createdAt).Matches (exactEvent rt key payload createdAt) := by
  refine ⟨rfl, ?_, ?_⟩ <;> intro _ h <;> cases h <;> rfl

end Ids

section Claim

variable (rt : Runtime) (L : Ledger) (k : RequestKey) (requestSha256 claimedAt : String)

/-- The row of a new claim. -/
def claimedRow : RequestRow :=
  ⟨k.principalId, k.requestId, requestSha256, .claimed, claimedAt, claimedAt⟩

/-- The event of a new claim. -/
def claimEvent : EventKey := ⟨.requestClaimed, k.subject⟩

/-- The outbox already holds the event of the claim. -/
def ClaimEventUsed : Prop :=
  (claimEvent k, eventDigest rt (claimEvent k) (requestClaimedPayload requestSha256)) ∈
    L.auditOutbox.map fun o => (o.key, o.payloadSha256)

instance : Decidable (ClaimEventUsed rt L k requestSha256) :=
  inferInstanceAs (Decidable (_ ∈ _))

/-- The ledger that a new claim commits. -/
def claimedLedger : Ledger :=
  { L with
    requests := L.requests ++ [claimedRow k requestSha256 claimedAt]
    auditOutbox := L.auditOutbox ++
      [L.outboxRow rt (claimEvent k) (requestClaimedPayload requestSha256) claimedAt]
    sequence := L.sequence + 1 }

/-- Another request of the ledger has the subject of `k`. -/
def SubjectTaken : Prop := ∃ r ∈ L.requests, r.key.subject = k.subject

instance : Decidable (SubjectTaken L k) := by
  unfold SubjectTaken
  infer_instance

variable {rt L k requestSha256 claimedAt} {L' : Ledger} {out : ClaimOutcome}

theorem claimRequestBody_of_claimed {row : RequestRow} (h : L.request k = some row) :
    claimRequestBody rt k requestSha256 claimedAt L =
      .ok (if row.requestSha256 = requestSha256 then .duplicate else .conflict, L) := by
  simp only [claimRequestBody, h, pure, Except.pure]

theorem claimRequestBody_of_unclaimed (h : L.request k = none) :
    claimRequestBody rt k requestSha256 claimedAt L = .ok (out, L') ↔
      ¬ ClaimEventUsed rt L k requestSha256 ∧ out = .new ∧
        L' = claimedLedger rt L k requestSha256 claimedAt := by
  have hkey : ¬ k ∈ L.requests.map RequestRow.key := by
    rw [List.mem_map]
    rintro ⟨r, hr, rfl⟩
    exact Ledger.request_eq_none.mp h r hr rfl
  simp only [claimRequestBody, h, bind_eq_ok, Ledger.insertRequest_eq_ok,
    Ledger.insertOutbox_eq_ok, pure, Except.pure, Except.ok.injEq, Prod.mk.injEq]
  constructor
  · rintro ⟨_, ⟨-, rfl⟩, _, ⟨hevent, rfl⟩, rfl, rfl⟩
    exact ⟨hevent, rfl, rfl⟩
  · rintro ⟨hevent, rfl, rfl⟩
    exact ⟨_, ⟨hkey, rfl⟩, _, ⟨hevent, rfl⟩, rfl, rfl⟩

theorem Ledger.SchemaOk.claimed (h : Accepted rt L) (hk : L.request k = none)
    (hevent : ¬ ClaimEventUsed rt L k requestSha256) :
    (claimedLedger rt L k requestSha256 claimedAt).SchemaOk := by
  have hkey : k ∉ L.requests.map RequestRow.key := by
    rw [List.mem_map]
    rintro ⟨r, hr, rfl⟩
    exact Ledger.request_eq_none.mp hk r hr rfl
  have h₁ := h.schema.insertRequest
    (Ledger.insertRequest_eq_ok.mpr ⟨hkey, rfl⟩ :
      L.insertRequest (claimedRow k requestSha256 claimedAt) = _)
  exact h₁.insertOutbox rt h.relations.eventId_le
    (Ledger.insertOutbox_eq_ok.mpr ⟨hevent, rfl⟩)

/-- A claim with a subject of its own commits. -/
theorem claim_commit (h : Accepted rt L) (hargs : ClaimArgsOk rt k requestSha256 claimedAt)
    (hk : L.request k = none) (hlength : k.subject.length ≤ 512) (htaken : ¬ SubjectTaken L k) :
    RequestCommit rt L (claimedLedger rt L k requestSha256 claimedAt) k
      [L.outboxRow rt (claimEvent k) (requestClaimedPayload requestSha256) claimedAt] := by
  have hunemitted : ∀ type, type = .requestClaimed ∨ type = .requestTerminal →
      ¬ L.Emitted ⟨type, k.subject⟩ := by
    rintro type (rfl | rfl) hemitted
    · exact htaken hemitted
    · obtain ⟨x, hx, hsubject⟩ := hemitted
      obtain ⟨r, hr, hrx⟩ := h.schema.resultFk x hx
      exact htaken ⟨r, hr, by rw [hrx]; exact hsubject⟩
  have hevent : ¬ ClaimEventUsed rt L k requestSha256 := by
    intro hused
    obtain ⟨o, ho, hoe⟩ := List.mem_map.mp hused
    exact h.relations.projection.unobserved (hunemitted _ (.inl rfl)) o ho
      (congrArg Prod.fst hoe)
  have hgroup : L.group k = ⟨[], [], []⟩ := h.schema.group_of_unclaimed hk
  have hrows : (claimedLedger rt L k requestSha256 claimedAt).requestsOf k =
      [claimedRow k requestSha256 claimedAt] := by
    have hinsert := Ledger.requestsOf_insert (k := k) (L := L)
      (rfl : (claimedLedger rt L k requestSha256 claimedAt).requests = _) rfl
    rwa [Ledger.requestsOf_eq_nil hk] at hinsert
  have hgroup' : (claimedLedger rt L k requestSha256 claimedAt).group k = ⟨[], [], []⟩ := hgroup
  have hauths := (Ledger.group_eq hgroup').1
  have hattempts := (Ledger.group_eq hgroup').2.1
  have hold := groupEvents_eq rt (Ledger.requestsOf_eq_nil hk) hgroup
  have hnew := groupEvents_eq rt hrows hgroup'
  simp only [List.flatMap_nil, List.append_nil] at hold
  simp only [List.flatMap_cons, List.flatMap_nil, List.append_nil, requestEvents] at hnew
  obtain ⟨hprincipal, hrequest, hsha, hat⟩ := hargs
  constructor
  case write => exact ⟨.append rfl, .refl, .refl, .refl⟩
  case schema => exact .claimed h hk hevent
  case subjects =>
    simp only [claimedLedger, List.map_append]
    refine nodup_concat.mpr ⟨h.subjects, ?_⟩
    rw [List.mem_map]
    exact htaken
  case outbox => rfl
  case sequence => rfl
  case rowIds => rfl
  case rowsOk =>
    simp only [List.mem_singleton, forall_eq]
    refine outboxRowOk_outboxRow ⟨?_, hlength⟩ hat
    intro hempty
    have := congrArg String.length hempty
    simp [claimEvent, RequestKey.length_subject] at this
  case distinct => simp
  case fresh =>
    simp only [List.mem_singleton, forall_eq]
    exact hunemitted _ (.inl rfl)
  case request =>
    rw [hrows, hgroup']
    simp only [List.mem_singleton, forall_eq]
    constructor
    case identifiers => exact ⟨hprincipal, hrequest, hsha⟩
    case timestamps => exact ⟨hat, hat, hat.atMost_self⟩
    case coherent => exact lifecycleCoherent_claimed.mpr rfl
    all_goals simp
  case kept => simp [hold]
  case matched =>
    simp only [hnew, List.mem_singleton, forall_eq, exists_eq_left]
    exact outboxRow_matches
  case covered =>
    simp only [hnew, List.mem_singleton, forall_eq]
    exact fun _ => .inr ⟨_, rfl, rfl⟩
  case receipts => simp [hattempts]
  case authorizationsOrdered => simp [hauths]
  case attemptsOrdered => simp [hattempts]
  case requestOrdered =>
    rw [hrows]
    simp only [List.mem_singleton, forall_eq]
    apply eventBefore_of_second
    intro o ho
    rcases List.mem_append.mp ho with ho | ho
    · exact h.relations.projection.unobserved (hunemitted _ (.inr rfl)) o ho
    · rw [List.mem_singleton.mp ho]
      simp [claimEvent]

/-- The claimed ledger is accepted exactly when the subject is short enough for its
event and not taken. -/
theorem claimedLedger_accepted_iff (h : Accepted rt L)
    (hargs : ClaimArgsOk rt k requestSha256 claimedAt) (hk : L.request k = none)
    (hevent : ¬ ClaimEventUsed rt L k requestSha256) :
    ControlRelationsOk rt (claimedLedger rt L k requestSha256 claimedAt) ↔
      k.subject.length ≤ 512 ∧ ¬ SubjectTaken L k := by
  constructor
  · intro h'
    refine ⟨?_, fun htaken => ?_⟩
    · have hrow := h'.outboxRows
        (L.outboxRow rt (claimEvent k) (requestClaimedPayload requestSha256) claimedAt)
        (by simp [claimedLedger])
      exact hrow.subjectId.2
    · have hsubjects := (expectedKeys_nodup_iff (.claimed h hk hevent)).mp
        h'.projection.expectedKeys
      simp only [claimedLedger, List.map_append] at hsubjects
      apply (nodup_concat.mp hsubjects).2
      rw [List.mem_map]
      exact htaken
  · rintro ⟨hlength, htaken⟩
    exact ((claim_commit h hargs hk hlength htaken).accepted h).relations

end Claim

end DecisionFirewall.StageA
