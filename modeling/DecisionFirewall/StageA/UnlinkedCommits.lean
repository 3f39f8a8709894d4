import DecisionFirewall.StageA.AttemptCommits
import DecisionFirewall.StageA.UnlinkedWriters

/-!
# Committing a Write to an Unlinked Authorization

An authorization without a request has at most one attempt, and a writer of these two
rows touches no request. `TokenCommit` lists what such a commit has to show about
the one token; `TokenCommit.accepted` is the frame rule, as `RequestCommit.accepted`
is for a request.

- §1 the commit and its frame rule
- §2 issuing
- §3 a commit by the rows of its token
- §4 ending an authorization that has no attempt
-/

namespace DecisionFirewall.StageA

open Lib.Table

/-! ## §1 The commit -/

/-- The events that the rows of a token call for. -/
def TokenEvent (rt : Runtime) (L : Ledger) (token : String) (e : ExpectedEvent) : Prop :=
  (∃ t ∈ L.attempts, t.tokenId = token ∧ e ∈ attemptEvents rt t) ∨
    ∃ a ∈ L.authorizations, a.tokenId = token ∧ e ∈ authorizationEvents rt L a

/-- One of the two terminal events of an unlinked `UNKNOWN_EFFECT` attempt is written. -/
def UnknownGroupOk (L : Ledger) (t : AttemptRow) : Prop :=
  t.UnlinkedUnknown → (L.eventId ⟨.attemptTerminal, t.attemptId⟩).isSome ≠
    (L.eventId ⟨.attemptRecoveredUnknown, t.attemptId⟩).isSome

/-- A commit that changes the rows of one unlinked token and appends `rows`. -/
structure TokenCommit (rt : Runtime) (L L' : Ledger) (token : String) (rows : List OutboxRow) :
    Prop where
  requests : L'.requests = L.requests
  requestResults : L'.requestResults = L.requestResults
  groups : ∀ k, L'.group k = L.group k
  authorizations : ∀ a, a.tokenId ≠ token → (a ∈ L'.authorizations ↔ a ∈ L.authorizations)
  attempts : ∀ t, t.tokenId ≠ token → (t ∈ L'.attempts ↔ t ∈ L.attempts)
  schema : L'.SchemaOk
  outbox : L'.auditOutbox = L.auditOutbox ++ rows
  sequence : L'.sequence = L.sequence + rows.length
  rowIds : rows.map OutboxRow.eventId = List.range' (L.sequence + 1) rows.length
  rowsOk : ∀ o ∈ rows, OutboxRowOk rt o
  distinct : (rows.map OutboxRow.key).Nodup
  fresh : ∀ o ∈ rows, ¬ L.Emitted o.key
  authorizationOk : ∀ a ∈ L'.authorizations, a.tokenId = token → a.link = none →
    UnlinkedAuthorizationOk rt a
  attemptOk : ∀ t ∈ L'.attempts, t.tokenId = token → t.link = none → UnlinkedAttemptOk rt L' t
  kept : ∀ e, TokenEvent rt L token e → ∃ e', TokenEvent rt L' token e' ∧ e'.Weakens e
  matched : ∀ o ∈ rows, ∃ e, TokenEvent rt L' token e ∧ o.Matches e
  covered : ∀ e', TokenEvent rt L' token e' → e'.required = true →
    (∃ e, TokenEvent rt L token e ∧ e.required = true ∧ e.key = e'.key) ∨ ∃ o ∈ rows, o.key = e'.key
  receipts : ∀ t ∈ L'.attempts, t.tokenId = token → ∀ o ∈ L'.auditOutbox, ReceiptBetween rt t o
  unknown : ∀ t ∈ L'.attempts, t.tokenId = token → UnknownGroupOk L' t
  authorizationsOrdered : ∀ a ∈ L'.authorizations, a.tokenId = token → AuthorizationOrdered L' a
  attemptsOrdered : ∀ t ∈ L'.attempts, t.tokenId = token → AttemptOrdered L' t

namespace TokenCommit

variable {rt : Runtime} {L L' : Ledger} {token : String} {rows : List OutboxRow}

/-- Another token keeps its attempt. -/
theorem attemptByToken (h : TokenCommit rt L L' token rows) (hs : L.SchemaOk) {tokenId : String}
    (hne : tokenId ≠ token) : L'.attemptByToken tokenId = L.attemptByToken tokenId := by
  apply Option.ext
  intro t
  rw [Ledger.attemptByToken_eq_some hs, Ledger.attemptByToken_eq_some h.schema]
  constructor
  · rintro ⟨ht, rfl⟩
    exact ⟨(h.attempts t hne).mp ht, rfl⟩
  · rintro ⟨ht, rfl⟩
    exact ⟨(h.attempts t hne).mpr ht, rfl⟩

theorem mem_expectedEvents_of_token {e : ExpectedEvent} (h : TokenEvent rt L token e) :
    e ∈ expectedEvents rt L := by
  rw [mem_expectedEvents]
  rcases h with ⟨t, ht, -, he⟩ | ⟨a, ha, -, he⟩
  · exact .inr (.inl ⟨t, ht, he⟩)
  · exact .inr (.inr (.inl ⟨a, ha, he⟩))

/-- An old event belongs to the token or is still called for. -/
theorem mem_expectedEvents_cases (h : TokenCommit rt L L' token rows) (hs : L.SchemaOk)
    {e : ExpectedEvent} (he : e ∈ expectedEvents rt L) :
    TokenEvent rt L token e ∨ e ∈ expectedEvents rt L' := by
  rw [mem_expectedEvents (L := L')]
  rcases mem_expectedEvents.mp he with ⟨r, hr, he⟩ | ⟨t, ht, he⟩ | ⟨a, ha, he⟩ | ⟨x, hx, he⟩
  · exact .inr (.inl ⟨r, by rw [h.requests]; exact hr, he⟩)
  · by_cases hk : t.tokenId = token
    · exact .inl (.inl ⟨t, ht, hk, he⟩)
    · exact .inr (.inr (.inl ⟨t, (h.attempts t hk).mpr ht, he⟩))
  · by_cases hk : a.tokenId = token
    · exact .inl (.inr ⟨a, ha, hk, he⟩)
    · refine .inr (.inr (.inr (.inl ⟨a, (h.authorizations a hk).mpr ha, ?_⟩)))
      rw [authorizationEvents, h.attemptByToken hs hk]
      exact he
  · exact .inr (.inr (.inr (.inr ⟨x, by rw [h.requestResults]; exact hx, he⟩)))

/-- A new event belongs to the token or was called for before. -/
theorem mem_expectedEvents_cases' (h : TokenCommit rt L L' token rows) (hs : L.SchemaOk)
    {e : ExpectedEvent} (he : e ∈ expectedEvents rt L') :
    TokenEvent rt L' token e ∨ e ∈ expectedEvents rt L := by
  rw [mem_expectedEvents (L := L)]
  rcases mem_expectedEvents.mp he with ⟨r, hr, he⟩ | ⟨t, ht, he⟩ | ⟨a, ha, he⟩ | ⟨x, hx, he⟩
  · exact .inr (.inl ⟨r, by rw [← h.requests]; exact hr, he⟩)
  · by_cases hk : t.tokenId = token
    · exact .inl (.inl ⟨t, ht, hk, he⟩)
    · exact .inr (.inr (.inl ⟨t, (h.attempts t hk).mp ht, he⟩))
  · by_cases hk : a.tokenId = token
    · exact .inl (.inr ⟨a, ha, hk, he⟩)
    · refine .inr (.inr (.inr (.inl ⟨a, (h.authorizations a hk).mp ha, ?_⟩)))
      rw [authorizationEvents, ← h.attemptByToken hs hk]
      exact he
  · exact .inr (.inr (.inr (.inr ⟨x, by rw [← h.requestResults]; exact hx, he⟩)))

theorem eventsAppended (h : TokenCommit rt L L' token rows) (hs : L.SchemaOk) :
    EventsAppended rt L L' rows where
  outbox := h.outbox
  kept e he := by
    rcases h.mem_expectedEvents_cases hs he with he | he
    · obtain ⟨e', he', hweak⟩ := h.kept e he
      exact ⟨e', mem_expectedEvents_of_token he', hweak⟩
    · exact ⟨e, he, .refl e⟩
  matched o ho := by
    obtain ⟨e, he, hmatch⟩ := h.matched o ho
    exact ⟨e, mem_expectedEvents_of_token he, hmatch⟩
  covered e' he' hreq := by
    rcases h.mem_expectedEvents_cases' hs he' with he | he
    · rcases h.covered e' he hreq with ⟨e, he, hreq, hkey⟩ | hrow
      · exact .inl ⟨e, mem_expectedEvents_of_token he, hreq, hkey⟩
      · exact .inr hrow
    · exact .inl ⟨e', he, hreq, rfl⟩

theorem before (h : TokenCommit rt L L' token rows) (hL : ControlRelationsOk rt L)
    {first second : EventKey} (hfirst : ∀ o ∈ rows, o.key ≠ first)
    (hold : L.EventBefore first second) : L'.EventBefore first second :=
  eventBefore_append h.outbox (hL.lt_rows h.rowIds) hfirst hold

theorem not_row_of_emitted (h : TokenCommit rt L L' token rows) {key : EventKey}
    (hkey : L.Emitted key) : ∀ o ∈ rows, o.key ≠ key :=
  fun o ho hne => h.fresh o ho (hne ▸ hkey)

/-- No attempt event of another token is among the new rows. -/
theorem not_row_of_attempt (h : TokenCommit rt L L' token rows) {t : AttemptRow}
    (ht : t ∈ L'.attempts) (hk : t.tokenId ≠ token) (type : EventType)
    (htype : type.owner = 1) : ∀ o ∈ rows, o.key ≠ ⟨type, t.attemptId⟩ := by
  intro o ho hne
  obtain ⟨e, he, hmatch⟩ := h.matched o ho
  have hek : e.key = ⟨type, t.attemptId⟩ := hmatch.1.trans hne
  rcases he with ⟨u, hu, huk, he⟩ | ⟨a, -, -, he⟩
  · have hid : u.attemptId = t.attemptId := by
      rw [← (key_of_mem_attemptEvents he).1, hek]
    rw [eq_of_nodup_key h.schema.attemptIds hu ht hid] at huk
    exact hk huk
  · have howner := owner_authorizationEvents he
    rw [hek] at howner
    rw [htype] at howner
    exact absurd howner (by decide)

theorem ordered (h : TokenCommit rt L L' token rows) (hL : Accepted rt L) : OrderedEvents L' := by
  have hold := hL.relations.projection.ordered hL.schema
  have hbefore : ∀ {first second : EventKey}, (∀ o ∈ rows, o.key ≠ first) →
      L.EventBefore first second → L'.EventBefore first second := h.before hL.relations
  have hauth : ∀ a ∈ L'.authorizations, AuthorizationOrdered L' a := by
    intro a ha
    by_cases hk : a.tokenId = token
    · exact h.authorizationsOrdered a ha hk
    have ha' := (h.authorizations a hk).mp ha
    have hissued := h.not_row_of_emitted
      (show L.Emitted ⟨.authorizationIssued, a.tokenId⟩ from ⟨a, ha', rfl⟩)
    refine ⟨fun k' hk' => hbefore (h.not_row_of_emitted ?_) (hold.claimedIssued a ha' k' hk'),
      hbefore hissued (hold.issuedConsumed a ha'), hbefore hissued (hold.issuedRevoked a ha')⟩
    simp only [AuthorizationRow.requestKey, Option.mem_def, Option.map_eq_some_iff] at hk'
    obtain ⟨l, hl, rfl⟩ := hk'
    obtain ⟨r, hr, hrk, -⟩ := hL.schema.authorizationFk a ha' l hl
    exact ⟨r, hr, by rw [hrk]⟩
  have hattempt : ∀ t ∈ L'.attempts, AttemptOrdered L' t := by
    intro t ht
    by_cases hk : t.tokenId = token
    · exact h.attemptsOrdered t ht hk
    have ht' := (h.attempts t hk).mp ht
    have hreserved := h.not_row_of_attempt ht hk .attemptReserved rfl
    have hreceipt := h.not_row_of_attempt ht hk .adapterReceiptRecorded rfl
    refine ⟨hbefore hreserved (hold.reservedConsumed t ht'),
      ⟨hbefore hreserved (hold.attempts t ht').receipt, fun e he => ?_⟩⟩
    obtain ⟨h1, h2, h3⟩ := (hold.attempts t ht').terminal e he
    have hterminal : ∀ o ∈ rows, o.key ≠ ⟨e, t.attemptId⟩ := by
      apply h.not_row_of_attempt ht hk e
      rcases List.mem_cons.mp he with rfl | he
      · rfl
      · rw [List.mem_singleton.mp he]; rfl
    exact ⟨hbefore hreserved h1, hbefore hreceipt h2, fun k' hk' => hbefore hterminal (h3 k' hk')⟩
  refine ⟨fun a ha => (hauth a ha).claimed, fun a ha => (hauth a ha).consumed,
    fun t ht => (hattempt t ht).consumed, fun a ha => (hauth a ha).revoked, ?_,
    fun t ht => (hattempt t ht).order⟩
  intro r hr
  rw [h.requests] at hr
  exact hbefore (h.not_row_of_emitted ⟨r, hr, rfl⟩) (hold.claimedTerminal r hr)

theorem eventId_of_not_row (h : TokenCommit rt L L' token rows) {key : EventKey}
    (hkey : ∀ o ∈ rows, o.key ≠ key) : L'.eventId key = L.eventId key := by
  have hnone : rows.find? (fun o => o.key = key) = none := by
    rw [List.find?_eq_none]
    intro o ho
    simpa using hkey o ho
  simp [Ledger.eventId, h.outbox, List.find?_append, hnone]

theorem receiptChronology (h : TokenCommit rt L L' token rows) (hL : Accepted rt L) :
    ∀ o ∈ L'.auditOutbox, ReceiptChronologyOk rt L' o := by
  intro o ho htype t ht hid
  have hkey : o.key = ⟨.adapterReceiptRecorded, t.attemptId⟩ := by
    simp [OutboxRow.key, htype, hid]
  by_cases hk : t.tokenId = token
  · exact h.receipts t ht hk o ho hkey
  · rw [h.outbox, List.mem_append] at ho
    rcases ho with ho | ho
    · exact hL.relations.projection.receiptChronology o ho htype t ((h.attempts t hk).mp ht) hid
    · exact absurd hkey (h.not_row_of_attempt ht hk _ rfl o ho)

theorem projection (h : TokenCommit rt L L' token rows) (hL : Accepted rt L) :
    OutboxProjectionOk rt L' where
  expectedKeys := by
    refine (expectedKeys_nodup_iff h.schema).mpr ?_
    rw [h.requests]
    exact (expectedKeys_nodup_iff hL.schema).mp hL.relations.projection.expectedKeys
  observedKeys := nodup_keys_append hL h.outbox h.distinct h.fresh
  matched _ ho := (h.eventsAppended hL.schema).matched_all hL.relations.projection ho
  receiptChronology := h.receiptChronology hL
  covered _ he hreq := (h.eventsAppended hL.schema).covered_all hL.relations.projection he hreq
  unknownGroups t ht hu := by
    by_cases hk : t.tokenId = token
    · exact h.unknown t ht hk hu
    · rw [h.eventId_of_not_row (h.not_row_of_attempt ht hk .attemptTerminal rfl),
        h.eventId_of_not_row (h.not_row_of_attempt ht hk .attemptRecoveredUnknown rfl)]
      exact hL.relations.projection.unknownGroups t ((h.attempts t hk).mp ht) hu
  authorizationOrder _ ha := (h.ordered hL).authorizationOrder h.schema ha
  requestOrder := (h.ordered hL).claimedTerminal
  attemptOrder := (h.ordered hL).attempts

/-- The frame rule: the validator accepts the whole ledger again. -/
theorem accepted (h : TokenCommit rt L L' token rows) (hL : Accepted rt L) : Accepted rt L' := by
  refine ⟨h.schema, ?_⟩
  constructor
  · intro r hr
    rw [h.groups]
    rw [h.requests] at hr
    exact hL.relations.requests r hr
  · intro a ha hlink
    by_cases hk : a.tokenId = token
    · exact h.authorizationOk a ha hk hlink
    · exact hL.relations.unlinkedAuthorizations a ((h.authorizations a hk).mp ha) hlink
  · intro t ht hlink
    by_cases hk : t.tokenId = token
    · exact h.attemptOk t ht hk hlink
    · -- the authorization of another attempt has another token
      have hok := hL.relations.unlinkedAttempts t ((h.attempts t hk).mp ht) hlink
      obtain ⟨a, ha, halink, hat, hrest⟩ := hok.authority
      have hne : a.tokenId ≠ token := by
        rw [hat]
        exact hk
      exact { hok with
        authority := ⟨a, (h.authorizations a hne).mpr ha, halink, hat, hrest⟩ }
  · rw [h.outbox, List.map_append, hL.relations.contiguous, h.rowIds, List.length_append,
      hL.relations.sequence, ← List.range'_append_1, Nat.add_comm 1]
  · rw [h.sequence, h.outbox, List.length_append, hL.relations.sequence]
  · intro o ho
    rw [h.outbox, List.mem_append] at ho
    rcases ho with ho | ho
    · exact hL.relations.outboxRows o ho
    · exact h.rowsOk o ho
  · exact h.projection hL

end TokenCommit

section Rows

variable {rt : Runtime} {L : Ledger} {a : AuthorizationRow}

/-- The attempts of an unlinked authorization are unlinked. -/
theorem Accepted.unlinked_attempt (h : Accepted rt L) (ha : a ∈ L.authorizations)
    (hl : a.link = none) {t : AttemptRow} (ht : t ∈ L.attempts) (htoken : t.tokenId = a.tokenId) :
    t.link = none := by
  cases hlink : t.link with
  | none => rfl
  | some l =>
    obtain ⟨b, hb, hbt, al, hal, -⟩ := h.schema.attemptFk t ht l hlink
    rw [eq_of_nodup_key h.schema.tokenIds hb ha (hbt.trans htoken), hl] at hal
    cases hal

/-- An unlinked authorization that is still `ISSUED` has no attempt. -/
theorem Accepted.no_attempt_of_issued (h : Accepted rt L) (ha : a ∈ L.authorizations)
    (hl : a.link = none) (hstate : a.state = .issued) : ∀ t ∈ L.attempts, t.tokenId ≠ a.tokenId := by
  intro t ht htoken
  have hlink := h.unlinked_attempt ha hl ht htoken
  obtain ⟨b, hb, -, hbt, hconsumed, -⟩ := (h.relations.unlinkedAttempts t ht hlink).authority
  rw [eq_of_nodup_key h.schema.tokenIds hb ha (hbt.trans htoken), hstate] at hconsumed
  simp [AuthorizationState.consumedAt] at hconsumed

/-- Updating or adding an unlinked authorization keeps the rows of every request. -/
theorem group_of_authorizations {L' : Ledger} {k : RequestKey}
    (hattempts : L'.attempts.filter (fun t => t.requestKey = some k) =
      L.attempts.filter fun t => t.requestKey = some k)
    (hresults : L'.requestResults = L.requestResults)
    (hauths : L'.authorizations.filter (fun a => a.requestKey = some k) =
      L.authorizations.filter fun a => a.requestKey = some k) : L'.group k = L.group k := by
  simp only [Ledger.group, Ledger.authorizationsOf, Ledger.attemptsOf, Ledger.resultsOf, hattempts,
    hresults, hauths]

/-- An update of the one authorization of an unlinked token. -/
theorem filter_updateAuthorizations (hs : L.SchemaOk) (ha : a ∈ L.authorizations)
    (hl : a.link = none) (s : AuthorizationState) (k : RequestKey) :
    (L.updateAuthorizations (fun b => b.tokenId = a.tokenId ∧ b.state = .issued)
      s).authorizations.filter (fun b => b.requestKey = some k) =
      L.authorizations.filter fun b => b.requestKey = some k := by
  refine filter_updateWhere_of_disjoint ?_ ?_ <;>
  · intro b hb hbp
    simp only [decide_eq_true_eq] at hbp
    rw [eq_of_nodup_key hs.tokenIds hb ha hbp.1]
    simp [AuthorizationRow.requestKey, hl]

theorem mem_updateAuthorizations_of_ne {s : AuthorizationState} {b : AuthorizationRow}
    (hne : b.tokenId ≠ a.tokenId) :
    b ∈ (L.updateAuthorizations (fun b => b.tokenId = a.tokenId ∧ b.state = .issued)
      s).authorizations ↔ b ∈ L.authorizations := by
  constructor
  · intro hb
    obtain ⟨c, hc, rfl⟩ := mem_updateWhere.mp hb
    split at hne
    · next hp =>
      simp only [decide_eq_true_eq] at hp
      exact absurd hp.1 hne
    · next hp => rwa [if_neg hp]
  · intro hb
    exact mem_updateWhere.mpr ⟨b, hb, by simp [hne]⟩

/-- The one updated row. -/
theorem mem_updateAuthorizations_of_token (hs : L.SchemaOk) (ha : a ∈ L.authorizations)
    (hstate : a.state = .issued) {s : AuthorizationState} {b : AuthorizationRow}
    (hb : b ∈ (L.updateAuthorizations (fun b => b.tokenId = a.tokenId ∧ b.state = .issued)
      s).authorizations) (htoken : b.tokenId = a.tokenId) : b = { a with state := s } := by
  obtain ⟨c, hc, rfl⟩ := mem_updateWhere.mp hb
  have hct : c.tokenId = a.tokenId := by
    split at htoken <;> exact htoken
  rw [eq_of_nodup_key hs.tokenIds hc ha hct]
  simp [hstate]

end Rows

/-! ## §2 Issuing -/

section Issue

variable (rt : Runtime) (L : Ledger) (a : AuthorizationRow)

/-- The outbox row of an unlinked issuance. -/
def issuedRow : OutboxRow :=
  L.outboxRow rt ⟨.authorizationIssued, a.tokenId⟩
    (authorizationIssuedPayload rt a.verificationId a.decisionId none) a.issuedAt

/-- The ledger that an unlinked `register` commits. -/
def issuedLedger : Ledger :=
  { L with
    authorizations := L.authorizations ++ [a]
    auditOutbox := L.auditOutbox ++ [issuedRow rt L a]
    sequence := L.sequence + 1 }

variable {rt L a}

theorem registerBody_unlinked (hl : a.link = none) {L' : Ledger} {u : Unit}
    (hbody : registerBody rt a L = .ok (u, L')) :
    (a.tokenId ∉ L.authorizations.map AuthorizationRow.tokenId) ∧
      L' = issuedLedger rt L a := by
  simp only [registerBody, hl, bind_eq_ok, require_eq_ok, exists_const, pure, Except.pure,
    Except.ok.injEq, Prod.mk.injEq] at hbody
  obtain ⟨-, L₁, h₁, L₂, h₂, -, rfl⟩ := hbody
  obtain ⟨⟨htoken, -⟩, rfl⟩ := Ledger.insertAuthorization_eq_ok.mp h₁
  obtain ⟨-, rfl⟩ := Ledger.insertOutbox_eq_ok.mp h₂
  exact ⟨htoken, rfl⟩

/-- An unlinked registration commits. -/
theorem issue_commit (h : Accepted rt L) (hl : a.link = none) (hstate : a.state = .issued)
    (hids : IsIdentifier a.tokenId ∧ IsIdentifier a.verificationId ∧ IsIdentifier a.decisionId)
    (hat : rt.IsOffsetTimestamp a.issuedAt) (hschema : (issuedLedger rt L a).SchemaOk)
    (hfresh : a.tokenId ∉ L.authorizations.map AuthorizationRow.tokenId) :
    TokenCommit rt L (issuedLedger rt L a) a.tokenId [issuedRow rt L a] := by
  have hauth : ∀ b ∈ L.authorizations, b.tokenId ≠ a.tokenId :=
    fun b hb hne => hfresh (List.mem_map.mpr ⟨b, hb, hne⟩)
  have hattempt : ∀ t ∈ L.attempts, t.tokenId ≠ a.tokenId := by
    intro t ht htoken
    obtain ⟨b, hb, hbt⟩ := h.schema.attemptTokenFk t ht
    exact hauth b hb (hbt.trans htoken)
  have hnew : ∀ b ∈ (issuedLedger rt L a).authorizations, b.tokenId = a.tokenId → b = a := by
    intro b hb htoken
    rcases List.mem_append.mp hb with hb | hb
    · exact absurd htoken (hauth b hb)
    · exact List.mem_singleton.mp hb
  have hevents : authorizationEvents rt (issuedLedger rt L a) a =
      [exactEvent rt ⟨.authorizationIssued, a.tokenId⟩
        (authorizationIssuedPayload rt a.verificationId a.decisionId none) a.issuedAt] := by
    simp [authorizationEvents, hstate, hl]
  have hmem : a ∈ (issuedLedger rt L a).authorizations :=
    List.mem_append_right _ (List.mem_singleton.mpr rfl)
  have hunemitted : ∀ type : EventType, type.owner = 2 → ¬ L.Emitted ⟨type, a.tokenId⟩ := by
    intro type htype hemitted
    cases type <;> simp only [EventType.owner] at htype <;>
      first | exact absurd htype (by decide) | skip
    · obtain ⟨b, hb, hbt⟩ := hemitted
      exact hauth b hb hbt
    all_goals
      obtain ⟨b, hb, hbt, -⟩ := hemitted
      exact hauth b hb hbt
  refine
    { requests := rfl
      requestResults := rfl
      groups := fun k => group_of_authorizations rfl rfl ?_
      authorizations := fun b hne => ?_
      attempts := fun _ _ => Iff.rfl
      schema := hschema
      outbox := rfl
      sequence := rfl
      rowIds := rfl
      rowsOk := ?_
      distinct := by simp
      fresh := ?_
      authorizationOk := fun b hb htoken _ => ?_
      attemptOk := fun t ht htoken _ => absurd htoken (hattempt t ht)
      kept := ?_
      matched := ?_
      covered := ?_
      receipts := fun t ht htoken => absurd htoken (hattempt t ht)
      unknown := fun t ht htoken => absurd htoken (hattempt t ht)
      authorizationsOrdered := fun b hb htoken => ?_
      attemptsOrdered := fun t ht htoken => absurd htoken (hattempt t ht) }
  · simp [issuedLedger, List.filter_append, AuthorizationRow.requestKey, hl]
  · constructor
    · intro hb
      rcases List.mem_append.mp hb with hb | hb
      · exact hb
      · exact absurd (congrArg AuthorizationRow.tokenId (List.mem_singleton.mp hb)) hne
    · exact fun hb => List.mem_append_left _ hb
  · simp only [List.mem_singleton, forall_eq]
    exact outboxRowOk_outboxRow hids.1 hat
  · simp only [List.mem_singleton, forall_eq]
    exact hunemitted _ rfl
  · rw [hnew b hb htoken]
    exact ⟨hids, hat, by simp [hstate, AuthorizationState.endedAt],
      by simp [hstate, AuthorizationState.revocationReason]⟩
  · rintro e (⟨t, ht, htoken, -⟩ | ⟨b, hb, htoken, -⟩)
    · exact absurd htoken (hattempt t ht)
    · exact absurd htoken (hauth b hb)
  · simp only [List.mem_singleton, forall_eq]
    refine ⟨_, .inr ⟨a, hmem, rfl, ?_⟩, outboxRow_matches⟩
    rw [hevents]
    exact List.mem_singleton.mpr rfl
  · rintro e (⟨t, ht, htoken, -⟩ | ⟨b, hb, htoken, he⟩) -
    · exact absurd htoken (hattempt t ht)
    · rw [hnew b hb htoken, hevents, List.mem_singleton] at he
      exact .inr ⟨_, List.mem_singleton.mpr rfl, by rw [he]; rfl⟩
  · rw [hnew b hb htoken]
    have hsecond : ∀ type : EventType, type.owner = 2 → type ≠ .authorizationIssued →
        ∀ o ∈ (issuedLedger rt L a).auditOutbox, o.key ≠ ⟨type, a.tokenId⟩ := by
      intro type htype hne
      refine unobserved_commit h rfl (hunemitted type htype) ?_
      simp only [List.mem_singleton, forall_eq]
      exact fun hkey => hne (congrArg EventKey.eventType hkey).symm
    exact ⟨by simp [AuthorizationRow.requestKey, hl],
      eventBefore_of_second (hsecond _ rfl (by simp)),
      eventBefore_of_second (hsecond _ rfl (by simp))⟩

end Issue

/-! ## §3 The rows of a token -/

/-- The unlinked authorization `a` and its attempt, where it has one. -/
structure TokenRows (L : Ledger) (a : AuthorizationRow) (t : Option AttemptRow) : Prop where
  mem : a ∈ L.authorizations
  link : a.link = none
  attempt : ∀ u, u ∈ L.attempts ∧ u.tokenId = a.tokenId ↔ u ∈ t

/-- The events of a token, by its rows. -/
def tokenEvents (rt : Runtime) (L : Ledger) (a : AuthorizationRow) (t : Option AttemptRow) :
    List ExpectedEvent :=
  t.toList.flatMap (attemptEvents rt) ++ authorizationEvents rt L a

section TokenRows

variable {rt : Runtime} {L L' : Ledger} {a a' : AuthorizationRow} {t t' : Option AttemptRow}
  {rows : List OutboxRow}

theorem TokenRows.attemptByToken (h : TokenRows L a t) (hs : L.SchemaOk) :
    L.attemptByToken a.tokenId = t := by
  apply Option.ext
  intro u
  rw [Ledger.attemptByToken_eq_some hs]
  exact h.attempt u

theorem TokenRows.tokenEvent_iff (h : TokenRows L a t) (hs : L.SchemaOk) {e : ExpectedEvent} :
    TokenEvent rt L a.tokenId e ↔ e ∈ tokenEvents rt L a t := by
  rw [tokenEvents, List.mem_append, List.mem_flatMap]
  constructor
  · rintro (⟨u, hu, hut, he⟩ | ⟨b, hb, hbt, he⟩)
    · have hmem : u ∈ t := (h.attempt u).mp ⟨hu, hut⟩
      exact .inl ⟨u, Option.mem_toList.mpr hmem, he⟩
    · rw [eq_of_nodup_key hs.tokenIds hb h.mem hbt] at he
      exact .inr he
  · rintro (⟨u, hu, he⟩ | he)
    · obtain ⟨hu, hut⟩ := (h.attempt u).mpr (Option.mem_toList.mp hu)
      exact .inl ⟨u, hu, hut, he⟩
    · exact .inr ⟨a, h.mem, rfl, he⟩

/-- The outbox rows that a commit of a token appends. -/
structure RowsAppended (rt : Runtime) (L L' : Ledger) (rows : List OutboxRow) : Prop where
  outbox : L'.auditOutbox = L.auditOutbox ++ rows
  sequence : L'.sequence = L.sequence + rows.length
  rowIds : rows.map OutboxRow.eventId = List.range' (L.sequence + 1) rows.length
  rowsOk : ∀ o ∈ rows, OutboxRowOk rt o
  distinct : (rows.map OutboxRow.key).Nodup
  fresh : ∀ o ∈ rows, ¬ L.Emitted o.key

/-- What a commit of an unlinked token shows about its rows before and after. -/
structure TokenRowsCommit (rt : Runtime) (L L' : Ledger) (a : AuthorizationRow)
    (t : Option AttemptRow) (a' : AuthorizationRow) (t' : Option AttemptRow)
    (rows : List OutboxRow) : Prop where
  requests : L'.requests = L.requests
  requestResults : L'.requestResults = L.requestResults
  groups : ∀ k, L'.group k = L.group k
  authorizations : ∀ b, b.tokenId ≠ a.tokenId → (b ∈ L'.authorizations ↔ b ∈ L.authorizations)
  attempts : ∀ u, u.tokenId ≠ a.tokenId → (u ∈ L'.attempts ↔ u ∈ L.attempts)
  schema : L'.SchemaOk
  appended : RowsAppended rt L L' rows
  old : TokenRows L a t
  new : TokenRows L' a' t'
  token : a'.tokenId = a.tokenId
  authorizationOk : UnlinkedAuthorizationOk rt a'
  attemptOk : ∀ u ∈ t', UnlinkedAttemptOk rt L' u
  kept : ∀ e ∈ tokenEvents rt L a t, ∃ e' ∈ tokenEvents rt L' a' t', e'.Weakens e
  matched : ∀ o ∈ rows, ∃ e ∈ tokenEvents rt L' a' t', o.Matches e
  covered : ∀ e' ∈ tokenEvents rt L' a' t', e'.required = true →
    (∃ e ∈ tokenEvents rt L a t, e.required = true ∧ e.key = e'.key) ∨ ∃ o ∈ rows, o.key = e'.key
  receipts : ∀ u ∈ t', ∀ o ∈ L'.auditOutbox, ReceiptBetween rt u o
  unknown : ∀ u ∈ t', UnknownGroupOk L' u
  attemptsOrdered : ∀ u ∈ t', AttemptOrdered L' u

/-- Such a commit is accepted again. -/
theorem TokenRowsCommit.accepted (h : TokenRowsCommit rt L L' a t a' t' rows)
    (hL : Accepted rt L) : Accepted rt L' := by
  have hattempt : ∀ u ∈ L'.attempts, u.tokenId = a.tokenId → u ∈ t' :=
    fun u hu hut => (h.new.attempt u).mp ⟨hu, hut.trans h.token.symm⟩
  have hauth : ∀ b ∈ L'.authorizations, b.tokenId = a.tokenId → b = a' :=
    fun b hb hbt => eq_of_nodup_key h.schema.tokenIds hb h.new.mem (hbt.trans h.token.symm)
  have hevents : ∀ e, TokenEvent rt L' a.tokenId e ↔ e ∈ tokenEvents rt L' a' t' := by
    intro e
    rw [← h.token]
    exact h.new.tokenEvent_iff h.schema
  have hcommit : TokenCommit rt L L' a.tokenId rows :=
    { requests := h.requests
      requestResults := h.requestResults
      groups := h.groups
      authorizations := h.authorizations
      attempts := h.attempts
      schema := h.schema
      outbox := h.appended.outbox
      sequence := h.appended.sequence
      rowIds := h.appended.rowIds
      rowsOk := h.appended.rowsOk
      distinct := h.appended.distinct
      fresh := h.appended.fresh
      authorizationOk := fun b hb hbt _ => hauth b hb hbt ▸ h.authorizationOk
      attemptOk := fun u hu hut _ => h.attemptOk u (hattempt u hu hut)
      kept := by
        intro e he
        obtain ⟨e', he', hweak⟩ := h.kept e ((h.old.tokenEvent_iff hL.schema).mp he)
        exact ⟨e', (hevents e').mpr he', hweak⟩
      matched := by
        intro o ho
        obtain ⟨e, he, hmatch⟩ := h.matched o ho
        exact ⟨e, (hevents e).mpr he, hmatch⟩
      covered := by
        intro e' he' hreq
        rcases h.covered e' ((hevents e').mp he') hreq with ⟨e, he, hold⟩ | hrow
        · exact .inl ⟨e, (h.old.tokenEvent_iff hL.schema).mpr he, hold⟩
        · exact .inr hrow
      receipts := fun u hu hut => h.receipts u (hattempt u hu hut)
      unknown := fun u hu hut => h.unknown u (hattempt u hu hut)
      authorizationsOrdered := by
        intro b hb hbt
        rw [hauth b hb hbt]
        refine authorizationOrdered_commit hL h.appended.outbox h.appended.rowIds h.appended.fresh
          h.old.mem h.token ?_
        simp [AuthorizationRow.requestKey, h.old.link, h.new.link]
      attemptsOrdered := fun u hu hut => h.attemptsOrdered u (hattempt u hu hut) }
  exact hcommit.accepted hL

/-- An unlinked authorization that is still `ISSUED` has no attempt. -/
theorem Accepted.tokenRows_of_issued (h : Accepted rt L) (ha : a ∈ L.authorizations)
    (hl : a.link = none) (hstate : a.state = .issued) : TokenRows L a none := by
  refine ⟨ha, hl, fun u => ?_⟩
  simp only [Option.mem_def, reduceCtorEq, iff_false, not_and]
  exact h.no_attempt_of_issued ha hl hstate u

/-- The update of an `ISSUED` unlinked authorization, whatever its attempt becomes. -/
theorem updateAuthorizations_mem (ha : a ∈ L.authorizations) (hstate : a.state = .issued)
    (s : AuthorizationState) :
    { a with state := s } ∈ (L.updateAuthorizations
      (fun b => b.tokenId = a.tokenId ∧ b.state = .issued) s).authorizations :=
  mem_updateWhere.mpr ⟨a, ha, by simp [hstate]⟩

/-- An authorization that is still `ISSUED` has written none of its later events. -/
theorem Accepted.not_emitted_of_issued (h : Accepted rt L) (ha : a ∈ L.authorizations)
    (hstate : a.state = .issued) {type : EventType}
    (htype : type = .authorizationConsumed ∨ type = .authorizationRevoked) :
    ¬ L.Emitted ⟨type, a.tokenId⟩ := by
  rcases htype with rfl | rfl <;>
  · rintro ⟨b, hb, hba, hended⟩
    rw [eq_of_nodup_key h.schema.tokenIds hb ha hba, hstate] at hended
    simp [AuthorizationState.consumedAt, AuthorizationState.revokedAt] at hended

end TokenRows

/-! ## §4 Ending an authorization -/

/-- The state of an ended authorization without an attempt, with its event. -/
inductive EndsAs : AuthorizationState → EventType → Json → String → Prop
  | consumed (endedAt : String) :
    EndsAs (.consumed endedAt) .authorizationConsumed (authorizationConsumedPayload none) endedAt
  | revoked (endedAt : String) :
    EndsAs (revokedState endedAt) .authorizationRevoked authorizationRevokedPayload endedAt

section Ended

variable (rt : Runtime) (L : Ledger) (a : AuthorizationRow) (s : AuthorizationState)
  (type : EventType) (payload : Json) (endedAt : String)

/-- The outbox row of the end of an authorization. -/
def endedRow : OutboxRow := L.outboxRow rt ⟨type, a.tokenId⟩ payload endedAt

/-- The ledger that the end of an authorization commits. -/
def endedLedger : Ledger :=
  { L with
    authorizations := (L.updateAuthorizations
      (fun b => b.tokenId = a.tokenId ∧ b.state = .issued) s).authorizations
    auditOutbox := L.auditOutbox ++ [endedRow rt L a type payload endedAt]
    sequence := L.sequence + 1 }

variable {rt L a s type payload endedAt}

/-- Consuming without an attempt, or revoking, commits. -/
theorem ended_accepted (h : Accepted rt L) (ha : a ∈ L.authorizations) (hl : a.link = none)
    (hstate : a.state = .issued) (hends : EndsAs s type payload endedAt)
    (hat : rt.IsOffsetTimestamp endedAt) (htime : rt.AtMost a.issuedAt endedAt)
    (hschema : (endedLedger rt L a s type payload endedAt).SchemaOk) :
    Accepted rt (endedLedger rt L a s type payload endedAt) := by
  have hok := h.relations.unlinkedAuthorizations a ha hl
  have hold := h.tokenRows_of_issued ha hl hstate
  have hnew : TokenRows (endedLedger rt L a s type payload endedAt) { a with state := s } none :=
    ⟨updateAuthorizations_mem ha hstate s, hl, hold.attempt⟩
  have hevents : authorizationEvents rt (endedLedger rt L a s type payload endedAt)
      { a with state := s } = authorizationEvents rt L a ++
        [exactEvent rt ⟨type, a.tokenId⟩ payload endedAt] := by
    have hnone := hnew.attemptByToken hschema
    cases hends <;> simp_all [authorizationEvents, revokedState]
  have hrowFresh : ∀ o ∈ [endedRow rt L a type payload endedAt], ¬ L.Emitted o.key := by
    simp only [List.mem_singleton, forall_eq]
    show ¬ L.Emitted ⟨type, a.tokenId⟩
    apply h.not_emitted_of_issued ha hstate
    cases hends
    · exact .inl rfl
    · exact .inr rfl
  suffices hcommit : TokenRowsCommit rt L (endedLedger rt L a s type payload endedAt) a none
      { a with state := s } none [endedRow rt L a type payload endedAt] from hcommit.accepted h
  refine
    { requests := rfl
      requestResults := rfl
      groups := fun k => group_of_authorizations rfl rfl
        (filter_updateAuthorizations h.schema ha hl s k)
      authorizations := fun b hne => mem_updateAuthorizations_of_ne hne
      attempts := fun _ _ => Iff.rfl
      schema := hschema
      appended := ⟨rfl, rfl, rfl, ?_, by simp, hrowFresh⟩
      old := hold
      new := hnew
      token := rfl
      authorizationOk := ?_
      attemptOk := by simp
      kept := ?_
      matched := ?_
      covered := ?_
      receipts := by simp
      unknown := by simp
      attemptsOrdered := by simp }
  · simp only [List.mem_singleton, forall_eq]
    exact outboxRowOk_outboxRow hok.identifiers.1 hat
  · refine ⟨hok.identifiers, hok.issued, ?_, ?_⟩ <;> cases hends
    · simpa [AuthorizationState.endedAt] using ⟨hat, htime⟩
    · simpa [revokedState, AuthorizationState.endedAt] using ⟨hat, htime⟩
    · simp [AuthorizationState.revocationReason]
    · simp only [revokedState, AuthorizationState.revocationReason, Option.mem_def,
        Option.some.injEq, forall_eq']
      decide
  · intro e he
    refine ⟨e, ?_, .refl e⟩
    rw [tokenEvents, hevents]
    simpa [tokenEvents] using .inl he
  · simp only [List.mem_singleton, forall_eq, tokenEvents, hevents]
    exact ⟨_, List.mem_append_right _ (List.mem_append_right _ (List.mem_singleton.mpr rfl)),
      outboxRow_matches⟩
  · intro e he hreq
    simp only [tokenEvents, hevents, Option.toList_none, List.flatMap_nil, List.nil_append,
      List.mem_append, List.mem_singleton] at he ⊢
    rcases he with he | he
    · exact .inl ⟨e, he, hreq, rfl⟩
    · exact .inr ⟨_, rfl, by rw [he]; rfl⟩

end Ended

end DecisionFirewall.StageA
