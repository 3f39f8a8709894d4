import DecisionFirewall.StageA.Projection

/-!
# Committing a Write to One Request

Every writer of a request-linked row changes the rows of a single request and
appends their events to the outbox. `RequestCommit` lists what such a commit has to
show about that one request; `RequestCommit.accepted` is the frame rule: the rest of
the ledger stays as the validator accepted it.
-/

namespace DecisionFirewall.StageA

open Lib.Table

/-! ## §1 Writes to one request -/

/-- Only rows of the request `k` differ. -/
structure RequestWrite (L L' : Ledger) (k : RequestKey) : Prop where
  requests : SameElsewhere (fun r => some r.key) k L.requests L'.requests
  authorizations : SameElsewhere AuthorizationRow.requestKey k L.authorizations L'.authorizations
  attempts : SameElsewhere AttemptRow.requestKey k L.attempts L'.attempts
  requestResults : SameElsewhere (fun x => some x.key) k L.requestResults L'.requestResults

namespace RequestWrite

variable {L L' : Ledger} {k : RequestKey}

theorem mem_requests (h : RequestWrite L L' k) {r : RequestRow} (hr : r.key ≠ k) :
    r ∈ L'.requests ↔ r ∈ L.requests :=
  h.requests.mem (by simpa using hr)

theorem mem_results (h : RequestWrite L L' k) {x : ResultRow} (hx : x.key ≠ k) :
    x ∈ L'.requestResults ↔ x ∈ L.requestResults :=
  h.requestResults.mem (by simpa using hx)

theorem mem_authorizations (h : RequestWrite L L' k) {a : AuthorizationRow}
    (ha : a.requestKey ≠ some k) : a ∈ L'.authorizations ↔ a ∈ L.authorizations :=
  h.authorizations.mem ha

theorem mem_attempts (h : RequestWrite L L' k) {t : AttemptRow}
    (ht : t.requestKey ≠ some k) : t ∈ L'.attempts ↔ t ∈ L.attempts :=
  h.attempts.mem ht

/-- The rows of another request are selected as before. -/
theorem group_of_ne (h : RequestWrite L L' k) {k' : RequestKey} (hk : k' ≠ k) :
    L'.group k' = L.group k' := by
  have hsome : some k' ≠ some k := by simpa using hk
  have hresults : L'.resultsOf k' = L.resultsOf k' := by
    simpa [Ledger.resultsOf] using h.requestResults (some k') hsome
  simp only [Ledger.group, hresults]
  rw [show L'.authorizationsOf k' = L.authorizationsOf k' from h.authorizations _ hsome,
    show L'.attemptsOf k' = L.attemptsOf k' from h.attempts _ hsome]

end RequestWrite

/-- The authorization of a linked attempt belongs to the attempt's request. -/
theorem Ledger.SchemaOk.requestKey_of_token {L : Ledger} (h : L.SchemaOk) {a : AuthorizationRow}
    {t : AttemptRow} (ha : a ∈ L.authorizations) (ht : t ∈ L.attempts) {k : RequestKey}
    (hk : t.requestKey = some k) (htoken : a.tokenId = t.tokenId) : a.requestKey = some k := by
  simp only [AttemptRow.requestKey, Option.map_eq_some_iff] at hk
  obtain ⟨l, hl, rfl⟩ := hk
  obtain ⟨b, hb, hbt, al, hal, hkey, -⟩ := h.attemptFk t ht l hl
  rw [eq_of_nodup_key h.tokenIds ha hb (htoken.trans hbt.symm)]
  simp only [Option.mem_def] at hal
  simp [AuthorizationRow.requestKey, hal, hkey]

section Group

variable {rt : Runtime} {L L' : Ledger} {k : RequestKey}

/-- Another request's authorization keeps its attempt. -/
theorem RequestWrite.attemptByToken (h : RequestWrite L L' k) (hs : L.SchemaOk)
    (hs' : L'.SchemaOk) {a : AuthorizationRow} (ha : a ∈ L.authorizations)
    (hk : a.requestKey ≠ some k) : L'.attemptByToken a.tokenId = L.attemptByToken a.tokenId := by
  have ha' := (h.mem_authorizations hk).mpr ha
  apply Option.ext
  intro t
  rw [Ledger.attemptByToken_eq_some hs, Ledger.attemptByToken_eq_some hs']
  constructor
  · rintro ⟨ht, htoken⟩
    have hne : t.requestKey ≠ some k := fun hkey =>
      hk (hs'.requestKey_of_token ha' ht hkey htoken.symm)
    exact ⟨(h.mem_attempts hne).mp ht, htoken⟩
  · rintro ⟨ht, htoken⟩
    have hne : t.requestKey ≠ some k := fun hkey =>
      hk (hs.requestKey_of_token ha ht hkey htoken.symm)
    exact ⟨(h.mem_attempts hne).mpr ht, htoken⟩

/-- The expected events of one request's rows. -/
def groupEvents (rt : Runtime) (L : Ledger) (k : RequestKey) : List ExpectedEvent :=
  (L.requestsOf k).flatMap (requestEvents rt) ++
    (L.attemptsOf k).flatMap (attemptEvents rt) ++
    (L.authorizationsOf k).flatMap (authorizationEvents rt L) ++
    (L.resultsOf k).flatMap (resultEvents rt)

theorem mem_groupEvents {e : ExpectedEvent} :
    e ∈ groupEvents rt L k ↔
      (∃ r ∈ L.requestsOf k, e ∈ requestEvents rt r) ∨
      (∃ t ∈ L.attemptsOf k, e ∈ attemptEvents rt t) ∨
      (∃ a ∈ L.authorizationsOf k, e ∈ authorizationEvents rt L a) ∨
      ∃ x ∈ L.resultsOf k, e ∈ resultEvents rt x := by
  simp only [groupEvents, List.mem_append, List.mem_flatMap, or_assoc]

theorem mem_expectedEvents_of_group {e : ExpectedEvent} (h : e ∈ groupEvents rt L k) :
    e ∈ expectedEvents rt L := by
  rw [mem_expectedEvents]
  rcases mem_groupEvents.mp h with ⟨r, hr, he⟩ | ⟨t, ht, he⟩ | ⟨a, ha, he⟩ | ⟨x, hx, he⟩
  · exact .inl ⟨r, (Ledger.mem_requestsOf.mp hr).1, he⟩
  · exact .inr (.inl ⟨t, (Ledger.mem_attemptsOf.mp ht).1, he⟩)
  · exact .inr (.inr (.inl ⟨a, (Ledger.mem_authorizationsOf.mp ha).1, he⟩))
  · exact .inr (.inr (.inr ⟨x, (Ledger.mem_resultsOf.mp hx).1, he⟩))

/-- An event belongs to the request `k` or is called for by the rest of both ledgers. -/
theorem RequestWrite.mem_expectedEvents_cases (h : RequestWrite L L' k) (hs : L.SchemaOk)
    (hs' : L'.SchemaOk) {e : ExpectedEvent} (he : e ∈ expectedEvents rt L) :
    e ∈ groupEvents rt L k ∨ e ∈ expectedEvents rt L' := by
  rw [mem_groupEvents, mem_expectedEvents]
  rcases mem_expectedEvents.mp he with ⟨r, hr, he⟩ | ⟨t, ht, he⟩ | ⟨a, ha, he⟩ | ⟨x, hx, he⟩
  · by_cases hk : r.key = k
    · exact .inl (.inl ⟨r, Ledger.mem_requestsOf.mpr ⟨hr, hk⟩, he⟩)
    · exact .inr (.inl ⟨r, (h.mem_requests hk).mpr hr, he⟩)
  · by_cases hk : t.requestKey = some k
    · exact .inl (.inr (.inl ⟨t, Ledger.mem_attemptsOf.mpr ⟨ht, hk⟩, he⟩))
    · exact .inr (.inr (.inl ⟨t, (h.mem_attempts hk).mpr ht, he⟩))
  · by_cases hk : a.requestKey = some k
    · exact .inl (.inr (.inr (.inl ⟨a, Ledger.mem_authorizationsOf.mpr ⟨ha, hk⟩, he⟩)))
    · refine .inr (.inr (.inr (.inl ⟨a, (h.mem_authorizations hk).mpr ha, ?_⟩)))
      rw [authorizationEvents, h.attemptByToken hs hs' ha hk]
      exact he
  · by_cases hk : x.key = k
    · exact .inl (.inr (.inr (.inr ⟨x, Ledger.mem_resultsOf.mpr ⟨hx, hk⟩, he⟩)))
    · exact .inr (.inr (.inr (.inr ⟨x, (h.mem_results hk).mpr hx, he⟩)))

theorem RequestWrite.symm (h : RequestWrite L L' k) : RequestWrite L' L k :=
  ⟨fun c hc => (h.requests c hc).symm, fun c hc => (h.authorizations c hc).symm,
    fun c hc => (h.attempts c hc).symm, fun c hc => (h.requestResults c hc).symm⟩

end Group

/-! ## §2 The commit -/

/-- The order checks that concern one authorization, attempt or request row. -/
structure AuthorizationOrdered (L : Ledger) (a : AuthorizationRow) : Prop where
  claimed : ∀ k ∈ a.requestKey,
    L.EventBefore ⟨.requestClaimed, k.subject⟩ ⟨.authorizationIssued, a.tokenId⟩
  consumed : L.EventBefore ⟨.authorizationIssued, a.tokenId⟩ ⟨.authorizationConsumed, a.tokenId⟩
  revoked : L.EventBefore ⟨.authorizationIssued, a.tokenId⟩ ⟨.authorizationRevoked, a.tokenId⟩

structure AttemptOrdered (L : Ledger) (t : AttemptRow) : Prop where
  consumed : L.EventBefore ⟨.attemptReserved, t.attemptId⟩ ⟨.authorizationConsumed, t.tokenId⟩
  order : AttemptOrderOk L t

/-- What the receipt event of an attempt must satisfy. -/
def ReceiptBetween (rt : Runtime) (t : AttemptRow) (o : OutboxRow) : Prop :=
  o.key = ⟨.adapterReceiptRecorded, t.attemptId⟩ →
    rt.AtMost t.reservedAt o.createdAt ∧ ∀ c ∈ t.state.completedAt, rt.AtMost o.createdAt c

/-- A commit that changes the rows of request `k` and appends `rows`. -/
structure RequestCommit (rt : Runtime) (L L' : Ledger) (k : RequestKey) (rows : List OutboxRow) :
    Prop where
  write : RequestWrite L L' k
  schema : L'.SchemaOk
  subjects : (L'.requests.map fun r => r.key.subject).Nodup
  outbox : L'.auditOutbox = L.auditOutbox ++ rows
  sequence : L'.sequence = L.sequence + rows.length
  rowIds : rows.map OutboxRow.eventId = List.range' (L.sequence + 1) rows.length
  rowsOk : ∀ o ∈ rows, OutboxRowOk rt o
  distinct : (rows.map OutboxRow.key).Nodup
  fresh : ∀ o ∈ rows, ¬ L.Emitted o.key
  request : ∀ r ∈ L'.requestsOf k, RequestOk rt r (L'.group k)
  kept : ∀ e ∈ groupEvents rt L k, ∃ e' ∈ groupEvents rt L' k, e'.Weakens e
  matched : ∀ o ∈ rows, ∃ e ∈ groupEvents rt L' k, o.Matches e
  covered : ∀ e' ∈ groupEvents rt L' k, e'.required = true →
    (∃ e ∈ groupEvents rt L k, e.required = true ∧ e.key = e'.key) ∨ ∃ o ∈ rows, o.key = e'.key
  receipts : ∀ t ∈ L'.attemptsOf k, ∀ o ∈ L'.auditOutbox, ReceiptBetween rt t o
  authorizationsOrdered : ∀ a ∈ L'.authorizationsOf k, AuthorizationOrdered L' a
  attemptsOrdered : ∀ t ∈ L'.attemptsOf k, AttemptOrdered L' t
  requestOrdered : ∀ r ∈ L'.requestsOf k,
    L'.EventBefore ⟨.requestClaimed, r.key.subject⟩ ⟨.requestTerminal, r.key.subject⟩

section Appended

variable {rt : Runtime} {L L' : Ledger} {rows : List OutboxRow}

theorem ControlRelationsOk.eventId_le (h : ControlRelationsOk rt L) :
    ∀ o ∈ L.auditOutbox, o.eventId ≤ L.sequence := by
  intro o ho
  have hmem : o.eventId ∈ List.range' 1 L.auditOutbox.length :=
    h.contiguous ▸ List.mem_map_of_mem ho
  rw [List.mem_range'_1] at hmem
  have := h.sequence
  omega

/-- New identifiers continue the old ones. -/
theorem ControlRelationsOk.lt_rows (h : ControlRelationsOk rt L)
    (hids : rows.map OutboxRow.eventId = List.range' (L.sequence + 1) rows.length) :
    ∀ o ∈ L.auditOutbox, ∀ o' ∈ rows, o.eventId < o'.eventId := by
  intro o ho o' ho'
  have hold := h.eventId_le o ho
  have hnew : o'.eventId ∈ List.range' (L.sequence + 1) rows.length :=
    hids ▸ List.mem_map_of_mem ho'
  rw [List.mem_range'_1] at hnew
  omega

theorem nodup_keys_append (hL : Accepted rt L) (hout : L'.auditOutbox = L.auditOutbox ++ rows)
    (hdistinct : (rows.map OutboxRow.key).Nodup) (hfresh : ∀ o ∈ rows, ¬ L.Emitted o.key) :
    (L'.auditOutbox.map OutboxRow.key).Nodup := by
  rw [hout, List.map_append, List.nodup_append]
  refine ⟨hL.relations.projection.observedKeys, hdistinct, ?_⟩
  rintro _ hold _ hnew rfl
  obtain ⟨o, ho, rfl⟩ := List.mem_map.mp hold
  obtain ⟨o', ho', hkey⟩ := List.mem_map.mp hnew
  exact hfresh o' ho' (hkey ▸ hL.relations.projection.emitted ho)

end Appended

namespace RequestCommit

variable {rt : Runtime} {L L' : Ledger} {k : RequestKey} {rows : List OutboxRow}

theorem eventsAppended (h : RequestCommit rt L L' k rows) (hs : L.SchemaOk) :
    EventsAppended rt L L' rows where
  outbox := h.outbox
  kept e he := by
    rcases h.write.mem_expectedEvents_cases hs h.schema he with he | he
    · obtain ⟨e', he', hweak⟩ := h.kept e he
      exact ⟨e', mem_expectedEvents_of_group he', hweak⟩
    · exact ⟨e, he, .refl e⟩
  matched o ho := by
    obtain ⟨e, he, hmatch⟩ := h.matched o ho
    exact ⟨e, mem_expectedEvents_of_group he, hmatch⟩
  covered e' he' hreq := by
    rcases h.write.symm.mem_expectedEvents_cases h.schema hs he' with he | he
    · rcases h.covered e' he hreq with ⟨e, he, hreq, hkey⟩ | hrow
      · exact .inl ⟨e, mem_expectedEvents_of_group he, hreq, hkey⟩
      · exact .inr hrow
    · exact .inl ⟨e', he, hreq, rfl⟩

theorem before (h : RequestCommit rt L L' k rows) (hL : ControlRelationsOk rt L)
    {first second : EventKey} (hfirst : ∀ o ∈ rows, o.key ≠ first)
    (hold : L.EventBefore first second) : L'.EventBefore first second :=
  eventBefore_append h.outbox (hL.lt_rows h.rowIds) hfirst hold

/-- An event that has its row in the old ledger is not written again. -/
theorem not_row_of_emitted (h : RequestCommit rt L L' k rows) {key : EventKey}
    (hkey : L.Emitted key) : ∀ o ∈ rows, o.key ≠ key :=
  fun o ho hne => h.fresh o ho (hne ▸ hkey)

/-- No attempt event of another request is among the new rows. -/
theorem not_row_of_attempt (h : RequestCommit rt L L' k rows) {t : AttemptRow}
    (ht : t ∈ L'.attempts) (hk : t.requestKey ≠ some k) (type : EventType)
    (htype : type.owner = 1) : ∀ o ∈ rows, o.key ≠ ⟨type, t.attemptId⟩ := by
  intro o ho hne
  obtain ⟨e, he, hmatch⟩ := h.matched o ho
  have hek : e.key = ⟨type, t.attemptId⟩ := hmatch.1.trans hne
  rcases mem_groupEvents.mp he with ⟨r, -, he⟩ | ⟨u, hu, he⟩ | ⟨a, -, he⟩ | ⟨x, -, he⟩
  · rw [key_of_mem_requestEvents he] at hek
    have hcases : _ = type := congrArg EventKey.eventType hek
    simp [← hcases, EventType.owner] at htype
  · obtain ⟨hu, huk⟩ := Ledger.mem_attemptsOf.mp hu
    have hid : u.attemptId = t.attemptId := by
      rw [← (key_of_mem_attemptEvents he).1, hek]
    rw [eq_of_nodup_key h.schema.attemptIds hu ht hid] at huk
    exact hk huk
  · have := owner_authorizationEvents he
    rw [hek] at this
    rw [htype] at this
    exact absurd this (by decide)
  · rw [key_of_mem_resultEvents he] at hek
    have hcases : _ = type := congrArg EventKey.eventType hek
    simp [← hcases, EventType.owner] at htype

theorem ordered (h : RequestCommit rt L L' k rows) (hL : Accepted rt L) : OrderedEvents L' := by
  have hold := hL.relations.projection.ordered hL.schema
  have hbefore : ∀ {first second : EventKey}, (∀ o ∈ rows, o.key ≠ first) →
      L.EventBefore first second → L'.EventBefore first second := h.before hL.relations
  have hauth : ∀ a ∈ L'.authorizations, a.requestKey ≠ some k → AuthorizationOrdered L' a := by
    intro a ha hk
    have ha' := (h.write.mem_authorizations hk).mp ha
    have hissued := h.not_row_of_emitted
      (show L.Emitted ⟨.authorizationIssued, a.tokenId⟩ from ⟨a, ha', rfl⟩)
    refine ⟨fun k' hk' => hbefore (h.not_row_of_emitted ?_) (hold.claimedIssued a ha' k' hk'),
      hbefore hissued (hold.issuedConsumed a ha'), hbefore hissued (hold.issuedRevoked a ha')⟩
    simp only [AuthorizationRow.requestKey, Option.mem_def, Option.map_eq_some_iff] at hk'
    obtain ⟨l, hl, rfl⟩ := hk'
    obtain ⟨r, hr, hrk, -⟩ := hL.schema.authorizationFk a ha' l hl
    exact ⟨r, hr, by rw [hrk]⟩
  have hattempt : ∀ t ∈ L'.attempts, t.requestKey ≠ some k → AttemptOrdered L' t := by
    intro t ht hk
    have ht' := (h.write.mem_attempts hk).mp ht
    have hreserved := h.not_row_of_attempt ht hk .attemptReserved rfl
    have hreceipt := h.not_row_of_attempt ht hk .adapterReceiptRecorded rfl
    refine ⟨hbefore hreserved (hold.reservedConsumed t ht'),
      ⟨hbefore hreserved (hold.attempts t ht').receipt, fun e he => ?_⟩⟩
    obtain ⟨h1, h2, h3⟩ := (hold.attempts t ht').terminal e he
    have hterminal : ∀ o ∈ rows, o.key ≠ ⟨e, t.attemptId⟩ := by
      apply h.not_row_of_attempt ht hk e
      rcases List.mem_cons.mp he with rfl | he
      · rfl
      · rw [List.mem_singleton.mp he]; rfl
    exact ⟨hbefore hreserved h1, hbefore hreceipt h2, fun k' hk' => hbefore hterminal (h3 k' hk')⟩
  have hauth' : ∀ a ∈ L'.authorizations, AuthorizationOrdered L' a := by
    intro a ha
    by_cases hk : a.requestKey = some k
    · exact h.authorizationsOrdered a (Ledger.mem_authorizationsOf.mpr ⟨ha, hk⟩)
    · exact hauth a ha hk
  have hattempt' : ∀ t ∈ L'.attempts, AttemptOrdered L' t := by
    intro t ht
    by_cases hk : t.requestKey = some k
    · exact h.attemptsOrdered t (Ledger.mem_attemptsOf.mpr ⟨ht, hk⟩)
    · exact hattempt t ht hk
  refine ⟨fun a ha => (hauth' a ha).claimed, fun a ha => (hauth' a ha).consumed,
    fun t ht => (hattempt' t ht).consumed, fun a ha => (hauth' a ha).revoked, ?_,
    fun t ht => (hattempt' t ht).order⟩
  intro r hr
  by_cases hk : r.key = k
  · exact h.requestOrdered r (Ledger.mem_requestsOf.mpr ⟨hr, hk⟩)
  · have hr' := (h.write.mem_requests hk).mp hr
    exact hbefore (h.not_row_of_emitted ⟨r, hr', rfl⟩) (hold.claimedTerminal r hr')

theorem observedKeys (h : RequestCommit rt L L' k rows) (hL : Accepted rt L) :
    (L'.auditOutbox.map OutboxRow.key).Nodup :=
  nodup_keys_append hL h.outbox h.distinct h.fresh

theorem eventId_of_not_row (h : RequestCommit rt L L' k rows) {key : EventKey}
    (hkey : ∀ o ∈ rows, o.key ≠ key) : L'.eventId key = L.eventId key := by
  have : rows.find? (fun o => o.key = key) = none := by
    rw [List.find?_eq_none]
    intro o ho
    simpa using hkey o ho
  simp [Ledger.eventId, h.outbox, List.find?_append, this]

/-- The receipt checks, for the attempts of every request. -/
theorem receiptChronology (h : RequestCommit rt L L' k rows) (hL : Accepted rt L) :
    ∀ o ∈ L'.auditOutbox, ReceiptChronologyOk rt L' o := by
  intro o ho htype t ht hid
  have hkey : o.key = ⟨.adapterReceiptRecorded, t.attemptId⟩ := by
    simp [OutboxRow.key, htype, hid]
  by_cases hk : t.requestKey = some k
  · exact h.receipts t (Ledger.mem_attemptsOf.mpr ⟨ht, hk⟩) o ho hkey
  · rw [h.outbox, List.mem_append] at ho
    rcases ho with ho | ho
    · exact hL.relations.projection.receiptChronology o ho htype t
        ((h.write.mem_attempts hk).mp ht) hid
    · exact absurd hkey (h.not_row_of_attempt ht hk _ rfl o ho)

theorem projection (h : RequestCommit rt L L' k rows) (hL : Accepted rt L) :
    OutboxProjectionOk rt L' where
  expectedKeys := (expectedKeys_nodup_iff h.schema).mpr h.subjects
  observedKeys := h.observedKeys hL
  matched _ ho := (h.eventsAppended hL.schema).matched_all hL.relations.projection ho
  receiptChronology := h.receiptChronology hL
  covered _ he hreq := (h.eventsAppended hL.schema).covered_all hL.relations.projection he hreq
  unknownGroups t ht hu := by
    have hk : t.requestKey ≠ some k := by simp [AttemptRow.requestKey, hu.1]
    rw [h.eventId_of_not_row (h.not_row_of_attempt ht hk .attemptTerminal rfl),
      h.eventId_of_not_row (h.not_row_of_attempt ht hk .attemptRecoveredUnknown rfl)]
    exact hL.relations.projection.unknownGroups t ((h.write.mem_attempts hk).mp ht) hu
  authorizationOrder _ ha := (h.ordered hL).authorizationOrder h.schema ha
  requestOrder := (h.ordered hL).claimedTerminal
  attemptOrder := (h.ordered hL).attempts

/-- The frame rule: the validator accepts the whole ledger again. -/
theorem accepted (h : RequestCommit rt L L' k rows) (hL : Accepted rt L) : Accepted rt L' := by
  refine ⟨h.schema, ?_⟩
  constructor
  · intro r hr
    by_cases hk : r.key = k
    · rw [hk]
      exact h.request r (Ledger.mem_requestsOf.mpr ⟨hr, hk⟩)
    · rw [h.write.group_of_ne hk]
      exact hL.relations.requests r ((h.write.mem_requests hk).mp hr)
  · intro a ha hlink
    have hk : a.requestKey ≠ some k := by simp [AuthorizationRow.requestKey, hlink]
    exact hL.relations.unlinkedAuthorizations a ((h.write.mem_authorizations hk).mp ha) hlink
  · intro t ht hlink
    have hk : t.requestKey ≠ some k := by simp [AttemptRow.requestKey, hlink]
    have hok := hL.relations.unlinkedAttempts t ((h.write.mem_attempts hk).mp ht) hlink
    obtain ⟨a, ha, halink, hrest⟩ := hok.authority
    have hka : a.requestKey ≠ some k := by simp [AuthorizationRow.requestKey, halink]
    exact { hok with authority := ⟨a, (h.write.mem_authorizations hka).mpr ha, halink, hrest⟩ }
  · rw [h.outbox, List.map_append, hL.relations.contiguous, h.rowIds, List.length_append,
      hL.relations.sequence, ← List.range'_append_1, Nat.add_comm 1]
  · rw [h.sequence, h.outbox, List.length_append, hL.relations.sequence]
  · intro o ho
    rw [h.outbox, List.mem_append] at ho
    rcases ho with ho | ho
    · exact hL.relations.outboxRows o ho
    · exact h.rowsOk o ho
  · exact h.projection hL

end RequestCommit

end DecisionFirewall.StageA
