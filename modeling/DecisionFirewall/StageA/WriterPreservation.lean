import DecisionFirewall.StageA.CompletionCommits

/-!
# Writers Preserve the Validator

One statement about all six writers of request-linked rows: from an accepted ledger
a call raises and leaves every row unchanged, or commits a ledger that the validator
accepts again, exactly unless it takes one of two branches:

- a new claim whose subject is longer than the outbox admits, or is the subject of
  another request under a different event digest;
- a completion whose terminal time is longer than a durable timestamp, or earlier
  than the recorded receipt.
-/

namespace DecisionFirewall.StageA

open Lib.Table

/-! ## §1 What complete_request does -/

section Complete

variable {rt : Runtime} {L L' : Ledger} {stored : RequestLookupResult}
  {completion : Option AttemptCompletion}

/-- The completion closes the request, without or with its attempt. -/
def Closes (rt : Runtime) (L : Ledger) (stored : RequestLookupResult) :
    Option AttemptCompletion → Prop
  | none => ∃ r ∈ L.requests, NonexecutingClose rt L stored r
  | some c => ∃ t ∈ L.attempts, ∃ l ∈ t.link, ExecutingClose rt L stored c t l

/-- The ledger that a closing completion commits. -/
def closedLedger (rt : Runtime) (L : Ledger) (stored : RequestLookupResult) :
    Option AttemptCompletion → Ledger
  | none => storedLedger rt L stored
  | some c => completedLedger rt L stored c

theorem joinedAttempt_eq_some (hs : L.SchemaOk) {i : String} {k : RequestKey} {sha : String}
    {j : JoinedAttempt} :
    L.joinedAttempt i k sha = some j ↔
      j.row ∈ L.attempts ∧ j.row.attemptId = i ∧ j.row.link = some j.link ∧
        j.authorization ∈ L.authorizations ∧ j.authorization.tokenId = j.row.tokenId ∧
        j.link.key = k ∧ j.link.requestSha256 = sha := by
  have hjoin : ∀ t, L.join t = some j ↔ j.row = t ∧ t.link = some j.link ∧
      L.authorization t.tokenId = some j.authorization := by
    intro t
    obtain ⟨row, link, auth⟩ := j
    unfold Ledger.join
    cases t.link <;> cases L.authorization t.tokenId <;> simp [eq_comm]
  unfold Ledger.joinedAttempt
  constructor
  · intro h
    split at h
    · next j' hj' =>
      obtain ⟨t, ht, hjt⟩ := Option.bind_eq_some_iff.mp hj'
      split at h
      · next hkey =>
        cases h
        obtain ⟨rfl, hl, ha⟩ := (hjoin t).mp hjt
        obtain ⟨hmem, hid⟩ := (Ledger.attempt_eq_some hs).mp ht
        obtain ⟨hauth, htoken⟩ := (Ledger.authorization_eq_some hs).mp ha
        exact ⟨hmem, hid, hl, hauth, htoken, hkey⟩
      · cases h
    · cases h
  · rintro ⟨hmem, hid, hl, hauth, htoken, hkey⟩
    have ht := (Ledger.attempt_eq_some hs).mpr ⟨hmem, hid⟩
    have hj := (hjoin j.row).mpr ⟨rfl, hl, (Ledger.authorization_eq_some hs).mpr ⟨hauth, htoken⟩⟩
    simp [ht, hj, hkey]

/-- A completion repeats a stored result or closes the request. -/
theorem completeRequestBody_eq_ok (h : Accepted rt L) (hok : CompleteOk rt stored completion)
    {u : Unit} (hbody : completeRequestBody rt stored completion L = .ok (u, L')) :
    L' = L ∨ Closes rt L stored completion ∧ L' = closedLedger rt L stored completion ∧
      L'.SchemaOk := by
  unfold completeRequestBody at hbody
  cases hrequest : L.request stored.key with
  | none => simp [hrequest] at hbody
  | some r =>
    obtain ⟨hr, hrk⟩ := (Ledger.request_eq_some h.schema).mp hrequest
    simp only [hrequest, bind_eq_ok, require_eq_ok, exists_const] at hbody
    obtain ⟨hsha, hlater, attempt, hselect, hbody⟩ := hbody
    by_cases hterminal : r.state = .terminal
    · -- an exact repetition changes nothing
      rw [if_pos hterminal] at hbody
      simp only [repeatCompletion, require_bind_eq_ok, pure, Except.pure, Except.ok.injEq,
        Prod.mk.injEq] at hbody
      exact .inl hbody.2.2.2.symm
    · rw [if_neg hterminal] at hbody
      simp only [bind_eq_ok, require_eq_ok, exists_const] at hbody
      obtain ⟨hreserved, hstate, hclose, hresults, hbody⟩ := hbody
      cases completion with
      | none =>
        simp only [selectAttempt?, pure, Except.pure, Except.ok.injEq] at hselect
        subst hselect
        simp only [pure, Except.pure, bind_eq_ok, Except.ok.injEq, exists_eq_left'] at hbody
        obtain ⟨rfl, hschema⟩ := storeResult_eq_ok h.schema h.relations.eventId_le hbody
        exact .inr ⟨⟨r, hr, hr, hrk, hsha, hstate rfl, hlater, hclose rfl⟩, rfl, hschema⟩
      | some c =>
        simp only [selectAttempt?, selectAttempt, bind_eq_ok, pure, Except.pure,
          Except.ok.injEq] at hselect
        obtain ⟨j, hj, rfl⟩ := hselect
        split at hj
        · cases hj
        next j' hjoined =>
        simp only [require_bind_eq_ok, Except.ok.injEq] at hj
        obtain ⟨hreservedAt, -, hrepeats, rfl⟩ := hj
        obtain ⟨ht, hid, hl, -, -, hlk, hlsha⟩ := (joinedAttempt_eq_some h.schema).mp hjoined
        -- the request is `ATTEMPT_RESERVED`, so its attempt is open
        have hopen : j'.row.state.effect = none := by
          have hcoherent := (h.relations.requests r hr).coherent
          rw [hreserved rfl, lifecycleCoherent_attemptReserved, hrk] at hcoherent
          obtain ⟨a, t, hg, -, ht'⟩ := hcoherent
          have hmem : j'.row ∈ (L.group stored.key).attempts :=
            Ledger.mem_attemptsOf.mpr ⟨ht, by simp [AttemptRow.requestKey, hl, hlk]⟩
          rw [hg] at hmem
          rwa [← List.mem_singleton.mp hmem] at ht'
        simp only [bind_eq_ok] at hbody
        obtain ⟨L₁, hclosed, hstore⟩ := hbody
        obtain ⟨hreceipt, hevent, rfl⟩ := closeAttempt_eq_ok hopen hclosed
        have hcheck : (terminalState stored c).CheckOk :=
          fun hne => (hok.executing c rfl).receiptRequired hne
        have h₁ : (attemptClosedLedger rt L stored c).SchemaOk := (h.schema.updateAttempts
          (p := fun t => t.attemptId = c.attemptId ∧ t.state.effect = none) hcheck).insertOutbox
          rt h.relations.eventId_le (Ledger.insertOutbox_eq_ok.mpr ⟨hevent, rfl⟩)
        have hids : ∀ o ∈ (attemptClosedLedger rt L stored c).auditOutbox,
            o.eventId ≤ (attemptClosedLedger rt L stored c).sequence := by
          intro o ho
          rcases List.mem_append.mp ho with ho | ho
          · exact (h.relations.eventId_le o ho).trans (Nat.le_succ _)
          · rw [List.mem_singleton.mp ho]
            exact le_rfl
        obtain ⟨rfl, hschema⟩ := storeResult_eq_ok h₁ hids hstore
        exact .inr ⟨⟨j'.row, ht, j'.link, hl, ht, hid, hl, hlk, hlsha, hopen, hreceipt,
          hreservedAt, hrepeats.decisionId.symm, hrepeats.decisionOutcome.symm,
          hrepeats.decisionSha256.symm, hrepeats.decisionContextSha256.symm,
          hrepeats.policySha256.symm, hrepeats.decidedAt.symm⟩, rfl, hschema⟩

theorem storeResult_of_fresh (hkey : stored.key ∉ L.requestResults.map ResultRow.key)
    (hrequest : ∃ r ∈ L.requests, r.key = stored.key)
    (hevent : ∀ o ∈ L.auditOutbox, o.key ≠ ⟨.requestTerminal, stored.key.subject⟩) :
    storeResult rt stored L = .ok ((), storedLedger rt L stored) := by
  have hinsert : L.insertResult (storedResultRow rt stored) = .ok
      { L with requestResults := L.requestResults ++ [storedResultRow rt stored] } :=
    Ledger.insertResult_eq_ok.mpr ⟨⟨hkey, hrequest⟩, rfl⟩
  simp only [storeResult, bind_eq_ok, pure, Except.pure]
  refine ⟨_, hinsert, _, Ledger.insertOutbox_eq_ok.mpr ⟨?_, rfl⟩, rfl⟩
  rw [List.mem_map]
  rintro ⟨o, ho, hoe⟩
  exact hevent o ho (congrArg Prod.fst hoe)

theorem not_mem_resultKeys {k : RequestKey} (h : L.resultsOf k = []) :
    k ∉ L.requestResults.map ResultRow.key := by
  rw [List.mem_map]
  rintro ⟨x, hx, hk⟩
  have : x ∈ L.resultsOf k := Ledger.mem_resultsOf.mpr ⟨hx, hk⟩
  simp [h] at this

/-- Conversely a request that may be closed is closed. -/
theorem completeRequestBody_of_closes (h : Accepted rt L) (hok : CompleteOk rt stored completion)
    (hcloses : Closes rt L stored completion) :
    completeRequestBody rt stored completion L =
      .ok ((), closedLedger rt L stored completion) := by
  cases completion with
  | none =>
    obtain ⟨r, hr, hclose⟩ := hcloses
    have hfound := (Ledger.request_eq_some h.schema).mpr ⟨hr, hclose.key⟩
    have hresults : L.resultsOf stored.key = [] := by
      rcases hclose.group h hok with hg | ⟨a, t, hg, -⟩ <;> exact (Ledger.group_eq hg).2.2
    have hnotTerminal : r.state ≠ .terminal := by
      rcases hclose.state with hs | hs <;> simp [hs]
    have hevent := h.relations.projection.unobserved
      (not_emitted_requestTerminal h hr (by rw [hclose.key]; exact hresults))
    rw [hclose.key] at hevent
    simp only [completeRequestBody, hfound, bind_eq_ok, require_eq_ok, exists_const]
    refine ⟨hclose.requestSha256, hclose.later, none, rfl, ?_⟩
    rw [if_neg hnotTerminal]
    simp only [bind_eq_ok, require_eq_ok, exists_const]
    exact ⟨(by simp), fun _ => hclose.state, fun _ => hclose.close, hresults,
      L, rfl, storeResult_of_fresh (not_mem_resultKeys hresults) ⟨r, hr, hclose.key⟩ hevent⟩
  | some c =>
    obtain ⟨t, ht, l, hl, hclose⟩ := hcloses
    obtain ⟨r, a, al, hopen⟩ := h.of_open ht hl hclose.effect
    have hao := hopen.attemptOk
    have hr := hopen.request
    have hrk : r.key = stored.key := hopen.key.trans hclose.key
    have hfound := (Ledger.request_eq_some h.schema).mpr ⟨hr, hrk⟩
    have hgroup := hopen.group
    rw [hclose.key] at hgroup
    obtain ⟨-, -, hresults⟩ := Ledger.group_eq hgroup
    have hjoined : L.joinedAttempt c.attemptId stored.key stored.requestSha256 =
        some ⟨t, l, a⟩ :=
      (joinedAttempt_eq_some h.schema).mpr ⟨ht, hclose.attemptId, hl, hopen.authorization,
        hao.binding.1.symm, hclose.key, hclose.requestSha256⟩
    have hsb := hao.summaryBinding
    have hrepeats : SummaryRepeats ⟨t, l, a⟩ stored :=
      ⟨hsb.1.trans (congrArg RequestKey.principalId hrk),
        hsb.2.1.trans (congrArg RequestKey.requestId hrk),
        hsb.2.2.1.trans (hao.binding.2.2.1.symm.trans hclose.requestSha256), hsb.2.2.2.1,
        hclose.decision.1.symm, hclose.decision.2.1.symm, hclose.decision.2.2.1.symm,
        hclose.decision.2.2.2.1.symm, hclose.decision.2.2.2.2.1.symm,
        hclose.decision.2.2.2.2.2.symm⟩
    have hrequestEvent := h.relations.projection.unobserved
      (not_emitted_requestTerminal h hr (by rw [hrk]; exact hresults))
    rw [hrk] at hrequestEvent
    have hattemptEvent : (⟨.attemptTerminal, c.attemptId⟩, eventDigest rt
        ⟨.attemptTerminal, c.attemptId⟩
        (attemptTerminalPayload c.state c.outcomeSha256 c.adapterReceiptSha256)) ∉
        L.auditOutbox.map fun o => (o.key, o.payloadSha256) := by
      rw [List.mem_map]
      rintro ⟨o, ho, hoe⟩
      have hemitted := h.relations.projection.emitted ho
      rw [show o.key = _ from congrArg Prod.fst hoe] at hemitted
      obtain ⟨u, hu, hut, heffect⟩ := hemitted
      rw [eq_of_nodup_key h.schema.attemptIds hu ht (hut.trans hclose.attemptId.symm),
        hclose.effect] at heffect
      simp at heffect
    have hclosed : closeAttempt rt stored c ⟨t, l, a⟩ L =
        .ok (attemptClosedLedger rt L stored c) := by
      have hterminate : closeAttempt.terminate rt stored c L =
          .ok (attemptClosedLedger rt L stored c) :=
        Ledger.insertOutbox_eq_ok.mpr ⟨hattemptEvent, rfl⟩
      have hc := hok.executing c rfl
      have hreceipt := hclose.receipt
      unfold closeAttempt
      cases hs : t.state with
      | reserved =>
        have hnone : c.adapterReceiptSha256 = none := by
          simpa [hs, AttemptState.adapterReceiptSha256] using hreceipt.symm
        have hunknown : c.state = .unknownEffect := by
          by_contra hne
          simpa [hnone] using hc.receiptRequired hne
        simp only [require_bind_eq_ok]
        exact ⟨⟨hunknown, hnone⟩, hterminate⟩
      | receiptRecorded o rc =>
        have hsome : c.adapterReceiptSha256 = some rc := by
          simpa [hs, AttemptState.adapterReceiptSha256] using hreceipt.symm
        simp only [require_bind_eq_ok]
        exact ⟨hsome, hterminate⟩
      | terminal e o rc d =>
        have := hclose.effect
        simp [hs, AttemptState.effect] at this
    have hlater : rt.AtMost r.updatedAt stored.terminalAt := by
      rw [hao.reserved.2.2.2 hopen.state]
      exact hclose.later
    have hselect : selectAttempt? rt stored (some c) L = .ok (some (c, ⟨t, l, a⟩)) := by
      simp only [selectAttempt?, selectAttempt, hjoined, bind_eq_ok, require_eq_ok, exists_const,
        pure, Except.pure]
      exact ⟨_, ⟨hclose.later, hao.summaryIntegrity, hrepeats, rfl⟩, rfl⟩
    simp only [completeRequestBody, hfound, bind_eq_ok, require_eq_ok, exists_const]
    refine ⟨hopen.ok.attempt t (by simp) l hl |>.elim fun _ hx => hx.2.elim fun _ hy =>
      hy.2.binding.2.2.1.symm.trans hclose.requestSha256, hlater, _, hselect, ?_⟩
    rw [if_neg (by simp [hopen.state])]
    simp only [bind_eq_ok, require_eq_ok, exists_const]
    refine ⟨fun _ => hopen.state, (by simp), (by simp), hresults, _, hclosed, ?_⟩
    refine storeResult_of_fresh (L := attemptClosedLedger rt L stored c)
      (not_mem_resultKeys hresults) ⟨r, hr, hrk⟩ ?_
    intro o ho
    rcases List.mem_append.mp ho with ho | ho
    · exact hrequestEvent o ho
    · rw [List.mem_singleton.mp ho]
      simp [attemptTerminalRow]

/-- The terminal time fits a durable timestamp and follows the recorded receipt. -/
def TerminalTimeOk (rt : Runtime) (L : Ledger) (stored : RequestLookupResult)
    (completion : Option AttemptCompletion) : Prop :=
  stored.terminalAt.length ≤ 64 ∧ ∀ c ∈ completion, ReceiptInTime rt L stored c

instance : Decidable (TerminalTimeOk rt L stored completion) :=
  inferInstanceAs (Decidable (_ ∧ _))

/-- A closing completion writes. -/
theorem closedLedger_ne : closedLedger rt L stored completion ≠ L := by
  intro heq
  have hsequence := congrArg Ledger.sequence heq
  cases completion <;>
    simp only [closedLedger, storedLedger, completedLedger, attemptClosedLedger] at hsequence <;>
    omega

/-- A closing completion commits an accepted ledger exactly when its time fits. -/
theorem closedLedger_accepted_iff (h : Accepted rt L) (hok : CompleteOk rt stored completion)
    (hcloses : Closes rt L stored completion)
    (hschema : (closedLedger rt L stored completion).SchemaOk) :
    ControlRelationsOk rt (closedLedger rt L stored completion) ↔
      TerminalTimeOk rt L stored completion := by
  constructor
  · intro h'
    -- the last event carries the terminal time, the projection compares it with the receipt
    constructor
    · have hlast : ∃ o ∈ (closedLedger rt L stored completion).auditOutbox,
          o.createdAt = stored.terminalAt := by
        cases completion with
        | none => exact ⟨terminalRow rt L stored, by simp [closedLedger, storedLedger], rfl⟩
        | some c =>
          exact ⟨lastRow rt L stored c, by simp [closedLedger, completedLedger, storedLedger,
            lastRow], rfl⟩
      obtain ⟨o, ho, hat⟩ := hlast
      exact hat ▸ (h'.outboxRows o ho).createdAt.2.1
    · rintro c hc o ho hkey
      cases hc
      obtain ⟨t, ht, l, hl, hclose⟩ := hcloses
      have ht' : { t with state := terminalState stored c } ∈
          (closedLedger rt L stored (some c)).attempts :=
        mem_updateWhere.mpr ⟨t, ht, by simp [hclose.attemptId, hclose.effect]⟩
      have ho' : o ∈ (closedLedger rt L stored (some c)).auditOutbox := by
        simp [closedLedger, completedLedger, storedLedger, attemptClosedLedger, ho]
      exact (h'.projection.receiptChronology o ho' (congrArg EventKey.eventType hkey) _ ht'
        (hclose.attemptId.trans (congrArg EventKey.subjectId hkey).symm)).2 _ rfl
  · rintro ⟨hlength, hreceipt⟩
    have hat := hok.postInit.isOffsetTimestamp_iff.mpr hlength
    cases completion with
    | none =>
      obtain ⟨r, -, hclose⟩ := hcloses
      exact ((nonexecuting_commit h hclose hok hat hschema).accepted h).relations
    | some c =>
      obtain ⟨t, -, l, -, hclose⟩ := hcloses
      exact ((executing_commit h hclose hok hat (hreceipt c rfl) hschema).accepted h).relations

end Complete

/-! ## §2 The argument checks of the other writers -/

section Arguments

variable {rt : Runtime}

theorem requireIdentifier_eq_ok {value : Option String} {s : String} :
    requireIdentifier value = .ok s ↔ value = some s ∧ IsIdentifier s := by
  cases value with
  | none => simp [requireIdentifier]
  | some v =>
    simp only [requireIdentifier, require_bind_eq_ok, pure, Except.pure, Except.ok.injEq,
      Option.some.injEq]
    constructor
    · rintro ⟨h, rfl⟩
      exact ⟨rfl, h⟩
    · rintro ⟨rfl, h⟩
      exact ⟨h, rfl⟩

theorem requireSha256_eq_ok {value : Option String} {s : String} :
    requireSha256 value = .ok s ↔ value = some s ∧ IsSha256 s := by
  cases value with
  | none => simp [requireSha256]
  | some v =>
    simp only [requireSha256, require_bind_eq_ok, pure, Except.pure, Except.ok.injEq,
      Option.some.injEq]
    constructor
    · rintro ⟨h, rfl⟩
      exact ⟨rfl, h⟩
    · rintro ⟨rfl, h⟩
      exact ⟨h, rfl⟩

/-- A linked registration carries checked identifiers and digests. -/
structure LinkedRowOk (rt : Runtime) (a : AuthorizationRow) (l : AuthorizationLink) : Prop where
  link : a.link = some l
  state : a.state = .issued
  identifiers : IsIdentifier a.tokenId ∧ IsIdentifier a.verificationId ∧ IsIdentifier a.decisionId
  issuer : IsIdentifier l.issuerInstanceId ∧ IsIdentifier l.keyDomainId
  digests : IsSha256 l.requestSha256 ∧ IsSha256 l.unsignedTokenSha256 ∧
    IsSha256 l.decisionAuthorizationSha256
  issuedAt : rt.IsOffsetTimestamp a.issuedAt

theorem RegisterArgs.toRow_eq_ok {args : RegisterArgs} {a : AuthorizationRow}
    (hlinked : args.Linked) (h : args.toRow rt = .ok a) : ∃ l, LinkedRowOk rt a l := by
  simp only [RegisterArgs.toRow, RegisterArgs.toLink, if_pos hlinked, bind_eq_ok, require_eq_ok,
    exists_const, requireIdentifier_eq_ok, requireSha256_eq_ok, pure, Except.pure,
    Except.ok.injEq] at h
  obtain ⟨htoken, hverification, hdecision, hissued, _, ⟨_, -, _, -, _, ⟨-, hsha⟩, _, ⟨-, hunsigned⟩,
    _, ⟨-, hissuer⟩, _, ⟨-, hdomain⟩, _, ⟨-, hauthorization⟩, rfl⟩, rfl⟩ := h
  exact ⟨_, rfl, rfl, ⟨htoken, hverification, hdecision⟩, ⟨hissuer, hdomain⟩,
    ⟨hsha, hunsigned, hauthorization⟩, hissued⟩

theorem ConsumeArgs.check_eq_ok {args : ConsumeArgs} {now : String}
    {reservation : Option Reservation} {consumedAt : String}
    (h : args.check rt now = .ok (reservation, consumedAt)) {res : Reservation}
    {s : RecoverySummary} (hres : reservation = some res) (hs : args.recoverySummary = some s) :
    ReservationOk rt res s consumedAt := by
  subst hres
  simp only [ConsumeArgs.check, bind_eq_ok, require_eq_ok, exists_const, pure, Except.pure,
    Except.ok.injEq, Prod.mk.injEq] at h
  obtain ⟨-, _, hreservation, hat, rfl, rfl⟩ := h
  unfold ConsumeArgs.toReservation at hreservation
  split at hreservation
  · simp [pure, Except.pure] at hreservation
  · simp only [require_bind_eq_ok, pure, Except.pure, Except.ok.injEq,
      Option.some.injEq] at hreservation
    obtain ⟨hid, hbinding, -, -, hsame, hsummary, rfl⟩ := hreservation
    exact ⟨hid, hbinding, hsame, hsummary s hs, hat⟩
  · cases hreservation

end Arguments

/-! ## §3 Calls -/

/-- A call of one of the six writers. -/
inductive LedgerCall where
  | claimRequest (k : RequestKey) (requestSha256 claimedAt : String)
  | register (args : RegisterArgs)
  | consumeOnce (now : String) (args : ConsumeArgs)
  | recordAdapterReceipt
      (attemptId adapterReceiptSha256 receiptOutcomeSha256 recordedAt : String)
  | revokeIssuedForRequest (k : RequestKey) (requestSha256 : String)
      (operatorAssertedQuiesced : Bool) (revokedAt : String)
  | completeRequest (args : CompleteArgs)
  deriving DecidableEq, Repr

/-- Forgets what a call returns. -/
def Outcome.erase {α : Type} (o : Outcome α) : Outcome Unit :=
  ⟨o.result.map fun _ => (), o.ledger⟩

/-- Runs a call on a ledger. -/
def LedgerCall.run (rt : Runtime) (L : Ledger) : LedgerCall → Outcome Unit
  | .claimRequest k requestSha256 claimedAt => (StageA.claimRequest rt k requestSha256 claimedAt L).erase
  | .register args => StageA.register rt args L
  | .consumeOnce now args => StageA.consumeOnce rt now args L
  | .recordAdapterReceipt attemptId adapterReceiptSha256 receiptOutcomeSha256 recordedAt =>
    StageA.recordAdapterReceipt rt attemptId adapterReceiptSha256 receiptOutcomeSha256 recordedAt L
  | .revokeIssuedForRequest k requestSha256 operatorAssertedQuiesced revokedAt =>
    (StageA.revokeIssuedForRequest rt k requestSha256 operatorAssertedQuiesced revokedAt L).erase
  | .completeRequest args => StageA.completeRequest rt args L

/-- The call concerns a request-linked authorization: what it registers, consumes or
records a receipt for carries a request. -/
def LedgerCall.RequestLinked (L : Ledger) : LedgerCall → Prop
  | .register args => args.Linked
  | .consumeOnce _ args => ∀ a ∈ L.authorizations, a.tokenId = args.tokenId → a.link.isSome = true
  | .recordAdapterReceipt attemptId _ _ _ =>
    ∀ t ∈ L.attempts, t.attemptId = attemptId → t.link.isSome = true
  | .claimRequest _ _ _ | .revokeIssuedForRequest _ _ _ _ | .completeRequest _ => True

/-- It raised and left every row unchanged, or committed a state that
`_validate_control_relations` accepts. -/
def Outcome.Preserved {α : Type} (rt : Runtime) (L : Ledger) (o : Outcome α) : Prop :=
  match o.result with
  | .error _ => o.ledger = L
  | .ok _ => ControlRelationsOk rt o.ledger

/-- The branches that commit a ledger which is not accepted: a new claim whose subject
does not fit or is taken, and a completion whose terminal time does not fit. -/
def LedgerCall.CommitsUnaccepted (rt : Runtime) (L : Ledger) : LedgerCall → Prop
  | .claimRequest k requestSha256 claimedAt =>
    ClaimArgsOk rt k requestSha256 claimedAt ∧ L.request k = none ∧
      ¬ ClaimEventUsed rt L k requestSha256 ∧ (512 < k.subject.length ∨ SubjectTaken L k)
  | .completeRequest args =>
    ∃ completion, args.check rt = .ok completion ∧ Closes rt L args.result.stored completion ∧
      ¬ TerminalTimeOk rt L args.result.stored completion
  | .register _ | .consumeOnce _ _ | .recordAdapterReceipt _ _ _ _
  | .revokeIssuedForRequest _ _ _ _ => False

section Calls

variable {rt : Runtime} {L : Ledger}

/-- A writer raises, or its checks and its body succeed. -/
theorem checked_transaction_cases {α β : Type} (rt : Runtime) (L : Ledger)
    (check : Except LedgerError β) (body : β → Ledger → Except LedgerError (α × Ledger)) :
    (∃ e, checked L check (fun b => transaction rt L (body b)) = ⟨.error e, L⟩) ∨
      ∃ b a L', check = .ok b ∧ body b L = .ok (a, L') ∧
        checked L check (fun b => transaction rt L (body b)) = ⟨.ok a, L'⟩ := by
  cases check with
  | error e => exact .inl ⟨e, rfl⟩
  | ok b =>
    rcases transaction_cases rt L (body b) with ⟨e, he, -⟩ | ⟨a, L', hok, -, hb⟩
    · exact .inl ⟨e, he⟩
    · exact .inr ⟨b, a, L', rfl, hb, hok⟩

/-- The same about the state a writer leaves. -/
theorem checked_transaction_preserved {α β : Type} {P : Ledger → Prop} (hP : P L) {check : Except LedgerError β}
    {body : β → Ledger → Except LedgerError (α × Ledger)}
    (h : ∀ b a L', check = .ok b → body b L = .ok (a, L') → P L') :
    P (checked L check (fun b => transaction rt L (body b))).ledger := by
  rcases checked_transaction_cases rt L check body with ⟨e, he⟩ | ⟨b, a, L', hc, hb, hok⟩
  · rw [he]
    exact hP
  · rw [hok]
    exact h b a L' hc hb

/-- A raising writer changes nothing. -/
theorem checked_transaction_error {α β : Type} {check : Except LedgerError β}
    {body : β → Ledger → Except LedgerError (α × Ledger)} {e : LedgerError}
    (h : (checked L check (fun b => transaction rt L (body b))).result = .error e) :
    (checked L check (fun b => transaction rt L (body b))).ledger = L := by
  cases check with
  | error e => rfl
  | ok b =>
    rcases transaction_cases rt L (body b) with ⟨e', he, -⟩ | ⟨a, L', hok, -, hb⟩
    · simp only [checked, he]
    · simp [checked, hok] at h

theorem LedgerCall.ledger_of_error (call : LedgerCall) {e : LedgerError}
    (h : (call.run rt L).result = .error e) : (call.run rt L).ledger = L := by
  have herase : ∀ {α : Type} {o : Outcome α}, o.erase.result = .error e → o.result = .error e := by
    intro α o ho
    cases hr : o.result <;> simp_all [Outcome.erase, Except.map]
  cases call with
  | claimRequest k s a => exact checked_transaction_error (herase h)
  | register args => exact checked_transaction_error h
  | consumeOnce now args => exact checked_transaction_error h
  | recordAdapterReceipt i s o a => exact checked_transaction_error h
  | revokeIssuedForRequest k s q a => exact checked_transaction_error (herase h)
  | completeRequest args => exact checked_transaction_error h

/-- A call whose ledger the validator accepts has preserved it. -/
theorem LedgerCall.preserved_of_relations (call : LedgerCall)
    (h : ControlRelationsOk rt (call.run rt L).ledger) : (call.run rt L).Preserved rt L := by
  unfold Outcome.Preserved
  cases hr : (call.run rt L).result with
  | error e => exact call.ledger_of_error hr
  | ok u => exact h

theorem claimRequest_accepted (h : Accepted rt L) {k : RequestKey} {requestSha256 claimedAt : String}
    (hsafe : ¬ (LedgerCall.claimRequest k requestSha256 claimedAt).CommitsUnaccepted rt L) :
    Accepted rt (claimRequest rt k requestSha256 claimedAt L).ledger := by
  refine checked_transaction_preserved h ?_
  intro _ out L' hargs hbody
  rw [require_eq_ok] at hargs
  rw [onIntegrity_eq_ok] at hbody
  cases hk : L.request k with
  | some row =>
    rw [claimRequestBody_of_claimed hk] at hbody
    cases hbody
    exact h
  | none =>
    obtain ⟨hevent, -, rfl⟩ := (claimRequestBody_of_unclaimed hk).mp hbody
    have hsubject : ¬ (512 < k.subject.length ∨ SubjectTaken L k) :=
      fun hbad => hsafe ⟨hargs, hk, hevent, hbad⟩
    rw [not_or, not_lt] at hsubject
    exact (claim_commit h hargs hk hsubject.1 hsubject.2).accepted h

theorem register_accepted (h : Accepted rt L) {args : RegisterArgs} (hlinked : args.Linked) :
    Accepted rt (register rt args L).ledger := by
  refine checked_transaction_preserved h ?_
  intro a _ L' hrow hbody
  rw [onIntegrity_eq_ok] at hbody
  obtain ⟨l, hl, hstate, hids, hissuer, hdigests, hat⟩ := RegisterArgs.toRow_eq_ok hlinked hrow
  exact (register_commit h hl hstate hids hissuer hdigests hat hbody).accepted h

theorem consumeOnce_accepted (h : Accepted rt L) {now : String} {args : ConsumeArgs}
    (hlinked : (LedgerCall.consumeOnce now args).RequestLinked L) :
    Accepted rt (consumeOnce rt now args L).ledger := by
  refine checked_transaction_preserved h ?_
  rintro ⟨reservation, consumedAt⟩ _ L' hcheck hbody
  rw [onIntegrity_eq_ok] at hbody
  obtain ⟨a, l, res, s, ha, -, hl, hstate, hres, hs, htime, hbinds, hschema, hid, rfl⟩ :=
    consumeOnceBody_eq_ok h hlinked hbody
  exact (consume_commit h ha hl hstate (ConsumeArgs.check_eq_ok hcheck hres hs) htime hbinds
    hschema hid).accepted h

theorem recordAdapterReceipt_accepted (h : Accepted rt L)
    {attemptId adapterReceiptSha256 receiptOutcomeSha256 recordedAt : String}
    (hlinked : (LedgerCall.recordAdapterReceipt attemptId adapterReceiptSha256
      receiptOutcomeSha256 recordedAt).RequestLinked L) :
    Accepted rt (recordAdapterReceipt rt attemptId adapterReceiptSha256 receiptOutcomeSha256
      recordedAt L).ledger := by
  refine checked_transaction_preserved h ?_
  intro _ _ L' hargs hbody
  rw [require_eq_ok] at hargs
  rw [onIntegrity_eq_ok] at hbody
  rcases recordAdapterReceiptBody_eq_ok h hbody with rfl | ⟨t, ht, rfl, hs, htime, hevent, rfl⟩
  · exact h
  · obtain ⟨l, hl⟩ := Option.isSome_iff_exists.mp (hlinked t ht rfl)
    exact (receipt_commit h ht hl hs hargs htime hevent).accepted h

theorem revokeIssuedForRequest_accepted (h : Accepted rt L) {k : RequestKey}
    {requestSha256 revokedAt : String} {quiesced : Bool} :
    Accepted rt (revokeIssuedForRequest rt k requestSha256 quiesced revokedAt L).ledger := by
  refine checked_transaction_preserved h ?_
  intro _ _ L' hargs hbody
  simp only [checkRevokeArgs, require_bind_eq_ok, require_eq_ok] at hargs
  rw [onIntegrity_eq_ok] at hbody
  rcases revokeIssuedBody_eq_ok h hbody with rfl | ⟨a, l, ha, hl, -, hstate, hrevoke⟩
  · exact h
  · exact (revoke_commit h ha hl hstate hargs.2.2.2.2 hrevoke).accepted h

theorem completeRequest_accepted (h : Accepted rt L) {args : CompleteArgs}
    (hsafe : ¬ (LedgerCall.completeRequest args).CommitsUnaccepted rt L) :
    Accepted rt (completeRequest rt args L).ledger := by
  refine checked_transaction_preserved h ?_
  intro completion _ L' hcheck hbody
  rw [onIntegrity_eq_ok] at hbody
  have hok := CompleteArgs.check_eq_ok hcheck
  rcases completeRequestBody_eq_ok h hok hbody with rfl | ⟨hcloses, rfl, hschema⟩
  · exact h
  · have htime : TerminalTimeOk rt L args.result.stored completion := by
      by_contra hbad
      exact hsafe ⟨completion, hcheck, hcloses, hbad⟩
    exact ⟨hschema, (closedLedger_accepted_iff h hok hcloses hschema).mpr htime⟩

/-- A call outside the two branches leaves an accepted ledger. -/
theorem LedgerCall.accepted (h : Accepted rt L) {call : LedgerCall} (hlinked : call.RequestLinked L)
    (hsafe : ¬ call.CommitsUnaccepted rt L) : Accepted rt (call.run rt L).ledger := by
  cases call with
  | claimRequest k s a => exact claimRequest_accepted h hsafe
  | register args => exact register_accepted h hlinked
  | consumeOnce now args => exact consumeOnce_accepted h hlinked
  | recordAdapterReceipt i s o a => exact recordAdapterReceipt_accepted h hlinked
  | revokeIssuedForRequest k s q a => exact revokeIssuedForRequest_accepted h
  | completeRequest args => exact completeRequest_accepted h hsafe

/-- A call in one of the two branches commits a ledger that is not accepted. -/
theorem LedgerCall.not_preserved (h : Accepted rt L) {call : LedgerCall}
    (hbad : call.CommitsUnaccepted rt L) : ¬ (call.run rt L).Preserved rt L := by
  cases call with
  | claimRequest k s a =>
    obtain ⟨hargs, hk, hevent, hsubject⟩ := hbad
    have hbody : claimRequestBody rt k s a L = .ok (.new, claimedLedger rt L k s a) :=
      (claimRequestBody_of_unclaimed hk).mpr ⟨hevent, rfl, rfl⟩
    have hrun : StageA.claimRequest rt k s a L = ⟨.ok .new, claimedLedger rt L k s a⟩ := by
      have hcheck : require (ClaimArgsOk rt k s a) .bindingInvalid = .ok () := require_eq_ok.mpr hargs
      simp only [StageA.claimRequest, hcheck, checked]
      exact transaction_of_ok h.relations (onIntegrity_eq_ok.mpr hbody)
    simp only [LedgerCall.run, hrun, Outcome.erase, Outcome.Preserved, Except.map]
    rw [claimedLedger_accepted_iff h hargs hk hevent]
    rintro ⟨hlength, htaken⟩
    rcases hsubject with hlong | htaken'
    · omega
    · exact htaken htaken'
  | completeRequest args =>
    obtain ⟨completion, hcheck, hcloses, htime⟩ := hbad
    have hok := CompleteArgs.check_eq_ok hcheck
    have hbody := completeRequestBody_of_closes h hok hcloses
    have hrun : StageA.completeRequest rt args L =
        ⟨.ok (), closedLedger rt L args.result.stored completion⟩ := by
      simp only [StageA.completeRequest, hcheck, checked]
      exact transaction_of_ok h.relations (onIntegrity_eq_ok.mpr hbody)
    simp only [LedgerCall.run, hrun, Outcome.Preserved]
    intro haccepted
    rcases completeRequestBody_eq_ok h hok hbody with heq | ⟨-, -, hschema⟩
    · rw [heq] at haccepted
      exact closedLedger_ne heq
    · exact htime ((closedLedger_accepted_iff h hok hcloses hschema).mp haccepted)
  | register args => exact hbad.elim
  | consumeOnce now args => exact hbad.elim
  | recordAdapterReceipt i s o a => exact hbad.elim
  | revokeIssuedForRequest k s q a => exact hbad.elim

/-- From an accepted ledger a call on a request-linked authorization raises and leaves
every row unchanged or commits an accepted ledger, exactly outside the two branches. -/
theorem writer_preserves_iff (rt : Runtime) (L : Ledger) (call : LedgerCall)
    (h : Accepted rt L) (hlinked : call.RequestLinked L) :
    (call.run rt L).Preserved rt L ↔ ¬ call.CommitsUnaccepted rt L := by
  constructor
  · exact fun hpreserved hbad => call.not_preserved h hbad hpreserved
  · intro hsafe
    exact call.preserved_of_relations (LedgerCall.accepted h hlinked hsafe).relations

end Calls

/-- The digest of the text `request`. -/
def requestDigest : String := "1f58b9145b24d108d7ac38887338b3ea3229833b9c1e418250343f907bfd1047"

/-- The digests of the events of two claims of that request. -/
def newYearDigests : List (String × String) :=
  [(canonicalJson (.obj [("event_type", .str "REQUEST_CLAIMED"), ("subject_id", .str "alpha:r-1"),
      ("payload", requestClaimedPayload requestDigest)]),
    "0e754e1c21a7334bf8be34a7d4a3181db4727a428d78b90c6f2a627ff45ea162"),
   (canonicalJson (.obj [("event_type", .str "REQUEST_CLAIMED"), ("subject_id", .str "beta:r-1"),
      ("payload", requestClaimedPayload requestDigest)]),
    "0dbe97c90bfe298354e246ad236ea27048dde4319786c0c0f7ba4275f9a19aeb")]

/-- The first seconds of 2026, under those digests. -/
def newYearRuntime : Runtime :=
  .ofInstants Runtime.newYear (Runtime.ofDigests newYearDigests)
    (Runtime.ofDigests_isSha256 (by decide))

/-- A token for the request `r-1` of `alpha`. -/
def alphaRegistration : RegisterArgs :=
  ⟨"token-1", some "verification-1", some "decision-1", some "alpha", some "r-1",
    some requestDigest, some requestDigest, some "issuer", some "domain", some requestDigest,
    "2026-01-01T00:00:01+00:00"⟩

/-- Registering that token after the claim. -/
theorem writer_preserves_iff_register :
    let rt := newYearRuntime
    let L := claimedLedger rt .empty ⟨"alpha", "r-1"⟩ requestDigest "2026-01-01T00:00:00+00:00"
    ((LedgerCall.register alphaRegistration).run rt L).Preserved rt L := by
  intro rt L
  have hargs : ClaimArgsOk rt ⟨"alpha", "r-1"⟩ requestDigest "2026-01-01T00:00:00+00:00" :=
    ⟨by decide, by decide, by decide, by decide, by decide, rfl⟩
  have hL : Accepted rt L :=
    (claim_commit (.empty rt) hargs rfl (by decide) (by decide)).accepted (.empty rt)
  have hlinked : alphaRegistration.Linked := by decide
  exact (writer_preserves_iff rt L (.register alphaRegistration) hL hlinked).mpr id

/-- A claim commits a subject of any length. -/
theorem commitsUnaccepted_of_long {rt : Runtime} {L : Ledger} (h : Accepted rt L) {k : RequestKey}
    {requestSha256 claimedAt : String} (hargs : ClaimArgsOk rt k requestSha256 claimedAt)
    (hlong : 512 < k.principalId.length + 1 + k.requestId.length) :
    (LedgerCall.claimRequest k requestSha256 claimedAt).CommitsUnaccepted rt L := by
  rw [← RequestKey.length_subject] at hlong
  -- every subject in an accepted ledger is shorter
  have hother : ∀ r ∈ L.requests, r.key.subject ≠ k.subject := by
    intro r hr heq
    have hshort := h.length_subject_le hr
    rw [heq] at hshort
    omega
  refine ⟨hargs, ?_, ?_, .inl hlong⟩
  · rw [Ledger.request_eq_none]
    intro r hr heq
    exact hother r hr (by rw [heq])
  · intro hused
    obtain ⟨o, ho, hoe⟩ := List.mem_map.mp hused
    have hemitted := h.relations.projection.emitted ho
    rw [show o.key = claimEvent k from congrArg Prod.fst hoe] at hemitted
    obtain ⟨r, hr, hsubject⟩ := hemitted
    exact hother r hr hsubject

/-- An identifier of 300 characters. -/
@[irreducible] def longIdentifier (c : Char) : String := String.ofList (.replicate 300 c)

theorem length_longIdentifier (c : Char) : (longIdentifier c).length = 300 := by
  rw [longIdentifier, String.length_ofList, List.length_replicate]

theorem isIdentifier_longIdentifier (c : Char) : IsIdentifier (longIdentifier c) := by
  have hlength := length_longIdentifier c
  refine ⟨fun hempty => ?_, by omega⟩
  rw [hempty] at hlength
  simp at hlength

/-- A pair of two identifiers of 300 characters. -/
@[irreducible] def longKey : RequestKey := ⟨longIdentifier 'p', longIdentifier 'r'⟩

theorem longKey_principalId : longKey.principalId = longIdentifier 'p' := by rw [longKey]

theorem longKey_requestId : longKey.requestId = longIdentifier 'r' := by rw [longKey]

theorem length_longKey : 512 < longKey.principalId.length + 1 + longKey.requestId.length := by
  rw [longKey_principalId, longKey_requestId, length_longIdentifier, length_longIdentifier]
  omega

/-- Its claim passes the checks of `claim_request` and commits its subject. -/
theorem longClaim_commitsUnaccepted {rt : Runtime} {L : Ledger} (h : Accepted rt L)
    {claimedAt : String} (hat : rt.IsOffsetTimestamp claimedAt) :
    (LedgerCall.claimRequest longKey requestDigest claimedAt).CommitsUnaccepted rt L := by
  refine commitsUnaccepted_of_long h ⟨?_, ?_, by decide, hat⟩ length_longKey
  · rw [longKey_principalId]
    exact isIdentifier_longIdentifier 'p'
  · rw [longKey_requestId]
    exact isIdentifier_longIdentifier 'r'

/-- Two identifiers of 300 characters each pass the checks of `claim_request`, and their
subject of 601 characters does not pass the validator. -/
theorem writer_preservation_fails :
    ¬ ∃ (sha256 : String → String) (h : ∀ s, IsSha256 (sha256 s)),
      ∀ (L : Ledger) (call : LedgerCall),
        Accepted (.ofInstants Runtime.newYear sha256 h) L → call.RequestLinked L →
          (call.run (.ofInstants Runtime.newYear sha256 h) L).Preserved
            (.ofInstants Runtime.newYear sha256 h) L := by
  rintro ⟨sha256, h, hall⟩
  have hat : (Runtime.ofInstants Runtime.newYear sha256 h).IsOffsetTimestamp
      "2026-01-01T00:00:00+00:00" := ⟨by decide, by decide, rfl⟩
  exact LedgerCall.not_preserved (.empty _) (longClaim_commitsUnaccepted (.empty _) hat)
    (hall _ _ (.empty _) trivial)

end DecisionFirewall.StageA
