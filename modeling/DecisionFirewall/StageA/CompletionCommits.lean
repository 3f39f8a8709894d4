import DecisionFirewall.StageA.AttemptCommits

/-!
# Committing Terminal Results

`complete_request` on an accepted ledger. The writer compares the terminal time with
the request's last transition and the attempt's reservation, and takes the text of
that time from a constructor that bounds it by 512 characters only. The validator
bounds it by 64 and compares it with the time of the recorded receipt as well, so a
completion may commit a ledger that is not accepted; this file says exactly when.
-/

namespace DecisionFirewall.StageA

open Lib.Table

/-! ## §1 The argument checks -/

section Check

variable {rt : Runtime} {args : CompleteArgs} {completion : Option AttemptCompletion}

/-- What the argument checks of `complete_request` leave of an attempt's completion. -/
structure CompletionOk (rt : Runtime) (stored : RequestLookupResult) (c : AttemptCompletion) :
    Prop where
  attemptId : stored.attemptId = some c.attemptId
  outcomeIsSha256 : IsSha256 c.outcomeSha256
  receiptIsSha256 : ∀ s ∈ c.adapterReceiptSha256, IsSha256 s
  outcome : c.outcomeSha256 = terminalAttemptOutcomeSha256 rt stored c.state
  effect : stored.disposition.effectState = some c.state
  receipt : stored.adapterReceiptSha256 = c.adapterReceiptSha256
  receiptRequired : c.state ≠ .unknownEffect → c.adapterReceiptSha256.isSome = true

/-- What the argument checks leave of the whole call. -/
structure CompleteOk (rt : Runtime) (stored : RequestLookupResult)
    (completion : Option AttemptCompletion) : Prop where
  postInit : stored.PostInit rt
  size : (canonicalJson stored.toDict).length ≤ 32768
  notReplayed : stored.replayed = false
  nonexecuting : completion = none → stored.attemptId = none ∧
    (stored.disposition = .deniedNoEffect ∨ stored.disposition = .abortedNoEffect)
  executing : ∀ c ∈ completion, CompletionOk rt stored c

theorem CompleteArgs.check_eq_ok (h : args.check rt = .ok completion) :
    CompleteOk rt args.result.stored completion := by
  simp only [CompleteArgs.check, require_bind_eq_ok] at h
  obtain ⟨hpost, hsize, h⟩ := h
  split at h
  · next hid _ _ =>
    simp only [require_bind_eq_ok, pure, Except.pure, Except.ok.injEq] at h
    obtain ⟨hdisposition, rfl⟩ := h
    exact ⟨hpost, hsize, rfl, fun _ => ⟨hid, hdisposition⟩, by simp⟩
  · next hid _ _ =>
    simp only [require_bind_eq_ok, pure, Except.pure, Except.ok.injEq] at h
    obtain ⟨h1, h2, h3, h4, h5, h6, -, -, rfl⟩ := h
    refine ⟨hpost, hsize, rfl, (by simp), ?_⟩
    simp only [Option.mem_def, Option.some.injEq, forall_eq']
    exact ⟨hid, h1, h2, h3, h4, h5, h6⟩
  · cases h

/-- The terminal time of a result that was built parses; only its length may exceed
the bound of a durable timestamp. -/
theorem RequestLookupResult.PostInit.isOffsetTimestamp_iff {x : RequestLookupResult}
    (h : x.PostInit rt) : rt.IsOffsetTimestamp x.terminalAt ↔ x.terminalAt.length ≤ 64 := by
  constructor
  · exact fun hat => hat.2.1
  · intro hlength
    obtain ⟨-, y, -, hy, -⟩ := rt.atMost_iff.mp h.chronology
    exact ⟨h.terminalAt.1, hlength, by simp [hy]⟩

end Check

/-! ## §2 The transition without an attempt -/

section Nonexecuting

variable (rt : Runtime) (L : Ledger) (stored : RequestLookupResult)

/-- `state='TERMINAL', updated_at=terminal_at`. -/
def terminateRequest (r : RequestRow) : RequestRow :=
  { r with state := .terminal, updatedAt := stored.terminalAt }

/-- The last outbox row of a request. -/
def terminalRow : OutboxRow :=
  L.outboxRow rt ⟨.requestTerminal, stored.key.subject⟩
    (requestTerminalPayload (rt.sha256Json stored.toDict) stored.disposition) stored.terminalAt

/-- The ledger that `storeResult` leaves. -/
def storedLedger : Ledger :=
  { L with
    requests := updateWhere (fun r => r.key = stored.key ∧ r.state ≠ .terminal)
      (terminateRequest stored) L.requests
    requestResults := L.requestResults ++ [storedResultRow rt stored]
    auditOutbox := L.auditOutbox ++ [terminalRow rt L stored]
    sequence := L.sequence + 1 }

variable {rt L stored} {L' : Ledger}

theorem storeResult_eq_ok {u : Unit} (hs : L.SchemaOk)
    (hids : ∀ o ∈ L.auditOutbox, o.eventId ≤ L.sequence)
    (h : storeResult rt stored L = .ok (u, L')) :
    L' = storedLedger rt L stored ∧ L'.SchemaOk := by
  simp only [storeResult, bind_eq_ok, pure, Except.pure, Except.ok.injEq, Prod.mk.injEq] at h
  obtain ⟨L₁, hresult, L₂, hevent, -, rfl⟩ := h
  have h₁ := hs.insertResult hresult
  obtain ⟨-, rfl⟩ := Ledger.insertResult_eq_ok.mp hresult
  have h₂ := h₁.updateRequests (p := fun r => r.key = stored.key ∧ r.state ≠ .terminal)
    (f := terminateRequest stored) (fun _ => rfl) (fun _ => rfl)
  have h₃ := h₂.insertOutbox rt hids hevent
  obtain ⟨-, rfl⟩ := Ledger.insertOutbox_eq_ok.mp hevent
  exact ⟨rfl, h₃⟩

/-- A request that may be closed without an attempt. -/
structure NonexecutingClose (rt : Runtime) (L : Ledger) (stored : RequestLookupResult)
    (r : RequestRow) : Prop where
  request : r ∈ L.requests
  key : r.key = stored.key
  requestSha256 : r.requestSha256 = stored.requestSha256
  state : r.state = .claimed ∨ r.state = .authorized
  later : rt.AtMost r.updatedAt stored.terminalAt
  close : NonexecutingCloseOk rt stored L

/-- The rows of such a request: none, or one revoked authorization. -/
theorem NonexecutingClose.group {r : RequestRow} (h : Accepted rt L)
    (hclose : NonexecutingClose rt L stored r) (hok : CompleteOk rt stored none) :
    L.group stored.key = ⟨[], [], []⟩ ∨
      ∃ a t, L.group stored.key = ⟨[a], [], []⟩ ∧ stored.disposition = .abortedNoEffect ∧
        a.state.revokedAt = some t ∧ rt.AtMost t stored.terminalAt := by
  have hcoherent := (h.relations.requests r hclose.request).coherent
  rw [hclose.key] at hcoherent
  rcases hclose.state with hs | hs
  · rw [hs, lifecycleCoherent_claimed] at hcoherent
    exact .inl hcoherent
  · rw [hs, lifecycleCoherent_authorized] at hcoherent
    obtain ⟨a, hg, -⟩ := hcoherent
    obtain ⟨ha, -, -⟩ := Ledger.group_eq hg
    obtain ⟨hdenied, haborted⟩ := hclose.close a (by simp [ha])
    have hdisposition := ((hok.nonexecuting rfl).2).resolve_left hdenied
    obtain ⟨t, ht, hlater⟩ := haborted hdisposition
    exact .inr ⟨a, t, hg, hdisposition, ht, hlater⟩

/-- No result of a request that is not `TERMINAL` has been written. -/
theorem not_emitted_requestTerminal (h : Accepted rt L) {r : RequestRow} (hr : r ∈ L.requests)
    (hresults : L.resultsOf r.key = []) : ¬ L.Emitted ⟨.requestTerminal, r.key.subject⟩ := by
  rintro ⟨x, hx, hsubject⟩
  obtain ⟨r', hr', hrx⟩ := h.schema.resultFk x hx
  have hrr : r' = r := eq_of_nodup_key h.subjects hr' hr (by simp only [hrx]; exact hsubject)
  have : x ∈ L.resultsOf r.key := Ledger.mem_resultsOf.mpr ⟨hx, by rw [← hrx, hrr]⟩
  simp [hresults] at this

/-- Closing a request without an attempt commits when the terminal time fits. -/
theorem nonexecuting_commit (h : Accepted rt L) {r : RequestRow}
    (hclose : NonexecutingClose rt L stored r) (hok : CompleteOk rt stored none)
    (hat : rt.IsOffsetTimestamp stored.terminalAt)
    (hschema : (storedLedger rt L stored).SchemaOk) :
    RequestCommit rt L (storedLedger rt L stored) stored.key [terminalRow rt L stored] := by
  have hr := hclose.request
  have hkey := hclose.key
  have hokr := h.relations.requests r hr
  rw [hkey] at hokr
  have hgroups := hclose.group h hok
  obtain ⟨as, hgroup, hauths_of⟩ : ∃ as, L.group stored.key = ⟨as, [], []⟩ ∧
      (as = [] ∨ ∃ a t, as = [a] ∧ stored.disposition = .abortedNoEffect ∧
        a.state.revokedAt = some t ∧ rt.AtMost t stored.terminalAt) := by
    rcases hgroups with hg | ⟨a, t, hg, ht⟩
    · exact ⟨[], hg, .inl rfl⟩
    · exact ⟨[a], hg, .inr ⟨a, t, rfl, ht⟩⟩
  obtain ⟨hauths, hattempts, hresults⟩ := Ledger.group_eq hgroup
  have hrows : L.requestsOf stored.key = [r] := hkey ▸ Ledger.requestsOf_eq_singleton h.schema hr
  have hnotTerminal : r.state ≠ .terminal := by
    rcases hclose.state with hs | hs <;> simp [hs]
  have hrows' : (storedLedger rt L stored).requestsOf stored.key = [terminateRequest stored r] :=
    Ledger.requestsOf_update (f := terminateRequest stored) rfl (fun _ => rfl) hrows
      (by simp [hkey, hnotTerminal])
  have hgroup' : (storedLedger rt L stored).group stored.key =
      ⟨as, [], [storedResultRow rt stored]⟩ := by
    refine Ledger.group_mk hauths hattempts ?_
    have hinsert := Ledger.resultsOf_insert (k := stored.key) (L := L)
      (rfl : (storedLedger rt L stored).requestResults = _) rfl
    rwa [hresults] at hinsert
  obtain ⟨hauths', hattempts', -⟩ := Ledger.group_eq hgroup'
  have hfresh : ¬ L.Emitted ⟨.requestTerminal, stored.key.subject⟩ := by
    have := not_emitted_requestTerminal h hr (hkey ▸ hresults)
    rwa [hkey] at this
  have hrowFresh : ∀ o ∈ [terminalRow rt L stored], ¬ L.Emitted o.key := by
    simp only [List.mem_singleton, forall_eq]
    exact hfresh
  have hold := groupEvents_eq rt hrows hgroup
  have hnew := groupEvents_eq rt hrows' hgroup'
  simp only [List.flatMap_cons, List.flatMap_nil, List.append_nil] at hold hnew
  obtain ⟨hrids, htimes, -, hauthOk, -⟩ := hokr
  constructor
  case write =>
    refine ⟨.update ?_ fun _ => rfl, .refl, .refl, .append rfl⟩
    intro b _ hb
    simp only [decide_eq_true_eq] at hb
    simpa using hb.1
  case schema => exact hschema
  case subjects =>
    simp only [storedLedger]
    rw [map_updateWhere_of_eq fun _ _ => by rfl]
    exact h.subjects
  case outbox => rfl
  case sequence => rfl
  case rowIds => rfl
  case rowsOk =>
    simp only [List.mem_singleton, forall_eq]
    refine outboxRowOk_outboxRow ⟨?_, hkey ▸ h.length_subject_le hr⟩ hat
    intro hempty
    have := congrArg String.length hempty
    simp [RequestKey.length_subject] at this
  case distinct => simp
  case fresh => exact hrowFresh
  case request =>
    rw [hrows', hgroup']
    simp only [List.mem_singleton, forall_eq]
    constructor
    case identifiers => exact hrids
    case timestamps => exact ⟨htimes.1, hat, htimes.2.2.trans rt hclose.later⟩
    case coherent =>
      rcases hauths_of with rfl | ⟨a, t, rfl, -, ht, -⟩
      · exact lifecycleCoherent_terminal.mpr (.inl ⟨_, rfl⟩)
      · exact lifecycleCoherent_terminal.mpr (.inr (.inl ⟨a, _, rfl, by simp [ht]⟩))
    case authorization =>
      intro a ha l hl
      rw [hgroup] at hauthOk
      have haok := hauthOk a ha l hl
      exact { haok with issued := ⟨haok.issued.1, haok.issued.2.1, fun hs => by cases hs⟩ }
    case attempt => simp
    case result =>
      simp only [List.mem_singleton, forall_eq]
      exact ⟨hok.size, rfl, hok.postInit, hok.notReplayed,
        ⟨congrArg RequestKey.principalId hkey.symm, congrArg RequestKey.requestId hkey.symm,
          hclose.requestSha256.symm⟩, rfl, rfl⟩
    case nonexecuting =>
      simp only [List.mem_singleton, forall_eq]
      intro _
      refine ⟨(hok.nonexecuting rfl).1, ?_⟩
      rcases hauths_of with rfl | ⟨a, t, rfl, hdisposition, ht, hlater⟩
      · exact (hok.nonexecuting rfl).2
      · exact ⟨hdisposition, t, ht, hlater⟩
    case executing => simp
  case kept =>
    intro e he
    refine ⟨e, ?_, .refl e⟩
    rw [hold] at he
    rw [hnew]
    exact List.mem_append_left _ he
  case matched =>
    simp only [hnew, List.mem_singleton, forall_eq]
    exact ⟨_, List.mem_append_right _ (List.mem_singleton.mpr rfl), outboxRow_matches⟩
  case covered =>
    intro e he hreq
    rw [hnew] at he
    rw [hold]
    rcases List.mem_append.mp he with he | he
    · exact .inl ⟨e, he, hreq, rfl⟩
    · exact .inr ⟨_, List.mem_singleton.mpr rfl, by rw [List.mem_singleton.mp he]; rfl⟩
  case receipts => simp [hattempts']
  case authorizationsOrdered =>
    intro a ha
    have ha' : a ∈ L.authorizations := (Ledger.mem_authorizationsOf.mp ha).1
    exact authorizationOrdered_commit h rfl rfl hrowFresh ha' rfl rfl
  case attemptsOrdered => simp [hattempts']
  case requestOrdered =>
    simp only [hrows', List.mem_singleton, forall_eq]
    exact requestOrdered_commit (r := r) h rfl rfl hrowFresh hr

end Nonexecuting

/-! ## §3 The transition with an attempt -/

section Executing

variable (rt : Runtime) (L : Ledger) (stored : RequestLookupResult) (c : AttemptCompletion)

/-- The terminal state that a completion writes. -/
def terminalState : AttemptState :=
  .terminal c.state c.outcomeSha256 c.adapterReceiptSha256 stored.terminalAt

/-- The outbox row of the attempt's terminal transition. -/
def attemptTerminalRow : OutboxRow :=
  L.outboxRow rt ⟨.attemptTerminal, c.attemptId⟩
    (attemptTerminalPayload c.state c.outcomeSha256 c.adapterReceiptSha256) stored.terminalAt

/-- The ledger that `closeAttempt` leaves. -/
def attemptClosedLedger : Ledger :=
  { L with
    attempts := (L.updateAttempts (fun t => t.attemptId = c.attemptId ∧ t.state.effect = none)
      (terminalState stored c)).attempts
    auditOutbox := L.auditOutbox ++ [attemptTerminalRow rt L stored c]
    sequence := L.sequence + 1 }

/-- The ledger that a completion with an attempt commits. -/
def completedLedger : Ledger := storedLedger rt (attemptClosedLedger rt L stored c) stored

/-- The second row of such a completion. -/
def lastRow : OutboxRow := terminalRow rt (attemptClosedLedger rt L stored c) stored

variable {rt L stored c} {L' : Ledger} {t : AttemptRow} {l : AttemptLink}

/-- An attempt that a completion may close. -/
structure ExecutingClose (rt : Runtime) (L : Ledger) (stored : RequestLookupResult)
    (c : AttemptCompletion) (t : AttemptRow) (l : AttemptLink) : Prop where
  attempt : t ∈ L.attempts
  attemptId : t.attemptId = c.attemptId
  link : t.link = some l
  key : l.key = stored.key
  requestSha256 : l.requestSha256 = stored.requestSha256
  effect : t.state.effect = none
  receipt : t.state.adapterReceiptSha256 = c.adapterReceiptSha256
  later : rt.AtMost t.reservedAt stored.terminalAt
  decision : stored.decisionId = l.recoverySummary.decisionId ∧
    stored.decisionOutcome = l.recoverySummary.decisionOutcome ∧
    stored.decisionSha256 = l.recoverySummary.decisionSha256 ∧
    stored.decisionContextSha256 = l.recoverySummary.decisionContextSha256 ∧
    stored.policySha256 = l.recoverySummary.policySha256 ∧
    stored.decidedAt = l.recoverySummary.decidedAt

theorem closeAttempt_eq_ok {j : JoinedAttempt} (hopen : j.row.state.effect = none)
    (h : closeAttempt rt stored c j L = .ok L') :
    j.row.state.adapterReceiptSha256 = c.adapterReceiptSha256 ∧
      ((⟨.attemptTerminal, c.attemptId⟩, eventDigest rt ⟨.attemptTerminal, c.attemptId⟩
          (attemptTerminalPayload c.state c.outcomeSha256 c.adapterReceiptSha256)) ∉
        L.auditOutbox.map fun o => (o.key, o.payloadSha256)) ∧
      L' = attemptClosedLedger rt L stored c := by
  unfold closeAttempt at h
  cases hs : j.row.state with
  | reserved =>
    simp only [hs, require_bind_eq_ok, closeAttempt.terminate, Ledger.insertOutbox_eq_ok] at h
    obtain ⟨⟨-, hnone⟩, hevent, rfl⟩ := h
    exact ⟨by simp [AttemptState.adapterReceiptSha256, hnone], hevent, rfl⟩
  | receiptRecorded o r =>
    simp only [hs, require_bind_eq_ok, closeAttempt.terminate, Ledger.insertOutbox_eq_ok] at h
    obtain ⟨hsome, hevent, rfl⟩ := h
    exact ⟨by simp [AttemptState.adapterReceiptSha256, hsome], hevent, rfl⟩
  | terminal e o r d => simp [hs, AttemptState.effect] at hopen

/-- Closing an attempt keeps the request rows and the results. -/
theorem closeAttempt_keeps {j : JoinedAttempt} {M : Ledger}
    (h : closeAttempt rt stored c j L = .ok M) :
    M.requests = L.requests ∧ M.requestResults = L.requestResults := by
  have hterminate : closeAttempt.terminate rt stored c L = .ok M →
      M.requests = L.requests ∧ M.requestResults = L.requestResults := by
    intro h
    obtain ⟨-, rfl⟩ := Ledger.insertOutbox_eq_ok.mp h
    exact ⟨rfl, rfl⟩
  unfold closeAttempt at h
  cases hs : j.row.state with
  | terminal =>
    simp only [hs, bind_eq_ok, require_eq_ok, exists_const] at h
    cases h.2
    exact ⟨rfl, rfl⟩
  | reserved =>
    simp only [hs, bind_eq_ok, require_eq_ok, exists_const] at h
    exact hterminate h.2
  | receiptRecorded =>
    simp only [hs, bind_eq_ok, require_eq_ok, exists_const] at h
    exact hterminate h.2

/-- A linked attempt has one terminal event. -/
theorem attemptEvents_of_terminal {u : AttemptRow} {effect : EffectState} {outcome : String}
    {receipt : Option String} {completedAt : String}
    (hs : u.state = .terminal effect outcome receipt completedAt) (hl : u.link = some l) :
    attemptEvents rt u = attemptReservedEvent rt u :: ((if receipt.isSome = true then
      [⟨⟨.adapterReceiptRecorded, u.attemptId⟩, none, none, effect ≠ .unknownEffect⟩] else []) ++
      [exactEvent rt ⟨.attemptTerminal, u.attemptId⟩
        (attemptTerminalPayload effect outcome receipt) completedAt]) := by
  have hlinked : ¬ u.UnlinkedUnknown := by simp [AttemptRow.UnlinkedUnknown, hl]
  simp only [attemptEvents, hs, attemptTerminalEvents, hlinked, if_false]

/-- The recorded receipt of the attempt is no later than the terminal time. -/
def ReceiptInTime (rt : Runtime) (L : Ledger) (stored : RequestLookupResult)
    (c : AttemptCompletion) : Prop :=
  ∀ o ∈ L.auditOutbox, o.key = ⟨.adapterReceiptRecorded, c.attemptId⟩ →
    rt.AtMost o.createdAt stored.terminalAt

instance : Decidable (ReceiptInTime rt L stored c) := by
  unfold ReceiptInTime
  infer_instance

/-- Closing a request with its attempt commits when the terminal time fits and the
receipt was recorded before it. -/
theorem executing_commit (h : Accepted rt L) (hclose : ExecutingClose rt L stored c t l)
    (hok : CompleteOk rt stored (some c)) (hat : rt.IsOffsetTimestamp stored.terminalAt)
    (hreceipt : ReceiptInTime rt L stored c)
    (hschema : (completedLedger rt L stored c).SchemaOk) :
    RequestCommit rt L (completedLedger rt L stored c) stored.key
      [attemptTerminalRow rt L stored c, lastRow rt L stored c] := by
  obtain ⟨r, a, al, hopen⟩ := h.of_open hclose.attempt hclose.link hclose.effect
  have hc := hok.executing c rfl
  have ht := hclose.attempt
  have hl := hclose.link
  have hid := hclose.attemptId
  have hrk : r.key = stored.key := hopen.key.trans hclose.key
  have hgroup := hopen.group
  rw [hclose.key] at hgroup
  obtain ⟨hauths, hattempts, hresults⟩ := Ledger.group_eq hgroup
  have hord := h.relations.projection.ordered h.schema
  have hrows : L.requestsOf stored.key = [r] :=
    hrk ▸ Ledger.requestsOf_eq_singleton h.schema hopen.request
  have hrows' : (completedLedger rt L stored c).requestsOf stored.key =
      [terminateRequest stored r] :=
    Ledger.requestsOf_update (f := terminateRequest stored) rfl (fun _ => rfl) hrows
      (by simp [hrk, hopen.state])
  have hgroup' : (completedLedger rt L stored c).group stored.key =
      ⟨[a], [{ t with state := terminalState stored c }], [storedResultRow rt stored]⟩ := by
    refine Ledger.group_mk hauths
      (Ledger.attemptsOf_update rfl hattempts (by simp [hid, hclose.effect])) ?_
    have hinsert := Ledger.resultsOf_insert (k := stored.key) (L := L)
      (rfl : (completedLedger rt L stored c).requestResults = _) rfl
    rwa [hresults] at hinsert
  obtain ⟨hauths', hattempts', -⟩ := Ledger.group_eq hgroup'
  have ht' : { t with state := terminalState stored c } ∈
      (completedLedger rt L stored c).attempts :=
    (Ledger.mem_attemptsOf.mp (hattempts' ▸ List.mem_singleton.mpr rfl)).1
  have hsame := authorizationEvents_updateAttempts rt h.schema hschema ht ht'
    hopen.attemptOk.binding.1
  -- neither the attempt nor the request has a terminal event yet
  have hterminalFresh : ∀ type, type = .attemptTerminal ∨ type = .attemptRecoveredUnknown →
      ¬ L.Emitted ⟨type, c.attemptId⟩ := by
    rintro type (rfl | rfl) ⟨u, hu, hut, heffect⟩ <;>
      (rw [eq_of_nodup_key h.schema.attemptIds hu ht (hut.trans hid.symm), hclose.effect] at heffect
       simp at heffect)
  have hrequestFresh : ¬ L.Emitted ⟨.requestTerminal, stored.key.subject⟩ := by
    have := not_emitted_requestTerminal h hopen.request (by rw [hrk]; exact hresults)
    rwa [hrk] at this
  have hrowFresh : ∀ o ∈ [attemptTerminalRow rt L stored c, lastRow rt L stored c],
      ¬ L.Emitted o.key := by
    simp only [List.mem_cons, List.not_mem_nil, or_false, forall_eq_or_imp, forall_eq]
    exact ⟨hterminalFresh _ (.inl rfl), hrequestFresh⟩
  have hdistinct : ([attemptTerminalRow rt L stored c, lastRow rt L stored c].map
      OutboxRow.key).Nodup := by
    simp [attemptTerminalRow, lastRow, terminalRow]
  have hout : (completedLedger rt L stored c).auditOutbox = L.auditOutbox ++
      [attemptTerminalRow rt L stored c, lastRow rt L stored c] := by
    simp [completedLedger, storedLedger, attemptClosedLedger, lastRow]
  have hids : [attemptTerminalRow rt L stored c, lastRow rt L stored c].map OutboxRow.eventId =
      List.range' (L.sequence + 1) 2 := rfl
  have hold := groupEvents_eq rt hrows hgroup
  have hnew := groupEvents_eq rt hrows' hgroup'
  simp only [List.flatMap_cons, List.flatMap_nil, List.append_nil, hsame] at hold hnew
  have hattemptEvents : attemptEvents rt { t with state := terminalState stored c } =
      attemptReservedEvent rt t :: ((if c.adapterReceiptSha256.isSome = true then
        [⟨⟨.adapterReceiptRecorded, t.attemptId⟩, none, none, c.state ≠ .unknownEffect⟩] else []) ++
        [exactEvent rt ⟨.attemptTerminal, t.attemptId⟩ (attemptTerminalPayload c.state
          c.outcomeSha256 c.adapterReceiptSha256) stored.terminalAt]) := by
    exact attemptEvents_of_terminal rfl hl
  have hrequestEvents : requestEvents rt (terminateRequest stored r) = requestEvents rt r := rfl
  rw [hattemptEvents, hrequestEvents] at hnew
  have hao := hopen.attemptOk
  constructor
  case write =>
    refine ⟨.update ?_ fun _ => rfl, .refl, .update ?_ fun _ => by rfl, .append rfl⟩
    · intro b _ hb
      simp only [decide_eq_true_eq] at hb
      simpa using hb.1
    · intro u hu hup
      simp only [decide_eq_true_eq] at hup
      rw [eq_of_nodup_key h.schema.attemptIds hu ht (hup.1.trans hid.symm)]
      simp [AttemptRow.requestKey, hl, hclose.key]
  case schema => exact hschema
  case subjects =>
    simp only [completedLedger, storedLedger, attemptClosedLedger]
    rw [map_updateWhere_of_eq fun _ _ => by rfl]
    exact h.subjects
  case outbox => exact hout
  case sequence => rfl
  case rowIds => exact hids
  case rowsOk =>
    simp only [List.mem_cons, List.not_mem_nil, or_false, forall_eq_or_imp, forall_eq]
    refine ⟨outboxRowOk_outboxRow (hid ▸ hao.identifiers.1) hat,
      outboxRowOk_outboxRow ⟨?_, hrk ▸ h.length_subject_le hopen.request⟩ hat⟩
    intro hempty
    have := congrArg String.length hempty
    simp [RequestKey.length_subject] at this
  case distinct => exact hdistinct
  case fresh => exact hrowFresh
  case request =>
    rw [hrows', hgroup']
    simp only [List.mem_singleton, forall_eq]
    have hclaim : rt.AtMost r.claimedAt t.reservedAt :=
      (hopen.ok.authorization a (by simp) al hopen.link).issued.2.1.trans rt hao.reserved.2.2.1
    constructor
    case identifiers => exact hopen.ok.identifiers
    case timestamps => exact ⟨hopen.ok.timestamps.1, hat, hclaim.trans rt hclose.later⟩
    case coherent =>
      exact lifecycleCoherent_terminal.mpr
        (.inr (.inr ⟨a, _, _, rfl, hopen.consumed, rfl⟩))
    case authorization =>
      intro b hb bl hbl
      have haok := hopen.ok.authorization b hb bl hbl
      exact { haok with issued := ⟨haok.issued.1, haok.issued.2.1, fun hs => by cases hs⟩ }
    case attempt =>
      simp only [List.mem_singleton, forall_eq, hl, Option.mem_def, Option.some.injEq,
        forall_eq', exists_eq_left]
      refine ⟨al, hopen.link, ?_⟩
      exact { hao with
        reserved := ⟨hao.reserved.1, hao.reserved.2.1, hao.reserved.2.2.1, fun hs => by cases hs⟩
        outcome := by
          simpa [terminalState, AttemptState.outcomeSha256] using hc.outcomeIsSha256
        receipt := by
          simpa [terminalState, AttemptState.adapterReceiptSha256] using hc.receiptIsSha256
        completed := by
          simpa [terminalState, AttemptState.completedAt] using ⟨hat, hclose.later⟩ }
    case result =>
      simp only [List.mem_singleton, forall_eq]
      exact ⟨hok.size, rfl, hok.postInit, hok.notReplayed,
        ⟨congrArg RequestKey.principalId hrk.symm, congrArg RequestKey.requestId hrk.symm,
          hclose.requestSha256.symm.trans hao.binding.2.2.1⟩, rfl, rfl⟩
    case nonexecuting => simp
    case executing =>
      simp only [List.mem_singleton, forall_eq, hl, Option.mem_def, Option.some.injEq, forall_eq']
      refine ⟨?_, ⟨c.state, rfl, hc.effect, ?_⟩, hc.receipt, rfl, hclose.decision⟩
      · rw [hid]
        exact hc.attemptId
      · exact congrArg some hc.outcome
  case kept =>
    intro e he
    rw [hold] at he
    rw [hnew]
    simp only [List.mem_append] at he
    rcases he with (he | he) | he
    · exact ⟨e, by simp [he], .refl e⟩
    · rcases List.mem_cons.mp he with rfl | he
      · exact ⟨_, by simp [attemptReservedEvent], .refl _⟩
      · cases hs : t.state with
        | reserved => simp [hs] at he
        | receiptRecorded o rc =>
          simp only [hs, List.mem_singleton] at he
          have hsome : c.adapterReceiptSha256 = some rc := by
            simpa [hs, AttemptState.adapterReceiptSha256] using hclose.receipt.symm
          refine ⟨⟨⟨.adapterReceiptRecorded, t.attemptId⟩, none, none,
            c.state ≠ .unknownEffect⟩, by simp [hsome], ?_⟩
          rw [he]
          exact ⟨rfl, by simp, by simp⟩
        | terminal e' o rc d =>
          have := hclose.effect
          simp [hs, AttemptState.effect] at this
    · exact ⟨e, by simp [he], .refl e⟩
  case matched =>
    simp only [List.mem_cons, List.not_mem_nil, or_false, forall_eq_or_imp, forall_eq]
    rw [hnew]
    refine ⟨⟨_, List.mem_append_left _ (List.mem_append_left _ (List.mem_append_right _
      (List.mem_cons_of_mem _ (List.mem_append_right _ (List.mem_singleton.mpr rfl))))), ?_⟩,
      ⟨_, List.mem_append_right _ (List.mem_singleton.mpr rfl), outboxRow_matches⟩⟩
    rw [hid]
    exact outboxRow_matches
  case covered =>
    intro e he hreq
    rw [hnew] at he
    rw [hold]
    simp only [List.mem_append, List.mem_cons, List.not_mem_nil, or_false] at he
    rcases he with ((he | he | he | he) | he) | he
    · exact .inl ⟨e, by simp [he], hreq, rfl⟩
    · exact .inl ⟨e, by simp [he, attemptEvents], hreq, rfl⟩
    · -- the receipt event was required before
      cases hs : t.state with
      | reserved =>
        have hnone : c.adapterReceiptSha256 = none := by
          simpa [hs, AttemptState.adapterReceiptSha256] using hclose.receipt.symm
        simp [hnone] at he
      | receiptRecorded o rc =>
        have hkey : e.key = ⟨.adapterReceiptRecorded, t.attemptId⟩ := by
          split at he
          · rw [List.mem_singleton.mp he]
          · simp at he
        exact .inl ⟨⟨⟨.adapterReceiptRecorded, t.attemptId⟩,
          some (eventDigest rt ⟨.adapterReceiptRecorded, t.attemptId⟩
            (adapterReceiptRecordedPayload rc o)), none, true⟩,
          by simp [attemptEvents, hs], rfl, hkey.symm⟩
      | terminal e' o rc d =>
        have := hclose.effect
        simp [hs, AttemptState.effect] at this
    · refine .inr ⟨attemptTerminalRow rt L stored c, by simp, ?_⟩
      rw [he, hid]
      rfl
    · exact .inl ⟨e, by simp [he], hreq, rfl⟩
    · exact .inr ⟨lastRow rt L stored c, by simp, by rw [List.mem_singleton.mp he]; rfl⟩
  case receipts =>
    simp only [hattempts', List.mem_singleton, forall_eq]
    intro o ho hkey
    rw [hout, List.mem_append] at ho
    rcases ho with ho | ho
    · refine ⟨(h.relations.projection.receiptChronology o ho
        (congrArg EventKey.eventType hkey) t ht (congrArg EventKey.subjectId hkey).symm).1, ?_⟩
      simp only [terminalState, AttemptState.completedAt, Option.mem_def, Option.some.injEq,
        forall_eq']
      exact hreceipt o ho (hid ▸ hkey)
    · simp only [List.mem_cons, List.not_mem_nil, or_false] at ho
      rcases ho with rfl | rfl <;> cases congrArg EventKey.eventType hkey
  case authorizationsOrdered =>
    simp only [hauths', List.mem_singleton, forall_eq]
    exact authorizationOrdered_commit h hout hids hrowFresh hopen.authorization rfl rfl
  case attemptsOrdered =>
    simp only [hattempts', List.mem_singleton, forall_eq]
    have hother : ∀ key : EventKey, key.eventType ≠ .attemptTerminal →
        key.eventType ≠ .requestTerminal →
        ∀ o ∈ [attemptTerminalRow rt L stored c, lastRow rt L stored c], o.key ≠ key := by
      intro key hne hne' o ho hkey
      simp only [List.mem_cons, List.not_mem_nil, or_false] at ho
      rcases ho with rfl | rfl
      · exact hne (congrArg EventKey.eventType hkey).symm
      · exact hne' (congrArg EventKey.eventType hkey).symm
    have hold' := hord.attempts t ht
    refine ⟨eventBefore_commit h hout hids (.inl ⟨hother _ (by simp) (by simp), hord.reservedConsumed t ht⟩),
      ⟨eventBefore_commit h hout hids (.inl ⟨hother _ (by simp) (by simp), hold'.receipt⟩),
        fun e he => ?_⟩⟩
    obtain ⟨h1, h2, -⟩ := hold'.terminal e he
    refine ⟨eventBefore_commit h hout hids (.inl ⟨hother _ (by simp) (by simp), h1⟩),
      eventBefore_commit h hout hids (.inl ⟨hother _ (by simp) (by simp), h2⟩), ?_⟩
    simp only [AttemptRow.requestKey, hl, Option.map_some, Option.mem_def, Option.some.injEq,
      forall_eq']
    rcases List.mem_cons.mp he with rfl | he
    · -- the two new rows, in the order they were written
      have hkeys := nodup_keys_append h hout hdistinct hrowFresh
      rw [hid, show l.key.subject = stored.key.subject by rw [hclose.key]]
      have hfirst : attemptTerminalRow rt L stored c ∈
          (completedLedger rt L stored c).auditOutbox := by simp [hout]
      have hlast : lastRow rt L stored c ∈ (completedLedger rt L stored c).auditOutbox := by
        simp [hout]
      exact eventBefore_of_rows hkeys hfirst hlast (Nat.lt_succ_self _)
    · rw [List.mem_singleton.mp he, hid]
      exact eventBefore_of_first (unobserved_commit h hout (hterminalFresh _ (.inr rfl))
        (hother _ (by simp) (by simp)))
  case requestOrdered =>
    simp only [hrows', List.mem_singleton, forall_eq]
    exact requestOrdered_commit (r := r) h hout hids hrowFresh hopen.request

end Executing

end DecisionFirewall.StageA
