import DecisionFirewall.Base.JsonText
import DecisionFirewall.StageA.TerminalRows

/-!
# Terminal Results Are Immutable

What a ledger that holds a terminal result answers: lookups return the result as a
replay, repeated completions change nothing, other completions and other request
digests are refused. The rows it answers from stay through every sequence of
operations, so the answers stay as long as the ledger is accepted.

- §1 the stored text determines the result
- §2 a ledger that holds a result
- §3 its answers
- §4 after the commit
-/

namespace DecisionFirewall.StageA

open Lib.Table

/-! ## §1 The stored text -/

theorem DecisionOutcome.text_inj {a b : DecisionOutcome} : a.text = b.text ↔ a = b := by
  cases a <;> cases b <;> simp [text]

theorem Disposition.text_inj {a b : Disposition} : a.text = b.text ↔ a = b := by
  cases a <;> cases b <;> simp [text]

theorem VerificationStatus.text_inj {a b : VerificationStatus} : a.text = b.text ↔ a = b := by
  cases a <;> cases b <;> simp [text]

/-- Results with one stored text are the same result. -/
theorem RequestLookupResult.eq_of_toDict {x y : RequestLookupResult}
    (h : canonicalJson x.toDict = canonicalJson y.toDict) : x = y := by
  have hvalues := Json.values_eq_of_canonicalJson (by simp [Json.NumbersOkFields, Json.NumbersOk])
    (by simp [Json.NumbersOkFields, Json.NumbersOk]) (by rfl) (by simp) h
  obtain ⟨⟩ := x
  obtain ⟨⟩ := y
  simp only [List.map_cons, List.map_nil, List.cons.injEq, Json.sorted, Json.sorted_ofOption,
    Json.sortedItems_map_str, Json.str.injEq, Json.bool.injEq, Json.arr.injEq, Json.ofOption_inj,
    DecisionOutcome.text_inj, Disposition.text_inj, VerificationStatus.text_inj] at hvalues
  simp only [RequestLookupResult.mk.injEq]
  simpa only [List.map_inj_right (fun _ _ h => Json.str_injective h), and_true, true_and]
    using hvalues

/-! ## §2 A ledger that holds a result -/

/-- The request of `x` is `TERMINAL` and `x` is its stored result. -/
structure HoldsResult (rt : Runtime) (L : Ledger) (x : RequestLookupResult) : Prop where
  request : ∃ r ∈ L.requests, r.key = x.key ∧ r.requestSha256 = x.requestSha256 ∧
    r.state = .terminal
  result : L.resultsOf x.key = [storedResultRow rt x]

section Holds

variable {rt : Runtime} {L L' M : Ledger} {x : RequestLookupResult}

theorem HoldsResult.of_keepsTerminal (h : HoldsResult rt L x) (hkeep : KeepsTerminal L M) :
    HoldsResult rt M x := by
  obtain ⟨r, hr, hkey, hsha, hstate⟩ := h.request
  refine ⟨⟨r, hkeep.requests r hr hstate, hkey, hsha, hstate⟩, ?_⟩
  have hresults := hkeep.results r hr hstate
  rw [hkey] at hresults
  rw [hresults]
  exact h.result

/-- Storing a result makes the ledger hold it. -/
theorem holdsResult_of_storeResult {u : Unit}
    (hrequest : ∃ r ∈ M.requests, r.key = x.key ∧ r.requestSha256 = x.requestSha256 ∧
      r.state ≠ .terminal)
    (hresults : M.resultsOf x.key = []) (hstore : storeResult rt x M = .ok (u, L')) :
    HoldsResult rt L' x := by
  simp only [storeResult, bind_eq_ok, pure, Except.pure, Except.ok.injEq, Prod.mk.injEq] at hstore
  obtain ⟨M₁, h₁, M₂, h₂, -, rfl⟩ := hstore
  obtain ⟨-, rfl⟩ := Ledger.insertResult_eq_ok.mp h₁
  obtain ⟨-, rfl⟩ := Ledger.insertOutbox_eq_ok.mp h₂
  obtain ⟨r, hr, hkey, hsha, hstate⟩ := hrequest
  constructor
  · refine ⟨{ r with state := .terminal, updatedAt := x.terminalAt }, ?_, hkey, hsha, rfl⟩
    exact mem_updateWhere.mpr ⟨r, hr, by simp [hkey, hstate]⟩
  · have hrow : (storedResultRow rt x).key = x.key := rfl
    simp only [Ledger.resultsOf, Ledger.updateRequests, List.filter_append] at hresults ⊢
    simp [hresults, hrow]

/-- The rows of a request whose result is stored. -/
inductive TerminalRowsOf (rt : Runtime) (L : Ledger) (x : RequestLookupResult)
    (r : RequestRow) : Prop where
  | nonexecuting (hattempts : L.attemptsOf x.key = []) (hid : x.attemptId = none)
  | executing (a : AuthorizationRow) (al : AuthorizationLink) (t : AttemptRow) (l : AttemptLink)
      (ha : a ∈ L.authorizations) (ht : t ∈ L.attempts) (hattempts : L.attemptsOf x.key = [t])
      (hl : t.link = some l) (hkey : l.key = x.key) (hattempt : AttemptOk rt r a al t l)
      (hexecuting : ExecutingOk rt t l x)

/-- What the validator guarantees about a stored result and its request. -/
structure TerminalOk (rt : Runtime) (L : Ledger) (x : RequestLookupResult) (r : RequestRow) :
    Prop where
  mem : r ∈ L.requests
  key : r.key = x.key
  requestSha256 : r.requestSha256 = x.requestSha256
  state : r.state = .terminal
  identifiers : IsIdentifier r.principalId ∧ IsIdentifier r.requestId ∧ IsSha256 r.requestSha256
  result : ResultOk rt r (storedResultRow rt x)
  rows : TerminalRowsOf rt L x r

theorem HoldsResult.terminalOk (h : HoldsResult rt L x) (hL : Accepted rt L) :
    ∃ r, TerminalOk rt L x r := by
  obtain ⟨r, hr, hkey, hsha, hstate⟩ := h.request
  have hok := hL.relations.requests r hr
  have hresult : storedResultRow rt x ∈ (L.group r.key).results := by
    show _ ∈ L.resultsOf r.key
    rw [hkey, h.result]
    exact List.mem_singleton.mpr rfl
  refine ⟨r, hr, hkey, hsha, hstate, hok.identifiers, hok.result _ hresult, ?_⟩
  have hcoherent := hok.coherent
  rw [hstate, lifecycleCoherent_terminal] at hcoherent
  have hnone : (L.group r.key).attempts = [] → TerminalRowsOf rt L x r := by
    intro hattempts
    refine .nonexecuting ?_ (hok.nonexecuting hattempts _ hresult).1
    rw [← hkey]
    exact hattempts
  rcases hcoherent with ⟨y, hg⟩ | ⟨a, y, hg, -⟩ | ⟨a, t, y, hg, -, -⟩
  · exact hnone (by rw [hg])
  · exact hnone (by rw [hg])
  · -- the one attempt of the request
    obtain ⟨hauths, hattempts, -⟩ := Ledger.group_eq hg
    have ht : t ∈ L.attemptsOf r.key := by
      rw [hattempts]
      exact List.mem_singleton.mpr rfl
    obtain ⟨htmem, htkey⟩ := Ledger.mem_attemptsOf.mp ht
    simp only [AttemptRow.requestKey, Option.map_eq_some_iff] at htkey
    obtain ⟨l, hl, hlkey⟩ := htkey
    have ht' : t ∈ (L.group r.key).attempts := ht
    obtain ⟨a', ha', al, -, hattempt⟩ := hok.attempt t ht' l hl
    have ha'' : a' ∈ L.authorizationsOf r.key := ha'
    exact .executing a' al t l (Ledger.mem_authorizationsOf.mp ha'').1 htmem
      (by rw [← hkey]; exact hattempts) hl (hlkey.trans hkey) hattempt
      (hok.executing t ht' l hl _ hresult)

theorem TerminalOk.request {r : RequestRow} (h : TerminalOk rt L x r) (hs : L.SchemaOk) :
    L.request x.key = some r :=
  (Ledger.request_eq_some hs).mpr ⟨h.mem, h.key⟩

/-- The recovery summary of the attempt repeats the result. -/
theorem summaryRepeats_of_ok {r : RequestRow} {a : AuthorizationRow} {al : AuthorizationLink}
    {t : AttemptRow} {l : AttemptLink} (hkey : r.key = x.key)
    (hsha : r.requestSha256 = x.requestSha256) (hattempt : AttemptOk rt r a al t l)
    (hexecuting : ExecutingOk rt t l x) : SummaryRepeats ⟨t, l, a⟩ x := by
  have hbinding := hattempt.summaryBinding
  have hdecision := hexecuting.decision
  exact
    { principalId := hbinding.1.trans (congrArg RequestKey.principalId hkey)
      requestId := hbinding.2.1.trans (congrArg RequestKey.requestId hkey)
      requestSha256 := hbinding.2.2.1.trans hsha
      authorizationDecision := hbinding.2.2.2.1
      decisionId := hdecision.1.symm
      decisionOutcome := hdecision.2.1.symm
      decisionSha256 := hdecision.2.2.1.symm
      decisionContextSha256 := hdecision.2.2.2.1.symm
      policySha256 := hdecision.2.2.2.2.1.symm
      decidedAt := hdecision.2.2.2.2.2.symm }

/-! ## §3 Its answers -/

/-- A verified completion is verified. -/
theorem RequestLookupResult.PostInit.verified (h : x.PostInit rt)
    (hd : x.disposition = .completedVerified) :
    x.verificationStatus = .verified ∧ x.recoveryRequired = false := by
  have heffect := h.effectFields
  unfold RequestLookupResult.EffectFieldsOk at heffect
  rw [hd] at heffect
  cases hid : x.attemptId with
  | none => simp [hid] at heffect
  | some i =>
    simp only [hid] at heffect
    exact ⟨heffect.2.2.2.1, heffect.2.2.2.2⟩

/-- An indeterminate completion asks for recovery. -/
theorem RequestLookupResult.PostInit.indeterminate (h : x.PostInit rt)
    (hd : x.disposition = .recoveryRequired ∨ x.disposition = .unknownEffect) :
    x.recoveryRequired = true ∧ x.verificationStatus ≠ .verified := by
  have heffect := h.effectFields
  unfold RequestLookupResult.EffectFieldsOk at heffect
  cases hid : x.attemptId with
  | none => rcases hd with hd | hd <;> simp [hid, hd] at heffect
  | some i =>
    rcases hd with hd | hd
    · simp only [hid, hd] at heffect
      exact ⟨heffect.1, heffect.2.1⟩
    · simp only [hid, hd] at heffect
      exact ⟨heffect.1, heffect.2.1⟩

theorem AttemptOk.join {r : RequestRow} {a : AuthorizationRow} {al : AuthorizationLink}
    {t : AttemptRow} {l : AttemptLink} (h : AttemptOk rt r a al t l) (hs : L.SchemaOk)
    (ha : a ∈ L.authorizations) (hl : t.link = some l) : L.join t = some ⟨t, l, a⟩ := by
  have htoken : L.authorization t.tokenId = some a :=
    (Ledger.authorization_eq_some hs).mpr ⟨ha, h.binding.1.symm⟩
  simp [Ledger.join, hl, htoken]

/-- The attempt of a held result passes the checks of a lookup. -/
theorem TerminalRowsOf.lookupAttemptOk {r : RequestRow} (h : TerminalRowsOf rt L x r)
    (hs : L.SchemaOk) (hpost : x.PostInit rt) (hkey : r.key = x.key)
    (hsha : r.requestSha256 = x.requestSha256) :
    LookupAttemptOk rt ((L.attemptsOf x.key).head?.bind L.join) x := by
  cases h with
  | nonexecuting hattempts hid =>
    have hdisposition := hpost.effectFields
    unfold RequestLookupResult.EffectFieldsOk at hdisposition
    simp only [hid] at hdisposition
    refine ⟨?_, by simp [hattempts]⟩
    rw [hattempts, hid]
    exact ⟨rfl, hdisposition.1⟩
  | executing a al t l ha ht hattempts hl hlkey hattempt hexecuting =>
    rw [hattempts]
    simp only [List.head?_cons, Option.bind_some, hattempt.join hs ha hl]
    obtain ⟨e, he, heffect, houtcome⟩ := hexecuting.effect
    refine ⟨?_, ?_⟩
    · rw [hexecuting.attempt]
      exact ⟨rfl, he.trans heffect.symm, hexecuting.receipt.symm⟩
    · intro j hj
      cases hj
      exact ⟨hexecuting.completed, ⟨e, heffect, houtcome⟩, hattempt.summaryIntegrity,
        summaryRepeats_of_ok hkey hsha hattempt hexecuting⟩

/-- A lookup returns the held result as a replay. -/
theorem HoldsResult.lookup (h : HoldsResult rt L x) (hL : Accepted rt L) :
    lookupRequestResult rt x.key x.requestSha256 L = .ok (some x.asReplay) := by
  obtain ⟨r, hr⟩ := h.terminalOk hL
  have hpost : x.PostInit rt := hr.result.postInit
  have hids : IsIdentifier x.key.principalId ∧ IsIdentifier x.key.requestId ∧
      IsSha256 x.requestSha256 := ⟨hpost.principalId, hpost.requestId, hpost.requestSha256⟩
  have hresultOk : LookupResultOk rt x.key x.requestSha256 (storedResultRow rt x) :=
    ⟨hr.result.size, hr.result.integrity, hpost, rfl, rfl, rfl⟩
  have hattempt := hr.rows.lookupAttemptOk hL.schema hpost hr.key hr.requestSha256
  simp only [lookupRequestResult, hr.request hL.schema, h.result, List.head?_cons, hr.state,
    ne_eq, not_true_eq_false, if_false, require_bind_eq_ok, hr.requestSha256]
  exact ⟨hids, hL.relations, trivial, hresultOk, hattempt, hpost.verified, hpost.indeterminate, rfl⟩

/-- Another digest of the same request is a conflict. -/
theorem HoldsResult.lookup_conflict (h : HoldsResult rt L x) (hL : Accepted rt L)
    {requestSha256 : String} (hsha : IsSha256 requestSha256) (hne : requestSha256 ≠ x.requestSha256) :
    lookupRequestResult rt x.key requestSha256 L = .error .requestIdConflict := by
  obtain ⟨r, hr⟩ := h.terminalOk hL
  have hpost : x.PostInit rt := hr.result.postInit
  have hids : IsIdentifier x.key.principalId ∧ IsIdentifier x.key.requestId ∧
      IsSha256 requestSha256 := ⟨hpost.principalId, hpost.requestId, hsha⟩
  have hother : ¬ x.requestSha256 = requestSha256 := hne.symm
  simp [lookupRequestResult, hr.request hL.schema, require, hids, hL.relations, hr.requestSha256,
    hother, bind, Except.bind]

/-- A completion of a request that is `TERMINAL` returns or raises without a write, and
returns for the held result alone. -/
theorem HoldsResult.completeRequestBody_eq_ok (h : HoldsResult rt L x) (hL : Accepted rt L)
    {stored : RequestLookupResult} {completion : Option AttemptCompletion}
    (hkey : stored.key = x.key) {u : Unit}
    (hbody : completeRequestBody rt stored completion L = .ok (u, L')) :
    L' = L ∧ stored = x := by
  obtain ⟨r, hr⟩ := h.terminalOk hL
  simp only [completeRequestBody, hkey, hr.request hL.schema, hr.state, bind_eq_ok,
    require_eq_ok, exists_const, if_true, repeatCompletion, h.result, List.head?_cons,
    pure, Except.pure, Except.ok.injEq, Prod.mk.injEq, Option.mem_def,
    Option.some.injEq, exists_eq_left'] at hbody
  obtain ⟨-, -, attempt, -, ⟨-, hrender⟩, -, -, rfl⟩ := hbody
  have htext : canonicalJson x.toDict = canonicalJson stored.toDict :=
    congrArg String.ofList hrender
  exact ⟨rfl, (RequestLookupResult.eq_of_toDict htext).symm⟩

/-- The attempt that a repeated completion selects. -/
theorem TerminalOk.selectAttempt? {r : RequestRow} (h : TerminalOk rt L x r) (hs : L.SchemaOk)
    {completion : Option AttemptCompletion} (hok : CompleteOk rt x completion) :
    ∃ attempt, StageA.selectAttempt? rt x completion L = .ok attempt ∧
      ∀ p ∈ attempt, p.2.row.state.effect = some p.1.state ∧
        p.2.row.state.outcomeSha256 = some p.1.outcomeSha256 ∧
        p.2.row.state.adapterReceiptSha256 = p.1.adapterReceiptSha256 := by
  cases completion with
  | none => exact ⟨none, rfl, by simp⟩
  | some c =>
    have hc := hok.executing c rfl
    cases h.rows with
    | nonexecuting _ hid =>
      rw [hc.attemptId] at hid
      cases hid
    | executing a al t l ha ht hattempts hl hlkey hattempt hexecuting =>
      obtain ⟨e, he, heffect, houtcome⟩ := hexecuting.effect
      have hid : t.attemptId = c.attemptId :=
        Option.some.inj (hexecuting.attempt.symm.trans hc.attemptId)
      have hstate : e = c.state := Option.some.inj (heffect.symm.trans hc.effect)
      subst hstate
      have hsha : l.requestSha256 = x.requestSha256 :=
        hattempt.binding.2.2.1.trans h.requestSha256
      have hjoined : L.joinedAttempt c.attemptId x.key x.requestSha256 = some ⟨t, l, a⟩ :=
        (joinedAttempt_eq_some hs).mpr
          ⟨ht, hid, hl, ha, hattempt.binding.1.symm, hlkey, hsha⟩
      have hreserved := (hattempt.completed _ hexecuting.completed).2
      refine ⟨some (c, ⟨t, l, a⟩), ?_, ?_⟩
      · simp only [StageA.selectAttempt?, selectAttempt, hjoined, bind_eq_ok, require_eq_ok,
          exists_const, pure, Except.pure]
        exact ⟨_, ⟨hreserved, hattempt.summaryIntegrity,
          summaryRepeats_of_ok h.key h.requestSha256 hattempt hexecuting, rfl⟩, rfl⟩
      · intro p hp
        cases hp
        exact ⟨he, by rw [hc.outcome]; exact houtcome, hexecuting.receipt.symm.trans hc.receipt⟩

/-- The exact repetition returns. -/
theorem HoldsResult.completeRequestBody (h : HoldsResult rt L x) (hL : Accepted rt L)
    {completion : Option AttemptCompletion} (hok : CompleteOk rt x completion) :
    StageA.completeRequestBody rt x completion L = .ok ((), L) := by
  obtain ⟨r, hr⟩ := h.terminalOk hL
  obtain ⟨attempt, hselect, hsame⟩ := hr.selectAttempt? hL.schema hok
  have hat : (rt.fromisoformat x.terminalAt).isSome = true := by
    obtain ⟨-, y, -, hy, -⟩ := rt.atMost_iff.mp hok.postInit.chronology
    simp [hy]
  have hlater : rt.AtMost r.updatedAt x.terminalAt := by
    have hupdated : r.updatedAt = x.terminalAt := hr.result.terminal.2
    rw [hupdated]
    exact Runtime.AtMost.refl_of_isSome rt hat
  simp only [StageA.completeRequestBody, hr.request hL.schema, bind_eq_ok, require_eq_ok,
    exists_const, hselect, hr.state, if_true, repeatCompletion, h.result, List.head?_cons,
    pure, Except.pure]
  exact ⟨hr.requestSha256, hlater, attempt, rfl, ⟨_, rfl, rfl, rfl⟩, hsame, trivial⟩

end Holds

end DecisionFirewall.StageA
