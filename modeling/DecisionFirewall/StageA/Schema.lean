import DecisionFirewall.StageA.RequestCommit

/-!
# Statements and Selections

How the SQL statements of `Transaction.lean` act on SQLite's constraints and on the
rows selected for a request:

- §1 `INSERT` and `UPDATE` keep `SchemaOk`;
- §2 what `INSERT` and `UPDATE` do to the rows selected for a request;
- §3 the rows a request of a given state has.
-/

namespace DecisionFirewall.StageA

open Lib.Table

namespace Ledger

variable {L L' : Ledger}

/-! ## §1 Constraints -/

theorem insertRequest_eq_ok {r : RequestRow} :
    L.insertRequest r = .ok L' ↔
      r.key ∉ L.requests.map RequestRow.key ∧ L' = { L with requests := L.requests ++ [r] } := by
  simp only [insertRequest, require_bind_eq_ok, pure, Except.pure, Except.ok.injEq,
    eq_comm (a := L')]

theorem insertOutbox_eq_ok {rt : Runtime} {key : EventKey} {payload : Json} {createdAt : String} :
    L.insertOutbox rt key payload createdAt = .ok L' ↔
      (key, eventDigest rt key payload) ∉ L.auditOutbox.map (fun o => (o.key, o.payloadSha256)) ∧
      L' = { L with
        auditOutbox := L.auditOutbox ++ [L.outboxRow rt key payload createdAt]
        sequence := L.sequence + 1 } := by
  simp only [insertOutbox, require_bind_eq_ok, pure, Except.pure, Except.ok.injEq,
    eq_comm (a := L')]

theorem insertAuthorization_eq_ok {a : AuthorizationRow} :
    L.insertAuthorization a = .ok L' ↔
      (a.tokenId ∉ L.authorizations.map AuthorizationRow.tokenId ∧
        a.verificationId ∉ L.authorizations.map AuthorizationRow.verificationId ∧
        a.decisionId ∉ L.authorizations.map AuthorizationRow.decisionId ∧
        (∀ k ∈ a.requestKey, k ∉ L.authorizations.filterMap AuthorizationRow.requestKey) ∧
        ∀ l ∈ a.link, ∃ r ∈ L.requests, r.key = l.key ∧ r.requestSha256 = l.requestSha256) ∧
      L' = { L with authorizations := L.authorizations ++ [a] } := by
  simp only [insertAuthorization, require_bind_eq_ok, pure, Except.pure, Except.ok.injEq,
    eq_comm (a := L'), and_assoc]

theorem insertAttempt_eq_ok {t : AttemptRow} :
    L.insertAttempt t = .ok L' ↔
      (t.attemptId ∉ L.attempts.map AttemptRow.attemptId ∧
        t.tokenId ∉ L.attempts.map AttemptRow.tokenId ∧
        t.idempotencyKey ∉ L.attempts.map AttemptRow.idempotencyKey ∧
        t.bindingSha256 ∉ L.attempts.map AttemptRow.bindingSha256 ∧
        (∀ k ∈ t.requestKey, k ∉ L.attempts.filterMap AttemptRow.requestKey) ∧
        (t.idempotencyKey = t.bindingSha256 ∧ t.state.CheckOk) ∧
        (∃ a ∈ L.authorizations, a.tokenId = t.tokenId) ∧
        ∀ l ∈ t.link, ∃ a ∈ L.authorizations, a.tokenId = t.tokenId ∧
          ∃ al ∈ a.link, al.key = l.key ∧ al.requestSha256 = l.requestSha256) ∧
      L' = { L with attempts := L.attempts ++ [t] } := by
  simp only [insertAttempt, require_bind_eq_ok, pure, Except.pure, Except.ok.injEq,
    eq_comm (a := L'), and_assoc]

theorem insertResult_eq_ok {x : ResultRow} :
    L.insertResult x = .ok L' ↔
      (x.key ∉ L.requestResults.map ResultRow.key ∧ ∃ r ∈ L.requests, r.key = x.key) ∧
      L' = { L with requestResults := L.requestResults ++ [x] } := by
  simp only [insertResult, require_bind_eq_ok, pure, Except.pure, Except.ok.injEq,
    eq_comm (a := L'), and_assoc]

theorem SchemaOk.insertRequest (h : L.SchemaOk) {r : RequestRow}
    (hr : L.insertRequest r = .ok L') : L'.SchemaOk := by
  obtain ⟨hkey, rfl⟩ := insertRequest_eq_ok.mp hr
  refine { h with requestKeys := ?_, authorizationFk := ?_, resultFk := ?_ }
  · rw [List.map_append]
    exact nodup_concat.mpr ⟨h.requestKeys, hkey⟩
  · intro a ha l hl
    obtain ⟨r', hr', hk⟩ := h.authorizationFk a ha l hl
    exact ⟨r', List.mem_append_left _ hr', hk⟩
  · intro x hx
    obtain ⟨r', hr', hk⟩ := h.resultFk x hx
    exact ⟨r', List.mem_append_left _ hr', hk⟩

theorem SchemaOk.insertOutbox (h : L.SchemaOk) (rt : Runtime) {key : EventKey} {payload : Json}
    {createdAt : String} (hids : ∀ o ∈ L.auditOutbox, o.eventId ≤ L.sequence)
    (hr : L.insertOutbox rt key payload createdAt = .ok L') : L'.SchemaOk := by
  obtain ⟨hevent, rfl⟩ := insertOutbox_eq_ok.mp hr
  refine { h with eventIds := ?_, events := ?_ }
  · rw [List.map_append]
    refine nodup_concat.mpr ⟨h.eventIds, ?_⟩
    rintro hmem
    obtain ⟨o, ho, hid⟩ := List.mem_map.mp hmem
    have := hids o ho
    simp only [outboxRow] at hid
    omega
  · rw [List.map_append]
    exact nodup_concat.mpr ⟨h.events, hevent⟩

theorem SchemaOk.insertAuthorization (h : L.SchemaOk) {a : AuthorizationRow}
    (hr : L.insertAuthorization a = .ok L') : L'.SchemaOk := by
  obtain ⟨⟨htoken, hverification, hdecision, hrequest, hfk⟩, rfl⟩ := insertAuthorization_eq_ok.mp hr
  refine { h with
    tokenIds := ?_, verificationIds := ?_, decisionIds := ?_, authorizationRequests := ?_,
    authorizationFk := ?_, attemptTokenFk := ?_, attemptFk := ?_ }
  · rw [List.map_append]
    exact nodup_concat.mpr ⟨h.tokenIds, htoken⟩
  · rw [List.map_append]
    exact nodup_concat.mpr ⟨h.verificationIds, hverification⟩
  · rw [List.map_append]
    exact nodup_concat.mpr ⟨h.decisionIds, hdecision⟩
  · rw [List.filterMap_append]
    cases hk : a.requestKey with
    | none => simpa [hk] using h.authorizationRequests
    | some k => simpa [hk] using nodup_concat.mpr ⟨h.authorizationRequests, hrequest k hk⟩
  · intro b hb l hl
    rcases List.mem_append.mp hb with hb | hb
    · exact h.authorizationFk b hb l hl
    · rw [List.mem_singleton.mp hb] at hl
      exact hfk l hl
  · intro t ht
    obtain ⟨b, hb, hbt⟩ := h.attemptTokenFk t ht
    exact ⟨b, List.mem_append_left _ hb, hbt⟩
  · intro t ht l hl
    obtain ⟨b, hb, hbt⟩ := h.attemptFk t ht l hl
    exact ⟨b, List.mem_append_left _ hb, hbt⟩

theorem SchemaOk.insertAttempt (h : L.SchemaOk) {t : AttemptRow}
    (hr : L.insertAttempt t = .ok L') : L'.SchemaOk := by
  obtain ⟨⟨hid, htoken, hidem, hbinding, hrequest, hcheck, htokenFk, hfk⟩, rfl⟩ :=
    insertAttempt_eq_ok.mp hr
  have hall : ∀ {p : AttemptRow → Prop}, (∀ u ∈ L.attempts, p u) → p t →
      ∀ u ∈ L.attempts ++ [t], p u := by
    intro p hold hnew u hu
    rcases List.mem_append.mp hu with hu | hu
    · exact hold u hu
    · rw [List.mem_singleton.mp hu]
      exact hnew
  refine { h with
    attemptIds := ?_, attemptTokens := ?_, attemptIdempotencyKeys := ?_, attemptBindings := ?_,
    attemptRequests := ?_, attemptIdempotency := hall h.attemptIdempotency hcheck.1,
    attemptCheck := hall h.attemptCheck hcheck.2,
    attemptTokenFk := hall h.attemptTokenFk htokenFk, attemptFk := hall h.attemptFk hfk }
  · rw [List.map_append]
    exact nodup_concat.mpr ⟨h.attemptIds, hid⟩
  · rw [List.map_append]
    exact nodup_concat.mpr ⟨h.attemptTokens, htoken⟩
  · rw [List.map_append]
    exact nodup_concat.mpr ⟨h.attemptIdempotencyKeys, hidem⟩
  · rw [List.map_append]
    exact nodup_concat.mpr ⟨h.attemptBindings, hbinding⟩
  · rw [List.filterMap_append]
    cases hk : t.requestKey with
    | none => simpa [hk] using h.attemptRequests
    | some k => simpa [hk] using nodup_concat.mpr ⟨h.attemptRequests, hrequest k hk⟩

theorem SchemaOk.insertResult (h : L.SchemaOk) {x : ResultRow}
    (hr : L.insertResult x = .ok L') : L'.SchemaOk := by
  obtain ⟨⟨hkey, hfk⟩, rfl⟩ := insertResult_eq_ok.mp hr
  refine { h with resultKeys := ?_, resultFk := ?_ }
  · rw [List.map_append]
    exact nodup_concat.mpr ⟨h.resultKeys, hkey⟩
  · intro y hy
    rcases List.mem_append.mp hy with hy | hy
    · exact h.resultFk y hy
    · rw [List.mem_singleton.mp hy]
      exact hfk

theorem SchemaOk.updateRequests (h : L.SchemaOk) {p : RequestRow → Bool}
    {f : RequestRow → RequestRow} (hkey : ∀ r, (f r).key = r.key)
    (hsha : ∀ r, (f r).requestSha256 = r.requestSha256) : (L.updateRequests p f).SchemaOk := by
  have hrow : ∀ r ∈ L.requests, ∃ r' ∈ updateWhere p f L.requests,
      r'.key = r.key ∧ r'.requestSha256 = r.requestSha256 := by
    intro r hr
    refine ⟨if p r then f r else r, mem_updateWhere.mpr ⟨r, hr, rfl⟩, ?_⟩
    split <;> simp [hkey, hsha]
  refine { h with requestKeys := ?_, authorizationFk := ?_, resultFk := ?_ }
  · simp only [Ledger.updateRequests]
    rw [map_updateWhere_of_eq fun r _ => hkey r]
    exact h.requestKeys
  · intro a ha l hl
    obtain ⟨r, hr, hrk, hrs⟩ := h.authorizationFk a ha l hl
    obtain ⟨r', hr', hk, hs⟩ := hrow r hr
    exact ⟨r', hr', hk.trans hrk, hs.trans hrs⟩
  · intro x hx
    obtain ⟨r, hr, hrk⟩ := h.resultFk x hx
    obtain ⟨r', hr', hk, -⟩ := hrow r hr
    exact ⟨r', hr', hk.trans hrk⟩

/-- Columns other than the state survive an update of authorizations. -/
theorem map_updateAuthorizations {β : Type} {p : AuthorizationRow → Bool} {s : AuthorizationState}
    {g : AuthorizationRow → β} (hg : ∀ a, g { a with state := s } = g a) :
    (L.updateAuthorizations p s).authorizations.map g = L.authorizations.map g :=
  map_updateWhere_of_eq (fun a _ => hg a) _

theorem requestKeys_updateAuthorizations {p : AuthorizationRow → Bool} {s : AuthorizationState} :
    (L.updateAuthorizations p s).authorizations.filterMap AuthorizationRow.requestKey =
      L.authorizations.filterMap AuthorizationRow.requestKey :=
  filterMap_updateWhere_of_eq (by intros; rfl) _

/-- The same for the columns of attempts. -/
theorem map_updateAttempts {β : Type} {p : AttemptRow → Bool} {s : AttemptState}
    {g : AttemptRow → β} (hg : ∀ t, g { t with state := s } = g t) :
    (L.updateAttempts p s).attempts.map g = L.attempts.map g :=
  map_updateWhere_of_eq (fun t _ => hg t) _

theorem requestKeys_updateAttempts {p : AttemptRow → Bool} {s : AttemptState} :
    (L.updateAttempts p s).attempts.filterMap AttemptRow.requestKey =
      L.attempts.filterMap AttemptRow.requestKey :=
  filterMap_updateWhere_of_eq (by intros; rfl) _

theorem SchemaOk.updateAuthorizations (h : L.SchemaOk) {p : AuthorizationRow → Bool}
    {s : AuthorizationState} : (L.updateAuthorizations p s).SchemaOk := by
  have hrow : ∀ a ∈ L.authorizations, ∃ a' ∈ (L.updateAuthorizations p s).authorizations,
      a'.tokenId = a.tokenId ∧ a'.link = a.link := by
    intro a ha
    refine ⟨if p a then { a with state := s } else a, mem_updateWhere.mpr ⟨a, ha, rfl⟩, ?_⟩
    split <;> exact ⟨rfl, rfl⟩
  refine { h with
    tokenIds := ?_, verificationIds := ?_, decisionIds := ?_, authorizationRequests := ?_,
    authorizationFk := ?_, attemptTokenFk := ?_, attemptFk := ?_ }
  · rw [map_updateAuthorizations fun _ => rfl]
    exact h.tokenIds
  · rw [map_updateAuthorizations fun _ => rfl]
    exact h.verificationIds
  · rw [map_updateAuthorizations fun _ => rfl]
    exact h.decisionIds
  · rw [requestKeys_updateAuthorizations]
    exact h.authorizationRequests
  · intro a ha l hl
    obtain ⟨b, hb, rfl⟩ := mem_updateWhere.mp ha
    refine h.authorizationFk b hb l ?_
    split at hl <;> exact hl
  · intro t ht
    obtain ⟨a, ha, hat⟩ := h.attemptTokenFk t ht
    obtain ⟨a', ha', htoken, -⟩ := hrow a ha
    exact ⟨a', ha', htoken.trans hat⟩
  · intro t ht l hl
    obtain ⟨a, ha, hat, hal⟩ := h.attemptFk t ht l hl
    obtain ⟨a', ha', htoken, hlink⟩ := hrow a ha
    exact ⟨a', ha', htoken.trans hat, by rw [hlink]; exact hal⟩

theorem SchemaOk.updateAttempts (h : L.SchemaOk) {p : AttemptRow → Bool} {s : AttemptState}
    (hs : s.CheckOk) : (L.updateAttempts p s).SchemaOk := by
  have hrow : ∀ {q : AttemptRow → Prop}, (∀ t ∈ L.attempts, q t) →
      (∀ t, q t → q { t with state := s }) → ∀ t ∈ (L.updateAttempts p s).attempts, q t := by
    intro q hq hstate t ht
    obtain ⟨u, hu, rfl⟩ := mem_updateWhere.mp ht
    split
    · exact hstate u (hq u hu)
    · exact hq u hu
  refine { h with
    attemptIds := ?_, attemptTokens := ?_, attemptIdempotencyKeys := ?_, attemptBindings := ?_,
    attemptRequests := ?_,
    attemptIdempotency := hrow h.attemptIdempotency fun _ ht => ht,
    attemptCheck := ?_,
    attemptTokenFk := hrow h.attemptTokenFk fun _ ht => ht,
    attemptFk := hrow h.attemptFk fun _ ht => ht }
  · rw [map_updateAttempts fun _ => rfl]
    exact h.attemptIds
  · rw [map_updateAttempts fun _ => rfl]
    exact h.attemptTokens
  · rw [map_updateAttempts fun _ => rfl]
    exact h.attemptIdempotencyKeys
  · rw [map_updateAttempts fun _ => rfl]
    exact h.attemptBindings
  · rw [requestKeys_updateAttempts]
    exact h.attemptRequests
  · intro t ht
    obtain ⟨u, hu, rfl⟩ := mem_updateWhere.mp ht
    split
    · exact hs
    · exact h.attemptCheck u hu

/-! ## §2 Selections -/

section Selections

variable {k : RequestKey}

/-- An update of the one row of a request. -/
theorem requestsOf_update {p : RequestRow → Bool} {f : RequestRow → RequestRow}
    (hrequests : L'.requests = updateWhere p f L.requests) (hkey : ∀ r, (f r).key = r.key)
    {r : RequestRow} (h : L.requestsOf k = [r]) (hr : p r = true) : L'.requestsOf k = [f r] := by
  have hfilter := filter_updateWhere_of_eq (p := p) (q := fun r => r.key = k) (f := f)
    (t := L.requests) fun r _ _ => by simp [hkey]
  rw [requestsOf, hrequests, hfilter]
  change updateWhere p f (L.requestsOf k) = _
  simp [h, updateWhere, hr]

theorem authorizationsOf_update {p : AuthorizationRow → Bool} {s : AuthorizationState}
    (hauthorizations : L'.authorizations = (L.updateAuthorizations p s).authorizations)
    {a : AuthorizationRow} (h : L.authorizationsOf k = [a]) (ha : p a = true) :
    L'.authorizationsOf k = [{ a with state := s }] := by
  have hfilter := filter_updateWhere_of_eq (p := p) (q := fun a => a.requestKey = some k)
    (f := fun a => { a with state := s }) (t := L.authorizations) fun _ _ _ => rfl
  rw [authorizationsOf, hauthorizations, updateAuthorizations, hfilter]
  change updateWhere p _ (L.authorizationsOf k) = _
  simp [h, updateWhere, ha]

theorem attemptsOf_update {p : AttemptRow → Bool} {s : AttemptState}
    (hattempts : L'.attempts = (L.updateAttempts p s).attempts)
    {t : AttemptRow} (h : L.attemptsOf k = [t]) (ht : p t = true) :
    L'.attemptsOf k = [{ t with state := s }] := by
  have hfilter := filter_updateWhere_of_eq (p := p) (q := fun t => t.requestKey = some k)
    (f := fun t => { t with state := s }) (t := L.attempts) fun _ _ _ => rfl
  rw [attemptsOf, hattempts, updateAttempts, hfilter]
  change updateWhere p _ (L.attemptsOf k) = _
  simp [h, updateWhere, ht]

/-- Inserting a row adds it to its own request's selection. -/
theorem requestsOf_insert {r : RequestRow} (h : L'.requests = L.requests ++ [r])
    (hr : r.key = k) : L'.requestsOf k = L.requestsOf k ++ [r] := by
  simp [requestsOf, h, List.filter_append, hr]

theorem authorizationsOf_insert {a : AuthorizationRow}
    (h : L'.authorizations = L.authorizations ++ [a]) (ha : a.requestKey = some k) :
    L'.authorizationsOf k = L.authorizationsOf k ++ [a] := by
  simp [authorizationsOf, h, List.filter_append, ha]

theorem attemptsOf_insert {t : AttemptRow} (h : L'.attempts = L.attempts ++ [t])
    (ht : t.requestKey = some k) : L'.attemptsOf k = L.attemptsOf k ++ [t] := by
  simp [attemptsOf, h, List.filter_append, ht]

theorem resultsOf_insert {x : ResultRow} (h : L'.requestResults = L.requestResults ++ [x])
    (hx : x.key = k) : L'.resultsOf k = L.resultsOf k ++ [x] := by
  simp [resultsOf, h, List.filter_append, hx]

theorem group_eq {as : List AuthorizationRow} {ts : List AttemptRow} {xs : List ResultRow}
    (h : L.group k = ⟨as, ts, xs⟩) :
    L.authorizationsOf k = as ∧ L.attemptsOf k = ts ∧ L.resultsOf k = xs := by
  simpa [group] using h

theorem group_mk {as : List AuthorizationRow} {ts : List AttemptRow} {xs : List ResultRow}
    (ha : L.authorizationsOf k = as) (ht : L.attemptsOf k = ts) (hx : L.resultsOf k = xs) :
    L.group k = ⟨as, ts, xs⟩ := by
  rw [group, ha, ht, hx]

end Selections

end Ledger

/-! ## §3 The rows of a request -/

theorem lifecycleCoherent_claimed {g : RequestGroup} :
    LifecycleCoherent .claimed g ↔ g = ⟨[], [], []⟩ := by
  unfold LifecycleCoherent
  constructor
  · intro h
    split at h <;> simp_all
  · rintro rfl
    trivial

theorem lifecycleCoherent_authorized {g : RequestGroup} :
    LifecycleCoherent .authorized g ↔ ∃ a, g = ⟨[a], [], []⟩ ∧ a.state.consumedAt = none := by
  unfold LifecycleCoherent
  constructor
  · intro h
    split at h <;> simp_all
  · rintro ⟨a, rfl, h⟩
    exact h

theorem lifecycleCoherent_attemptReserved {g : RequestGroup} :
    LifecycleCoherent .attemptReserved g ↔
      ∃ a t, g = ⟨[a], [t], []⟩ ∧ a.state.consumedAt.isSome = true ∧ t.state.effect = none := by
  unfold LifecycleCoherent
  constructor
  · intro h
    split at h <;> simp_all
  · rintro ⟨a, t, rfl, h⟩
    exact h

theorem lifecycleCoherent_terminal {g : RequestGroup} :
    LifecycleCoherent .terminal g ↔
      (∃ x, g = ⟨[], [], [x]⟩) ∨ (∃ a x, g = ⟨[a], [], [x]⟩ ∧ a.state.revokedAt.isSome = true) ∨
      ∃ a t x, g = ⟨[a], [t], [x]⟩ ∧ a.state.consumedAt.isSome = true ∧
        t.state.effect.isSome = true := by
  unfold LifecycleCoherent
  constructor
  · intro h
    split at h <;> simp_all
  · rintro (⟨x, rfl⟩ | ⟨a, x, rfl, h⟩ | ⟨a, t, x, rfl, h⟩)
    · trivial
    · exact h
    · exact h

section Rows

variable {rt : Runtime} {L : Ledger} {k : RequestKey}

theorem Ledger.requestsOf_eq_nil (h : L.request k = none) : L.requestsOf k = [] := by
  rw [Ledger.requestsOf, List.filter_eq_nil_iff]
  intro r hr
  simpa using Ledger.request_eq_none.mp h r hr

/-- A request that was never claimed has no rows. -/
theorem Ledger.SchemaOk.group_of_unclaimed (hs : L.SchemaOk) (h : L.request k = none) :
    L.group k = ⟨[], [], []⟩ := by
  have hrequest := Ledger.request_eq_none.mp h
  have hauth : ∀ a ∈ L.authorizations, a.requestKey ≠ some k := by
    intro a ha hk
    simp only [AuthorizationRow.requestKey, Option.map_eq_some_iff] at hk
    obtain ⟨l, hl, rfl⟩ := hk
    obtain ⟨r, hr, hrk, -⟩ := hs.authorizationFk a ha l hl
    exact hrequest r hr hrk
  have hattempt : ∀ t ∈ L.attempts, t.requestKey ≠ some k := by
    intro t ht hk
    obtain ⟨a, ha, hat⟩ := hs.attemptTokenFk t ht
    exact hauth a ha (hs.requestKey_of_token ha ht hk hat)
  have hresult : ∀ x ∈ L.requestResults, x.key ≠ k := by
    rintro x hx rfl
    obtain ⟨r, hr, hrk⟩ := hs.resultFk x hx
    exact hrequest r hr hrk
  simp only [Ledger.group, RequestGroup.mk.injEq]
  refine ⟨?_, ?_, ?_⟩
  · rw [Ledger.authorizationsOf, List.filter_eq_nil_iff]
    simpa using hauth
  · rw [Ledger.attemptsOf, List.filter_eq_nil_iff]
    simpa using hattempt
  · rw [Ledger.resultsOf, List.filter_eq_nil_iff]
    simpa using hresult

/-- The events of a request whose rows are known. -/
theorem groupEvents_eq (rt : Runtime) {rs : List RequestRow} {as : List AuthorizationRow}
    {ts : List AttemptRow} {xs : List ResultRow} (hr : L.requestsOf k = rs)
    (hg : L.group k = ⟨as, ts, xs⟩) :
    groupEvents rt L k = rs.flatMap (requestEvents rt) ++ ts.flatMap (attemptEvents rt) ++
      as.flatMap (authorizationEvents rt L) ++ xs.flatMap (resultEvents rt) := by
  obtain ⟨ha, ht, hx⟩ := Ledger.group_eq hg
  rw [groupEvents, hr, ha, ht, hx]

end Rows

end DecisionFirewall.StageA
