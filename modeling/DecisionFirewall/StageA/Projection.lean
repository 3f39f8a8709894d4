import DecisionFirewall.StageA.Writers

/-!
# The Outbox as a Projection

What the projection half of the validator says about an accepted ledger, in the
form the writers need it:

- §1 which durable row an observed event comes from (`Ledger.Emitted`);
- §2 the expected events are distinct exactly when the request subjects are;
- §3 appending rows keeps the order checks (`eventBefore_append`);
- §4 the order checks hold without their guards (`OrderedEvents`);
- §5 what a transaction that appends events must show (`EventsAppended`).
-/

namespace DecisionFirewall.StageA

open Lib.Table

/-! ## §1 The source of an event -/

/-- The durable row that calls for an event. -/
def Ledger.Emitted (L : Ledger) (key : EventKey) : Prop :=
  match key.eventType with
  | .requestClaimed => ∃ r ∈ L.requests, r.key.subject = key.subjectId
  | .authorizationIssued => ∃ a ∈ L.authorizations, a.tokenId = key.subjectId
  | .authorizationConsumed =>
    ∃ a ∈ L.authorizations, a.tokenId = key.subjectId ∧ a.state.consumedAt.isSome = true
  | .authorizationRevoked =>
    ∃ a ∈ L.authorizations, a.tokenId = key.subjectId ∧ a.state.revokedAt.isSome = true
  | .attemptReserved => ∃ t ∈ L.attempts, t.attemptId = key.subjectId
  | .adapterReceiptRecorded =>
    ∃ t ∈ L.attempts, t.attemptId = key.subjectId ∧ t.state.adapterReceiptSha256.isSome = true
  | .attemptTerminal | .attemptRecoveredUnknown =>
    ∃ t ∈ L.attempts, t.attemptId = key.subjectId ∧ t.state.effect.isSome = true
  | .requestTerminal => ∃ x ∈ L.requestResults, x.key.subject = key.subjectId

section Expected

variable {rt : Runtime} {L : Ledger}

theorem mem_expectedEvents {e : ExpectedEvent} :
    e ∈ expectedEvents rt L ↔
      (∃ r ∈ L.requests, e ∈ requestEvents rt r) ∨ (∃ t ∈ L.attempts, e ∈ attemptEvents rt t) ∨
      (∃ a ∈ L.authorizations, e ∈ authorizationEvents rt L a) ∨
      ∃ x ∈ L.requestResults, e ∈ resultEvents rt x := by
  simp only [expectedEvents, List.mem_append, List.mem_flatMap, or_assoc]

theorem key_of_mem_requestEvents {r : RequestRow} {e : ExpectedEvent}
    (h : e ∈ requestEvents rt r) : e.key = ⟨.requestClaimed, r.key.subject⟩ := by
  simp only [requestEvents, List.mem_singleton] at h
  rw [h]
  rfl

theorem key_of_mem_resultEvents {x : ResultRow} {e : ExpectedEvent}
    (h : e ∈ resultEvents rt x) : e.key = ⟨.requestTerminal, x.key.subject⟩ := by
  simp only [resultEvents, List.mem_singleton] at h
  rw [h]
  rfl

/-- The event types of an attempt, with the state that calls for each. -/
theorem key_of_mem_attemptEvents {t : AttemptRow} {e : ExpectedEvent}
    (h : e ∈ attemptEvents rt t) :
    e.key.subjectId = t.attemptId ∧
      (e.key.eventType = .attemptReserved ∨
        (e.key.eventType = .adapterReceiptRecorded ∧
          t.state.adapterReceiptSha256.isSome = true) ∨
        ((e.key.eventType = .attemptTerminal ∨ e.key.eventType = .attemptRecoveredUnknown) ∧
          t.state.effect.isSome = true)) := by
  rcases List.mem_cons.mp h with rfl | h
  · exact ⟨rfl, .inl rfl⟩
  cases hs : t.state with
  | reserved => simp [hs] at h
  | receiptRecorded o r =>
    simp only [hs, List.mem_singleton] at h
    subst h
    exact ⟨rfl, .inr (.inl ⟨rfl, by simp [AttemptState.adapterReceiptSha256]⟩)⟩
  | terminal effect o r c =>
    simp only [hs, List.mem_append] at h
    rcases h with h | h
    · split at h
      · simp only [List.mem_singleton] at h
        subst h
        exact ⟨rfl, .inr (.inl ⟨rfl, by simpa [AttemptState.adapterReceiptSha256]⟩)⟩
      · simp at h
    · refine ⟨?_, .inr (.inr ⟨?_, by simp [AttemptState.effect]⟩)⟩ <;>
        simp only [attemptTerminalEvents] at h <;> split at h <;>
        simp only [List.mem_cons, List.not_mem_nil, or_false] at h
      · rcases h with rfl | rfl <;> rfl
      · subst h; rfl
      · rcases h with rfl | rfl <;> simp [exactEvent]
      · subst h; exact .inl rfl

/-- The event types of an authorization, with the state that calls for each. -/
theorem key_of_mem_authorizationEvents {a : AuthorizationRow} {e : ExpectedEvent}
    (h : e ∈ authorizationEvents rt L a) :
    e.key.subjectId = a.tokenId ∧
      (e.key.eventType = .authorizationIssued ∨
        (e.key.eventType = .authorizationConsumed ∧ a.state.consumedAt.isSome = true) ∨
        (e.key.eventType = .authorizationRevoked ∧ a.state.revokedAt.isSome = true)) := by
  rcases List.mem_cons.mp h with rfl | h
  · exact ⟨rfl, .inl rfl⟩
  cases hs : a.state with
  | issued => simp [hs] at h
  | consumed c =>
    simp only [hs, List.mem_singleton] at h
    subst h
    exact ⟨rfl, .inr (.inl ⟨rfl, rfl⟩)⟩
  | revoked r reason =>
    simp only [hs, List.mem_singleton] at h
    subst h
    exact ⟨rfl, .inr (.inr ⟨rfl, rfl⟩)⟩

/-- Every expected event has its row. -/
theorem emitted_of_mem_expectedEvents {e : ExpectedEvent} (h : e ∈ expectedEvents rt L) :
    L.Emitted e.key := by
  rcases mem_expectedEvents.mp h with ⟨r, hr, he⟩ | ⟨t, ht, he⟩ | ⟨a, ha, he⟩ | ⟨x, hx, he⟩
  · rw [key_of_mem_requestEvents he]
    exact ⟨r, hr, rfl⟩
  · obtain ⟨hsubject, htype | ⟨htype, hs⟩ | ⟨htype | htype, hs⟩⟩ := key_of_mem_attemptEvents he <;>
      simp only [Ledger.Emitted, htype]
    · exact ⟨t, ht, hsubject.symm⟩
    all_goals exact ⟨t, ht, hsubject.symm, hs⟩
  · obtain ⟨hsubject, htype | ⟨htype, hs⟩ | ⟨htype, hs⟩⟩ := key_of_mem_authorizationEvents he <;>
      simp only [Ledger.Emitted, htype]
    · exact ⟨a, ha, hsubject.symm⟩
    all_goals exact ⟨a, ha, hsubject.symm, hs⟩
  · rw [key_of_mem_resultEvents he]
    exact ⟨x, hx, rfl⟩

/-- Every observed event has its row. -/
theorem OutboxProjectionOk.emitted (h : OutboxProjectionOk rt L) {o : OutboxRow}
    (ho : o ∈ L.auditOutbox) : L.Emitted o.key := by
  obtain ⟨e, he, hmatch⟩ := h.matched o ho
  rw [← hmatch.1]
  exact emitted_of_mem_expectedEvents he

/-- An event without its row was never written. -/
theorem OutboxProjectionOk.unobserved (h : OutboxProjectionOk rt L) {key : EventKey}
    (hkey : ¬ L.Emitted key) : ∀ o ∈ L.auditOutbox, o.key ≠ key :=
  fun _ ho hne => hkey (hne ▸ h.emitted ho)

end Expected

/-! ## §2 Distinct events -/

section Distinct

variable {rt : Runtime} {L : Ledger}

theorem nodup_attemptEvents (rt : Runtime) (t : AttemptRow) :
    ((attemptEvents rt t).map ExpectedEvent.key).Nodup := by
  unfold attemptEvents attemptTerminalEvents
  cases t.state with
  | reserved => simp
  | receiptRecorded o r => simp [attemptReservedEvent, exactEvent]
  | terminal e o r c =>
    split_ifs <;> cases r <;> simp [attemptReservedEvent, exactEvent]

theorem nodup_authorizationEvents (rt : Runtime) (L : Ledger) (a : AuthorizationRow) :
    ((authorizationEvents rt L a).map ExpectedEvent.key).Nodup := by
  unfold authorizationEvents
  cases a.state <;> simp [exactEvent]

/-- Keys that carry the identity of their row are distinct across rows. -/
theorem nodup_flatMap_events {α : Type} {t : List α} {f : α → List ExpectedEvent}
    {ident : α → String} (hident : (t.map ident).Nodup)
    (hkeys : ∀ a ∈ t, ((f a).map ExpectedEvent.key).Nodup)
    (howner : ∀ a ∈ t, ∀ e ∈ f a, e.key.subjectId = ident a) :
    ((t.flatMap f).map ExpectedEvent.key).Nodup := by
  induction t with
  | nil => simp
  | cons a t ih =>
    simp only [List.map_cons, List.nodup_cons, List.mem_map, not_exists, not_and] at hident
    rw [List.flatMap_cons, List.map_append, List.nodup_append]
    refine ⟨hkeys a (by simp), ih hident.2 (fun b hb => hkeys b (List.mem_cons_of_mem _ hb))
      (fun b hb => howner b (List.mem_cons_of_mem _ hb)), ?_⟩
    rintro k hk _ hk' rfl
    obtain ⟨e, he, rfl⟩ := List.mem_map.mp hk
    obtain ⟨e', he', hee'⟩ := List.mem_map.mp hk'
    obtain ⟨b, hb, heb⟩ := List.mem_flatMap.mp he'
    have h1 := howner a (by simp) e he
    have h2 := howner b (List.mem_cons_of_mem _ hb) e' heb
    rw [hee'] at h2
    exact hident.1 b hb (h2.symm.trans h1)

/-- The table a type of event belongs to. -/
def EventType.owner : EventType → Nat
  | .requestClaimed => 0
  | .attemptReserved | .adapterReceiptRecorded | .attemptTerminal | .attemptRecoveredUnknown => 1
  | .authorizationIssued | .authorizationConsumed | .authorizationRevoked => 2
  | .requestTerminal => 3

theorem owner_attemptEvents {t : AttemptRow} {e : ExpectedEvent} (h : e ∈ attemptEvents rt t) :
    e.key.eventType.owner = 1 := by
  obtain ⟨-, h | ⟨h, -⟩ | ⟨h | h, -⟩⟩ := key_of_mem_attemptEvents h <;> rw [h] <;> rfl

theorem owner_authorizationEvents {a : AuthorizationRow} {e : ExpectedEvent}
    (h : e ∈ authorizationEvents rt L a) : e.key.eventType.owner = 2 := by
  obtain ⟨-, h | ⟨h, -⟩ | ⟨h, -⟩⟩ := key_of_mem_authorizationEvents h <;> rw [h] <;> rfl

/-- Four lists of events of different owners. -/
theorem nodup_append_owners {l₀ l₁ l₂ l₃ : List ExpectedEvent}
    (h₀ : ∀ e ∈ l₀, e.key.eventType.owner = 0) (h₁ : ∀ e ∈ l₁, e.key.eventType.owner = 1)
    (h₂ : ∀ e ∈ l₂, e.key.eventType.owner = 2) (h₃ : ∀ e ∈ l₃, e.key.eventType.owner = 3) :
    ((l₀ ++ l₁ ++ l₂ ++ l₃).map ExpectedEvent.key).Nodup ↔
      (l₀.map ExpectedEvent.key).Nodup ∧ (l₁.map ExpectedEvent.key).Nodup ∧
        (l₂.map ExpectedEvent.key).Nodup ∧ (l₃.map ExpectedEvent.key).Nodup := by
  have disjoint : ∀ {i j : Nat} {s t : List ExpectedEvent}, i ≠ j →
      (∀ e ∈ s, e.key.eventType.owner = i) → (∀ e ∈ t, e.key.eventType.owner = j) →
      ∀ a ∈ s.map ExpectedEvent.key, ∀ b ∈ t.map ExpectedEvent.key, a ≠ b := by
    rintro i j s t hij hs ht _ ha _ hb rfl
    obtain ⟨e, he, rfl⟩ := List.mem_map.mp ha
    obtain ⟨e', he', hee'⟩ := List.mem_map.mp hb
    exact hij ((hs e he).symm.trans (hee' ▸ ht e' he'))
  simp only [List.map_append, List.nodup_append, List.mem_append]
  constructor
  · rintro ⟨⟨⟨a, b, -⟩, c, -⟩, d, -⟩
    exact ⟨a, b, c, d⟩
  · rintro ⟨a, b, c, d⟩
    refine ⟨⟨⟨a, b, disjoint (by decide) h₀ h₁⟩, c, ?_⟩, d, ?_⟩
    · rintro x (hx | hx)
      · exact disjoint (by decide) h₀ h₂ x hx
      · exact disjoint (by decide) h₁ h₂ x hx
    · rintro x ((hx | hx) | hx)
      · exact disjoint (by decide) h₀ h₃ x hx
      · exact disjoint (by decide) h₁ h₃ x hx
      · exact disjoint (by decide) h₂ h₃ x hx

/-- A stored result's request is in the table, so result subjects are request subjects. -/
theorem Ledger.SchemaOk.nodup_resultSubjects (h : L.SchemaOk)
    (hsubjects : (L.requests.map fun r => r.key.subject).Nodup) :
    (L.requestResults.map fun x => x.key.subject).Nodup := by
  have hinj : ∀ x ∈ L.requestResults, ∀ y ∈ L.requestResults,
      x.key.subject = y.key.subject → x = y := by
    intro x hx y hy hxy
    obtain ⟨r, hr, hrx⟩ := h.resultFk x hx
    obtain ⟨s, hs, hsy⟩ := h.resultFk y hy
    have : r = s := eq_of_nodup_key hsubjects hr hs (by simp only [hrx, hsy, hxy])
    exact eq_of_nodup_key h.resultKeys hx hy (hrx.symm.trans (this ▸ hsy))
  exact List.Nodup.map_on hinj h.resultKeys.of_map

/-- Under SQLite's constraints the validator's `expected` has one entry a key exactly
when no two requests share a subject. -/
theorem expectedKeys_nodup_iff (h : L.SchemaOk) :
    ((expectedEvents rt L).map ExpectedEvent.key).Nodup ↔
      (L.requests.map fun r => r.key.subject).Nodup := by
  have h₀ : ∀ e ∈ L.requests.flatMap (requestEvents rt), e.key.eventType.owner = 0 := by
    intro e he
    obtain ⟨r, -, hr⟩ := List.mem_flatMap.mp he
    rw [key_of_mem_requestEvents hr]; rfl
  have h₁ : ∀ e ∈ L.attempts.flatMap (attemptEvents rt), e.key.eventType.owner = 1 := by
    intro e he
    obtain ⟨t, -, ht⟩ := List.mem_flatMap.mp he
    exact owner_attemptEvents ht
  have h₂ : ∀ e ∈ L.authorizations.flatMap (authorizationEvents rt L),
      e.key.eventType.owner = 2 := by
    intro e he
    obtain ⟨a, -, ha⟩ := List.mem_flatMap.mp he
    exact owner_authorizationEvents ha
  have h₃ : ∀ e ∈ L.requestResults.flatMap (resultEvents rt), e.key.eventType.owner = 3 := by
    intro e he
    obtain ⟨x, -, hx⟩ := List.mem_flatMap.mp he
    rw [key_of_mem_resultEvents hx]; rfl
  have hattempts := nodup_flatMap_events h.attemptIds (fun t _ => nodup_attemptEvents rt t)
    (fun t _ e he => (key_of_mem_attemptEvents he).1)
  have hauthorizations := nodup_flatMap_events h.tokenIds
    (fun a _ => nodup_authorizationEvents rt L a)
    (fun a _ e he => (key_of_mem_authorizationEvents he).1)
  rw [expectedEvents, nodup_append_owners h₀ h₁ h₂ h₃]
  constructor
  · rintro ⟨hrequests, -, -, -⟩
    have : (L.requests.flatMap (requestEvents rt)).map ExpectedEvent.key
        = (L.requests.map fun r => r.key.subject).map fun s => ⟨.requestClaimed, s⟩ := by
      simp only [List.map_flatMap, requestEvents, exactEvent, List.map_cons, List.map_nil,
        List.map_map]
      rw [← List.map_eq_flatMap]
      rfl
    rw [this] at hrequests
    exact hrequests.of_map
  · intro hsubjects
    refine ⟨nodup_flatMap_events hsubjects (fun r _ => by simp [requestEvents]) ?_, hattempts,
      hauthorizations, nodup_flatMap_events (h.nodup_resultSubjects hsubjects)
        (fun x _ => by simp [resultEvents]) ?_⟩
    · intro r _ e he
      rw [key_of_mem_requestEvents he]
    · intro x _ e he
      rw [key_of_mem_resultEvents he]

end Distinct

/-! ## §3 The order of events -/

section Order

variable {rt : Runtime} {L L' : Ledger} {first second : EventKey}

theorem Ledger.mem_eventId {key : EventKey} {i : Nat} (h : i ∈ L.eventId key) :
    ∃ o ∈ L.auditOutbox, o.key = key ∧ o.eventId = i := by
  simp only [Ledger.eventId, Option.mem_def, Option.map_eq_some_iff] at h
  obtain ⟨o, ho, rfl⟩ := h
  exact ⟨o, List.mem_of_find?_eq_some ho, by simpa using List.find?_some ho, rfl⟩

theorem Ledger.eventId_eq_none {key : EventKey} (h : ∀ o ∈ L.auditOutbox, o.key ≠ key) :
    L.eventId key = none := by
  have : L.auditOutbox.find? (fun o => o.key = key) = none := by
    rw [List.find?_eq_none]
    intro o ho
    simpa using h o ho
  simp [Ledger.eventId, this]

theorem eventBefore_of_first (h : ∀ o ∈ L.auditOutbox, o.key ≠ first) :
    L.EventBefore first second := by
  simp [Ledger.EventBefore, Ledger.eventId_eq_none h]

theorem eventBefore_of_second (h : ∀ o ∈ L.auditOutbox, o.key ≠ second) :
    L.EventBefore first second := by
  simp [Ledger.EventBefore, Ledger.eventId_eq_none h]

/-- Two written events compare by their rows. -/
theorem eventBefore_of_rows (hkeys : (L.auditOutbox.map OutboxRow.key).Nodup) {o o' : OutboxRow}
    (ho : o ∈ L.auditOutbox) (ho' : o' ∈ L.auditOutbox) (hlt : o.eventId < o'.eventId) :
    L.EventBefore o.key o'.key := by
  intro i hi j hj
  obtain ⟨p, hp, hpk, rfl⟩ := Ledger.mem_eventId hi
  obtain ⟨q, hq, hqk, rfl⟩ := Ledger.mem_eventId hj
  rw [eq_of_nodup_key hkeys hp ho hpk, eq_of_nodup_key hkeys hq ho' hqk]
  exact hlt

/-- Rows appended with larger identifiers keep an order check whose first event is
not among them. -/
theorem eventBefore_append {rows : List OutboxRow}
    (hrows : L'.auditOutbox = L.auditOutbox ++ rows)
    (hlt : ∀ o ∈ L.auditOutbox, ∀ o' ∈ rows, o.eventId < o'.eventId)
    (hfirst : ∀ o ∈ rows, o.key ≠ first) (h : L.EventBefore first second) :
    L'.EventBefore first second := by
  intro i hi j hj
  have hi' : i ∈ L.eventId first := by
    simp only [Ledger.eventId, hrows, List.find?_append] at hi
    have hnone : rows.find? (fun o => o.key = first) = none := by
      rw [List.find?_eq_none]
      intro o ho
      simpa using hfirst o ho
    rwa [hnone, Option.or_none] at hi
  obtain ⟨o, ho, -, rfl⟩ := Ledger.mem_eventId hi'
  simp only [Ledger.eventId, hrows, List.find?_append] at hj
  cases hf : L.auditOutbox.find? (fun o => o.key = second) with
  | some q =>
    rw [hf, Option.some_or] at hj
    exact h _ hi' j (by simpa [Ledger.eventId, hf] using hj)
  | none =>
    rw [hf, Option.none_or] at hj
    simp only [Option.mem_def, Option.map_eq_some_iff] at hj
    obtain ⟨q, hq, rfl⟩ := hj
    exact hlt o ho q (List.mem_of_find?_eq_some hq)

end Order

/-! ## §4 The order checks without their guards -/

section Unguarded

variable {rt : Runtime} {L : Ledger}

/-- Every order check holds with its guard left out: an event that the guard
excludes was never written. -/
structure OrderedEvents (L : Ledger) : Prop where
  claimedIssued : ∀ a ∈ L.authorizations, ∀ k ∈ a.requestKey,
    L.EventBefore ⟨.requestClaimed, k.subject⟩ ⟨.authorizationIssued, a.tokenId⟩
  issuedConsumed : ∀ a ∈ L.authorizations,
    L.EventBefore ⟨.authorizationIssued, a.tokenId⟩ ⟨.authorizationConsumed, a.tokenId⟩
  reservedConsumed : ∀ t ∈ L.attempts,
    L.EventBefore ⟨.attemptReserved, t.attemptId⟩ ⟨.authorizationConsumed, t.tokenId⟩
  issuedRevoked : ∀ a ∈ L.authorizations,
    L.EventBefore ⟨.authorizationIssued, a.tokenId⟩ ⟨.authorizationRevoked, a.tokenId⟩
  claimedTerminal : ∀ r ∈ L.requests,
    L.EventBefore ⟨.requestClaimed, r.key.subject⟩ ⟨.requestTerminal, r.key.subject⟩
  attempts : ∀ t ∈ L.attempts, AttemptOrderOk L t

theorem Ledger.attemptByToken_eq_some (h : L.SchemaOk) {t : AttemptRow} {tokenId : String} :
    L.attemptByToken tokenId = some t ↔ t ∈ L.attempts ∧ t.tokenId = tokenId :=
  find?_key_eq_some h.attemptTokens

theorem OutboxProjectionOk.ordered (hs : L.SchemaOk) (h : OutboxProjectionOk rt L) :
    OrderedEvents L where
  claimedIssued a ha := (h.authorizationOrder a ha).claimed
  issuedConsumed a ha := by
    by_cases hc : a.state.consumedAt.isSome = true
    · exact ((h.authorizationOrder a ha).consumed hc).1
    · apply eventBefore_of_second
      apply h.unobserved
      rintro ⟨b, hb, hba, hbc⟩
      rw [eq_of_nodup_key hs.tokenIds hb ha hba] at hbc
      exact hc hbc
  reservedConsumed t ht := by
    obtain ⟨a, ha, hat⟩ := hs.attemptTokenFk t ht
    by_cases hc : a.state.consumedAt.isSome = true
    · have hby := (Ledger.attemptByToken_eq_some hs).mpr ⟨ht, hat.symm⟩
      have := ((h.authorizationOrder a ha).consumed hc).2 t hby
      rwa [hat] at this
    · apply eventBefore_of_second
      apply h.unobserved
      rintro ⟨b, hb, hba, hbc⟩
      rw [eq_of_nodup_key hs.tokenIds hb ha (hba.trans hat.symm)] at hbc
      exact hc hbc
  issuedRevoked a ha := by
    by_cases hc : a.state.revokedAt.isSome = true
    · exact (h.authorizationOrder a ha).revoked hc
    · apply eventBefore_of_second
      apply h.unobserved
      rintro ⟨b, hb, hba, hbc⟩
      rw [eq_of_nodup_key hs.tokenIds hb ha hba] at hbc
      exact hc hbc
  claimedTerminal := h.requestOrder
  attempts := h.attemptOrder

theorem OrderedEvents.authorizationOrder (hs : L.SchemaOk) (h : OrderedEvents L)
    {a : AuthorizationRow} (ha : a ∈ L.authorizations) : AuthorizationOrderOk L a where
  claimed := h.claimedIssued a ha
  consumed _ := by
    refine ⟨h.issuedConsumed a ha, fun t ht => ?_⟩
    obtain ⟨ht, hta⟩ := (Ledger.attemptByToken_eq_some hs).mp ht
    exact hta ▸ h.reservedConsumed t ht
  revoked _ := h.issuedRevoked a ha

end Unguarded

/-! ## §5 Appending events -/

section Append

variable {rt : Runtime} {L L' : Ledger} {rows : List OutboxRow}

/-- `e'` asks of a row no more than `e` does. -/
def ExpectedEvent.Weakens (e' e : ExpectedEvent) : Prop :=
  e'.key = e.key ∧ (∀ d ∈ e'.digest, d ∈ e.digest) ∧ ∀ c ∈ e'.createdAt, c ∈ e.createdAt

theorem ExpectedEvent.Weakens.refl (e : ExpectedEvent) : e.Weakens e :=
  ⟨rfl, fun _ h => h, fun _ h => h⟩

theorem OutboxRow.Matches.weaken {o : OutboxRow} {e e' : ExpectedEvent} (h : o.Matches e)
    (he : e'.Weakens e) : o.Matches e' :=
  ⟨he.1.trans h.1, fun d hd => h.2.1 d (he.2.1 d hd), fun c hc => h.2.2 c (he.2.2 c hc)⟩

/-- A transaction appended `rows` to the outbox and changed durable rows so that old
events are still called for and new required events are among `rows`. -/
structure EventsAppended (rt : Runtime) (L L' : Ledger) (rows : List OutboxRow) : Prop where
  outbox : L'.auditOutbox = L.auditOutbox ++ rows
  kept : ∀ e ∈ expectedEvents rt L, ∃ e' ∈ expectedEvents rt L', e'.Weakens e
  matched : ∀ o ∈ rows, ∃ e ∈ expectedEvents rt L', o.Matches e
  covered : ∀ e' ∈ expectedEvents rt L', e'.required = true →
    (∃ e ∈ expectedEvents rt L, e.required = true ∧ e.key = e'.key) ∨ ∃ o ∈ rows, o.key = e'.key

theorem EventsAppended.matched_all (h : EventsAppended rt L L' rows)
    (hL : OutboxProjectionOk rt L) {o : OutboxRow} (ho : o ∈ L'.auditOutbox) :
    ∃ e ∈ expectedEvents rt L', o.Matches e := by
  rw [h.outbox, List.mem_append] at ho
  rcases ho with ho | ho
  · obtain ⟨e, he, hmatch⟩ := hL.matched o ho
    obtain ⟨e', he', hweak⟩ := h.kept e he
    exact ⟨e', he', hmatch.weaken hweak⟩
  · exact h.matched o ho

theorem EventsAppended.covered_all (h : EventsAppended rt L L' rows)
    (hL : OutboxProjectionOk rt L) {e' : ExpectedEvent} (he' : e' ∈ expectedEvents rt L')
    (hreq : e'.required = true) : ∃ o ∈ L'.auditOutbox, o.key = e'.key := by
  rw [h.outbox]
  rcases h.covered e' he' hreq with ⟨e, he, hreq', hkey⟩ | ⟨o, ho, hkey⟩
  · obtain ⟨o, ho, hok⟩ := hL.covered e he hreq'
    exact ⟨o, List.mem_append_left _ ho, hok.trans hkey⟩
  · exact ⟨o, List.mem_append_right _ ho, hkey⟩

end Append

end DecisionFirewall.StageA
