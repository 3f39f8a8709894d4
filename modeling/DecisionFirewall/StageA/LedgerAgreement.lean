import DecisionFirewall.StageA.Isolation
import DecisionFirewall.StageA.MemoryLedger

/-!
# The Two Control Ledgers

The in-memory ledger mirrors the SQLite ledger through every run of the calls they share
that stays off the branches on which the former checks less or does less than the latter
(`runs_agree`).

- §1 what the ledgers have in common
- §2 where they part
- §3 claims and registrations
- §4 consumptions
- §5 receipts and outcomes
- §6 recoveries
- §7 runs
-/

namespace DecisionFirewall.StageA

open Lib.Table

/-! ## §1 What the ledgers have in common -/

def AuthorizationState.status : AuthorizationState → TokenStatus
  | .issued => .issued
  | .consumed _ => .consumed
  | .revoked _ _ => .revoked

def AttemptState.status : AttemptState → AttemptStatus
  | .reserved => .reserved
  | .receiptRecorded _ _ => .receiptRecorded
  | .terminal effect _ _ _ => .terminal effect

/-- What both ledgers store of an attempt. -/
structure AttemptView where
  attemptId : String
  tokenId : String
  bindingSha256 : String
  status : AttemptStatus
  outcomeSha256 : Option String
  adapterReceiptSha256 : Option String
  deriving DecidableEq, Repr

def MemoryAttempt.view (row : MemoryAttempt) : AttemptView :=
  ⟨row.attemptId, row.tokenId, row.bindingSha256, row.state, row.outcomeSha256,
    row.adapterReceiptSha256⟩

def AttemptRow.view (t : AttemptRow) : AttemptView :=
  ⟨t.attemptId, t.tokenId, t.bindingSha256, t.state.status, t.state.outcomeSha256,
    t.state.adapterReceiptSha256⟩

/-- The dictionaries hold what the tables hold, and no row of the tables has a request. -/
structure Mirrors (M : MemoryLedger) (L : Ledger) : Prop where
  requests : M.requests = L.requests.map fun r => (r.key, r.requestSha256)
  tokens : M.authorizationStates = L.authorizations.map fun a => (a.tokenId, a.state.status)
  verificationIds : M.verificationIds = L.authorizations.map AuthorizationRow.verificationId
  decisionIds : M.decisionIds = L.authorizations.map AuthorizationRow.decisionId
  attempts : M.attempts.map MemoryAttempt.view = L.attempts.map AttemptRow.view
  tokenAttempts : M.tokenAttempts = L.attempts.map fun t => (t.tokenId, t.attemptId)
  authorizationLinks : ∀ a ∈ L.authorizations, a.link = none
  attemptLinks : ∀ t ∈ L.attempts, t.link = none

section Mirrors

variable {M : MemoryLedger} {L : Ledger}

theorem Mirrors.attempt (h : Mirrors M L) (attemptId : String) :
    (M.attempt attemptId).map MemoryAttempt.view = (L.attempt attemptId).map AttemptRow.view := by
  have hfind := congrArg (List.find? fun v : AttemptView => v.attemptId = attemptId) h.attempts
  rwa [List.find?_map, List.find?_map] at hfind

theorem Mirrors.attemptIds (h : Mirrors M L) :
    M.attempts.map MemoryAttempt.attemptId = L.attempts.map AttemptRow.attemptId := by
  have hids := congrArg (List.map AttemptView.attemptId) h.attempts
  rwa [List.map_map, List.map_map] at hids

end Mirrors

/-! ## §2 Where they part -/

section Departs

variable (rt : Runtime) (now : String) (L : Ledger)

end Departs

/-! ## §3 Claims and registrations -/

section Calls

variable {rt : Runtime} {clock : CallClock} {M M' : MemoryLedger} {L L' : Ledger}

/-- Both ledgers gave one answer, and the one mirrors the other. -/
def Agree (x : Answer × MemoryLedger) (y : Answer × Ledger) : Prop :=
  x.1 = y.1 ∧ Mirrors x.2 y.2

/-- The token of the one row and its new state, in both ledgers. -/
theorem Mirrors.tokens_consumed (hL : Accepted rt L) (h : Mirrors M L) {z : AuthorizationRow}
    (hz : z ∈ L.authorizations) (hstate : z.state = .issued) (consumedAt : String) :
    (M.setToken z.tokenId .consumed).authorizationStates =
      (L.updateAuthorizations (fun b => b.tokenId = z.tokenId ∧ b.state = .issued)
        (.consumed consumedAt)).authorizations.map fun a => (a.tokenId, a.state.status) := by
  show updateWhere _ _ M.authorizationStates = _
  rw [h.tokens, Ledger.updateAuthorizations]
  symm
  apply map_updateWhere_comm
  · intro b hb
    rw [Bool.eq_iff_iff, decide_eq_true_eq, decide_eq_true_eq]
    refine ⟨fun hid => ⟨hid, ?_⟩, And.left⟩
    rw [eq_of_nodup_key hL.schema.tokenIds hb hz hid]
    exact hstate
  · intro b _ _
    rfl

theorem updateAuthorizations_keys (p : AuthorizationRow → Bool) (s : AuthorizationState) :
    (L.updateAuthorizations p s).authorizations.map AuthorizationRow.verificationId =
        L.authorizations.map AuthorizationRow.verificationId ∧
      (L.updateAuthorizations p s).authorizations.map AuthorizationRow.decisionId =
        L.authorizations.map AuthorizationRow.decisionId := by
  constructor
  · apply map_updateWhere_of_eq
    intro a _
    rfl
  · apply map_updateWhere_of_eq
    intro a _
    rfl

theorem updateAuthorizations_links {p : AuthorizationRow → Bool} {s : AuthorizationState}
    (h : ∀ a ∈ L.authorizations, a.link = none) :
    ∀ a ∈ (L.updateAuthorizations p s).authorizations, a.link = none := by
  intro a ha
  obtain ⟨b, hb, rfl⟩ := mem_updateWhere.mp ha
  split
  · exact h b hb
  · exact h b hb

theorem Mirrors.tokenIds (h : Mirrors M L) :
    M.tokenAttempts.map Prod.fst = L.attempts.map AttemptRow.tokenId := by
  rw [h.tokenAttempts, List.map_map]
  rfl

/-- Both ledgers hold the new attempt and the consumed token. -/
theorem Mirrors.reserved (hL : Accepted rt L) (h : Mirrors M L) {z : AuthorizationRow}
    (hz : z ∈ L.authorizations) (hstate : z.state = .issued) (res : Reservation)
    (consumedAt : String) :
    Mirrors (({ M with
        attempts := M.attempts ++ [MemoryLedger.reservedRow z.tokenId res consumedAt]
        tokenAttempts := M.tokenAttempts ++ [(z.tokenId, res.attemptId)] } :
          MemoryLedger).setToken z.tokenId .consumed)
      (unlinkedConsumedLedger rt L z res consumedAt) := by
  have hl := h.authorizationLinks z hz
  refine ⟨h.requests, h.tokens_consumed hL hz hstate consumedAt, ?_, ?_, ?_, ?_, ?_, ?_⟩
  · exact h.verificationIds.trans (updateAuthorizations_keys _ _).1.symm
  · exact h.decisionIds.trans (updateAuthorizations_keys _ _).2.symm
  · show (M.attempts ++ [_]).map _ = (L.attempts ++ [_]).map _
    rw [List.map_append, List.map_append, h.attempts]
    rfl
  · show M.tokenAttempts ++ [_] = (L.attempts ++ [_]).map _
    rw [List.map_append, h.tokenAttempts]
    rfl
  · exact updateAuthorizations_links h.authorizationLinks
  · intro t ht
    rcases List.mem_append.mp ht with ht | ht
    · exact h.attemptLinks t ht
    · rw [List.mem_singleton.mp ht]
      exact reservedAttempt_unlinked hl

theorem Mirrors.consumed (hL : Accepted rt L) (h : Mirrors M L) {z : AuthorizationRow}
    (hz : z ∈ L.authorizations) (hstate : z.state = .issued) (consumedAt : String) :
    Mirrors (M.setToken z.tokenId .consumed)
      (endedLedger rt L z (.consumed consumedAt) .authorizationConsumed
        (authorizationConsumedPayload none) consumedAt) :=
  ⟨h.requests, h.tokens_consumed hL hz hstate consumedAt,
    h.verificationIds.trans (updateAuthorizations_keys _ _).1.symm,
    h.decisionIds.trans (updateAuthorizations_keys _ _).2.symm, h.attempts, h.tokenAttempts,
    updateAuthorizations_links h.authorizationLinks, h.attemptLinks⟩

/-- The rows of one view are the one row. -/
theorem Mirrors.view_of_id (hL : Accepted rt L) (h : Mirrors M L) {t : AttemptRow}
    (ht : t ∈ L.attempts) {row : MemoryAttempt} (hrow : row ∈ M.attempts)
    (hid : row.attemptId = t.attemptId) : row.view = t.view := by
  have hmem : row.view ∈ L.attempts.map AttemptRow.view := by
    rw [← h.attempts]
    exact List.mem_map_of_mem hrow
  obtain ⟨u, hu, hview⟩ := List.mem_map.mp hmem
  have huid : u.attemptId = t.attemptId := (congrArg AttemptView.attemptId hview).trans hid
  rw [← hview, eq_of_nodup_key hL.schema.attemptIds hu ht huid]

/-- The one attempt gets its new state in both ledgers. -/
theorem Mirrors.setAttempt (hL : Accepted rt L) (h : Mirrors M L) {t : AttemptRow}
    {p : AttemptRow → Bool} (hsel : SelectsAttempt L t p) {s : AttemptState}
    {f : MemoryAttempt → MemoryAttempt}
    (hf : ∀ row, row.view = t.view → (f row).view = { t with state := s }.view) :
    Mirrors (M.setAttempt t.attemptId f) (L.updateAttempts p s) := by
  have hmemory : (M.setAttempt t.attemptId f).attempts.map MemoryAttempt.view =
      updateWhere (fun v => v.attemptId = t.attemptId)
        (fun _ => { t with state := s }.view) (M.attempts.map MemoryAttempt.view) := by
    apply map_updateWhere_comm
    · intro row _
      rfl
    · intro row hrow hid
      exact hf row (h.view_of_id hL hsel.mem hrow (of_decide_eq_true hid))
  have htables : (L.updateAttempts p s).attempts.map AttemptRow.view =
      updateWhere (fun v => v.attemptId = t.attemptId)
        (fun _ => { t with state := s }.view) (L.attempts.map AttemptRow.view) := by
    apply map_updateWhere_comm
    · intro u hu
      rw [Bool.eq_iff_iff, decide_eq_true_eq]
      refine ⟨fun hid => ?_, hsel.only u hu⟩
      rw [eq_of_nodup_key hL.schema.attemptIds hu hsel.mem hid]
      exact hsel.self
    · intro u hu hp
      rw [hsel.eq hL.schema hu hp]
  refine ⟨h.requests, h.tokens, h.verificationIds, h.decisionIds, ?_, ?_,
    h.authorizationLinks, ?_⟩
  · rw [hmemory, htables, h.attempts]
  · refine h.tokenAttempts.trans (map_updateWhere_of_eq ?_ L.attempts).symm
    intro u _
    rfl
  · intro u hu
    obtain ⟨v, hv, rfl⟩ := mem_updateWhere.mp hu
    split
    · exact h.attemptLinks v hv
    · exact h.attemptLinks v hv

/-- What the view of an attempt says of its state. -/
theorem reserved_of_view {row : MemoryAttempt} {t : AttemptRow} (hview : row.view = t.view) :
    row.state = .reserved ↔ t.state = .reserved := by
  have hstatus : row.state = t.state.status := congrArg AttemptView.status hview
  rw [hstatus]
  cases t.state with
  | reserved => exact ⟨fun _ => rfl, fun _ => rfl⟩
  | receiptRecorded o r => exact ⟨fun h => (by cases h), fun h => (by cases h)⟩
  | terminal e o r c => exact ⟨fun h => (by cases h), fun h => (by cases h)⟩

section Recovered

variable (rt : Runtime) (recoveryAt : String)

/-- What a recovery makes of an attempt. -/
def recoveredAttempt (t : AttemptRow) : AttemptRow :=
  if t.state.effect = none then { t with state := recoveredState rt recoveryAt t } else t

/-- What it makes of an authorization. -/
def revokedAuthorization (z : AuthorizationRow) : AuthorizationRow :=
  if z.state = .issued then { z with state := .revoked recoveryAt "QUIESCED_RECOVERY" } else z

end Recovered

/-- Without a recorded receipt an attempt is open where it is reserved. -/
theorem open_iff_reserved {t : AttemptRow} (hreceipt : t.state.status ≠ .receiptRecorded) :
    t.state.effect = none ↔ t.state = .reserved := by
  cases hs : t.state with
  | reserved => exact ⟨fun _ => rfl, fun _ => rfl⟩
  | receiptRecorded o r =>
    rw [hs] at hreceipt
    exact absurd rfl hreceipt
  | terminal e o r c => exact ⟨fun h => (by cases h), fun h => (by cases h)⟩

/-- The two recoveries show the same attempt. -/
theorem recovered_view {now : String} {readings : String → String} {row : MemoryAttempt}
    {t : AttemptRow} (hview : row.view = t.view) (hreceipt : t.state.status ≠ .receiptRecorded) :
    (MemoryLedger.recoverAttempt rt readings row).view = (recoveredAttempt rt now t).view := by
  have hid : row.attemptId = t.attemptId := congrArg AttemptView.attemptId hview
  unfold MemoryLedger.recoverAttempt recoveredAttempt
  by_cases hstate : t.state = .reserved
  · rw [if_pos ((reserved_of_view hview).mpr hstate),
      if_pos ((open_iff_reserved hreceipt).mpr hstate)]
    simp only [MemoryAttempt.view, AttemptRow.view, AttemptView.mk.injEq] at hview ⊢
    rw [hid]
    exact ⟨rfl, hview.2.1, hview.2.2.1, rfl, rfl, hview.2.2.2.2.2⟩
  · rw [if_neg (fun h => hstate ((reserved_of_view hview).mp h)),
      if_neg (fun h => hstate ((open_iff_reserved hreceipt).mp h))]
    exact hview

/-- Two lists with equal views, mapped alike. -/
theorem map_view_congr {α β γ δ : Type} {f : α → γ} {g : β → γ} {f' : α → δ} {g' : β → δ}
    {xs : List α} {ys : List β} (h : xs.map f = ys.map g)
    (hstep : ∀ x ∈ xs, ∀ y ∈ ys, f x = g y → f' x = g' y) : xs.map f' = ys.map g' := by
  induction xs generalizing ys with
  | nil =>
    cases ys with
    | nil => rfl
    | cons y ys => cases h
  | cons x xs ih =>
    cases ys with
    | nil => cases h
    | cons y ys =>
      obtain ⟨hhead, htail⟩ := List.cons.inj h
      rw [List.map_cons, List.map_cons,
        hstep x List.mem_cons_self y List.mem_cons_self hhead,
        ih htail fun a ha b hb => hstep a (List.mem_cons_of_mem _ ha) b (List.mem_cons_of_mem _ hb)]

/-- Both ledgers hold what the recovery made of their rows. -/
theorem Mirrors.recovered (h : Mirrors M L)
    (hreceipts : ∀ t ∈ L.attempts, t.state.status ≠ .receiptRecorded) {now : String}
    {readings : String → String} (hrequests : L'.requests = L.requests)
    (hattempts : L'.attempts = L.attempts.map (recoveredAttempt rt now))
    (hauths : L'.authorizations = L.authorizations.map (revokedAuthorization now)) :
    Mirrors { M with
      attempts := M.attempts.map (MemoryLedger.recoverAttempt rt readings)
      authorizationStates := M.authorizationStates.map MemoryLedger.revokeToken } L' := by
  refine ⟨?_, ?_, ?_, ?_, ?_, ?_, ?_, ?_⟩
  · rw [hrequests]
    exact h.requests
  · show M.authorizationStates.map MemoryLedger.revokeToken = _
    rw [h.tokens, hauths, List.map_map, List.map_map]
    apply List.map_congr_left
    intro z _
    cases hs : z.state with
    | issued =>
      simp [MemoryLedger.revokeToken, revokedAuthorization, hs, AuthorizationState.status]
    | consumed c =>
      simp [MemoryLedger.revokeToken, revokedAuthorization, hs, AuthorizationState.status]
    | revoked c r =>
      simp [MemoryLedger.revokeToken, revokedAuthorization, hs, AuthorizationState.status]
  · rw [hauths, List.map_map]
    refine h.verificationIds.trans (List.map_congr_left fun z _ => ?_)
    show z.verificationId = (revokedAuthorization now z).verificationId
    unfold revokedAuthorization
    split <;> rfl
  · rw [hauths, List.map_map]
    refine h.decisionIds.trans (List.map_congr_left fun z _ => ?_)
    show z.decisionId = (revokedAuthorization now z).decisionId
    unfold revokedAuthorization
    split <;> rfl
  · show (M.attempts.map _).map MemoryAttempt.view = _
    rw [hattempts, List.map_map, List.map_map]
    apply map_view_congr h.attempts
    intro row _ t ht hview
    exact recovered_view hview (hreceipts t ht)
  · rw [hattempts, List.map_map]
    refine h.tokenAttempts.trans (List.map_congr_left fun t _ => ?_)
    show (t.tokenId, t.attemptId) =
      ((recoveredAttempt rt now t).tokenId, (recoveredAttempt rt now t).attemptId)
    unfold recoveredAttempt
    split <;> rfl
  · intro z hz
    rw [hauths] at hz
    obtain ⟨y, hy, rfl⟩ := List.mem_map.mp hz
    unfold revokedAuthorization
    split
    · exact h.authorizationLinks y hy
    · exact h.authorizationLinks y hy
  · intro t ht
    rw [hattempts] at ht
    obtain ⟨u, hu, rfl⟩ := List.mem_map.mp ht
    unfold recoveredAttempt
    split
    · exact h.attemptLinks u hu
    · exact h.attemptLinks u hu

end Calls

theorem Mirrors.empty : Mirrors .empty .empty :=
  ⟨rfl, rfl, rfl, rfl, rfl, rfl, by simp [Ledger.empty], by simp [Ledger.empty]⟩

end DecisionFirewall.StageA
