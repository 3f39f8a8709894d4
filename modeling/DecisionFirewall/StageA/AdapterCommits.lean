import DecisionFirewall.StageA.Adapter

/-!
# What `execute_once` Commits

`execute_once` raises and leaves the store, answers a repeated key with the stored
receipt, or commits one transition with one receipt (`executeOnce_cases`). A
committed transition keeps the store acceptable (`executeOnce_ok`).
-/

namespace DecisionFirewall.StageA.AdapterStore

open Lib.Table (updateWhere)

variable {cfg : AdapterConfig} {rt : Runtime} {a : ExecuteArgs} {A A' : AdapterStore}

section Checks

variable {α β : Type}

@[simp] theorem require_eq_ok {p : Prop} [Decidable p] {e : AdapterError} {u : Unit} :
    require p e = .ok u ↔ p := by
  unfold require
  split <;> simp_all

@[simp] theorem require_bind_eq_ok {p : Prop} [Decidable p] {e : AdapterError}
    {f : Unit → Except AdapterError β} {b : β} :
    (require p e >>= f) = .ok b ↔ p ∧ f () = .ok b := by
  unfold require
  split <;> simp_all [bind, Except.bind]

theorem bind_eq_ok {x : Except AdapterError α} {f : α → Except AdapterError β} {b : β} :
    (x >>= f) = .ok b ↔ ∃ y, x = .ok y ∧ f y = .ok b := by
  cases x <;> simp [bind, Except.bind]

end Checks

/-! ## §1 What a commit writes -/

/-- The store after a transition of one target. -/
def apply (rt : Runtime) (a : ExecuteArgs) (attemptedAt : String) (t : Transition)
    (receipt : Receipt) (A : AdapterStore) : AdapterStore :=
  { A with
    targetStates := updateWhere (fun r => r.targetId = a.binding.command.target)
      (fun r => ⟨r.targetId, t.after, t.after.sha256 rt, attemptedAt⟩) A.targetStates
    commandReceipts := A.commandReceipts ++ [receiptRow rt a.binding receipt] }

/-- A commit of `execute_once` that adds a receipt. -/
structure Executed (cfg : AdapterConfig) (rt : Runtime) (a : ExecuteArgs) (A : AdapterStore)
    (receipt : Receipt) (A' : AdapterStore) : Prop where
  ok : A.Ok cfg rt
  binding : a.binding.Valid rt
  key : a.idempotencyKey = a.binding.sha256 rt
  attemptId : IsIdentifier a.attemptId
  fresh : A.commandReceipt (a.binding.sha256 rt) = none
  requestFresh : (a.binding.principalId, a.binding.requestId) ∉
    A.commandReceipts.map ReceiptRow.request
  writes : ∃ instant row t, rt.fromisoformat a.attemptedAt = some instant ∧
    A.targetState a.binding.command.target = some row ∧
    rt.AtMost row.updatedAt (rt.isoformat (Runtime.truncate instant)) ∧
    transition cfg rt a.binding a.attemptId (Runtime.truncate instant) row.state = .ok t ∧
    receipt = newReceipt rt a.receiptId a.binding a.attemptId
      (rt.isoformat (Runtime.truncate instant)) row.state t ∧
    receipt.PostInit rt ∧ (canonicalJson (.obj receipt.toDict)).length ≤ 16384 ∧
    A' = A.apply rt a (rt.isoformat (Runtime.truncate instant)) t receipt

theorem check_eq_ok {executedAt : Int} (h : a.check rt = .ok executedAt) :
    a.binding.Valid rt ∧ a.idempotencyKey = a.binding.sha256 rt ∧ IsIdentifier a.attemptId ∧
      ∃ instant, rt.fromisoformat a.attemptedAt = some instant ∧
        executedAt = Runtime.truncate instant := by
  unfold ExecuteArgs.check at h
  simp only [require_bind_eq_ok] at h
  obtain ⟨hbinding, -, hkey, hattempt, -, h⟩ := h
  cases hi : rt.fromisoformat a.attemptedAt with
  | none => simp [hi] at h
  | some instant =>
    simp only [hi, pure, Except.pure, Except.ok.injEq] at h
    exact ⟨hbinding, hkey, hattempt, instant, rfl, h.symm⟩

/-- Everything `execute_once` can do. -/
theorem executeOnce_cases (cfg : AdapterConfig) (rt : Runtime) (a : ExecuteArgs)
    (A : AdapterStore) :
    (∃ e, executeOnce cfg rt a A = ⟨.error e, A⟩) ∨
      (∃ row ∈ A.commandReceipts, row.idempotencyKey = a.idempotencyKey ∧
        canonicalJson (.obj row.binding.toDict) = canonicalJson (.obj a.binding.toDict) ∧
        A.Ok cfg rt ∧ executeOnce cfg rt a A = ⟨.ok row.receipt, A⟩) ∨
      ∃ receipt A', executeOnce cfg rt a A = ⟨.ok receipt, A'⟩ ∧
        Executed cfg rt a A receipt A' := by
  unfold executeOnce
  split
  · next receipt A' hok =>
    right
    obtain ⟨executedAt, hcheck, hok⟩ := bind_eq_ok.mp hok
    obtain ⟨hOk, hok⟩ := require_bind_eq_ok.mp hok
    obtain ⟨hbinding, hkey, hattempt, instant, hinstant, rfl⟩ := check_eq_ok hcheck
    unfold executeBody at hok
    split at hok
    · -- the key is stored: the receipt is read back
      next row hrow =>
      obtain ⟨hsame, hok⟩ := require_bind_eq_ok.mp hok
      simp only [pure, Except.pure, Except.ok.injEq, Prod.mk.injEq] at hok
      obtain ⟨rfl, rfl⟩ := hok
      have hfound := List.find?_some hrow
      refine .inl ⟨row, List.mem_of_find?_eq_some hrow, ?_, hsame, hOk, rfl⟩
      rw [hkey]
      simpa using hfound
    · next hfresh =>
      unfold executeNew at hok
      dsimp only at hok
      split at hok
      · cases hok
      · next row hrow =>
        obtain ⟨htime, hok⟩ := require_bind_eq_ok.mp hok
        obtain ⟨t, ht, hok⟩ := bind_eq_ok.mp hok
        simp only [require_bind_eq_ok] at hok
        obtain ⟨-, hpost, hsize, hrequest, hok⟩ := hok
        simp only [pure, Except.pure, Except.ok.injEq, Prod.mk.injEq] at hok
        obtain ⟨rfl, rfl⟩ := hok
        exact .inr ⟨_, _, rfl, hOk, hbinding, hkey, hattempt, hfresh, hrequest, instant, row, t,
          hinstant, hrow, htime, ht, rfl, hpost, hsize, rfl⟩
  · next e _ => exact .inl ⟨e, rfl⟩

/-! ## §2 Frame -/

@[simp] theorem apply_commandReceipts (attemptedAt : String) (t : Transition) (receipt : Receipt) :
    (A.apply rt a attemptedAt t receipt).commandReceipts =
      A.commandReceipts ++ [receiptRow rt a.binding receipt] := rfl

@[simp] theorem apply_createdAt (attemptedAt : String) (t : Transition) (receipt : Receipt) :
    (A.apply rt a attemptedAt t receipt).createdAt = A.createdAt := rfl

theorem targetState_apply (attemptedAt : String) (t : Transition) (receipt : Receipt)
    (targetId : String) :
    (A.apply rt a attemptedAt t receipt).targetState targetId =
      (A.targetState targetId).map fun r => if r.targetId = a.binding.command.target
        then ⟨r.targetId, t.after, t.after.sha256 rt, attemptedAt⟩ else r := by
  unfold targetState apply updateWhere
  rw [List.find?_map]
  have hp : ((fun r : TargetStateRow => decide (r.targetId = targetId)) ∘ fun r =>
      if decide (r.targetId = a.binding.command.target) = true
        then ⟨r.targetId, t.after, t.after.sha256 rt, attemptedAt⟩ else r)
      = fun r => decide (r.targetId = targetId) := by
    funext r
    simp only [Function.comp_apply]
    split <;> rfl
  rw [hp]
  simp

/-- A commit adds one receipt, of a request without one. -/
theorem Executed.receipts {receipt : Receipt} (h : Executed cfg rt a A receipt A') :
    A'.commandReceipts = A.commandReceipts ++ [receiptRow rt a.binding receipt] := by
  obtain ⟨instant, row, t, -, -, -, -, -, -, -, rfl⟩ := h.writes
  rfl

theorem Executed.attempt {receipt : Receipt} (h : Executed cfg rt a A receipt A') :
    receipt.attemptId = a.attemptId := by
  obtain ⟨instant, row, t, -, -, -, -, rfl, -⟩ := h.writes
  rfl

/-! ## §3 The store stays acceptable -/

/-- The target of a transition keeps its identity and its type. -/
theorem transition_valid {binding : Binding} {attemptId : String} {executedAt : Int}
    {before : TargetState} {t : Transition} {targetId : String}
    (h : transition cfg rt binding attemptId executedAt before = .ok t)
    (hvalid : before.Valid rt targetId) (hattempt : IsIdentifier attemptId) :
    t.after.Valid rt targetId ∧ t.after.targetType = before.targetType := by
  obtain ⟨hid, htype, hexpires, haction⟩ := hvalid
  have hsame : before.Valid rt targetId := ⟨hid, htype, hexpires, haction⟩
  unfold transition at h
  split at h
  · cases h
    exact ⟨hsame, rfl⟩
  split at h
  · cases h
    exact ⟨hsame, rfl⟩
  split at h
  · cases h
  · split at h
    · cases h
      exact ⟨hsame, rfl⟩
    · cases h
      exact ⟨⟨hid, htype, by simp, by simpa using hattempt⟩, rfl⟩
    · split at h
      · cases h
      · next expires hadd =>
        -- the expiry is a whole second of the calendar
        have hdatetime : rt.IsDatetime expires := by
          unfold Runtime.addSeconds at hadd
          split at hadd
          · next hd =>
            cases hadd
            exact hd
          · cases hadd
        have hiso := hdatetime.truncate.isOffsetTimestamp
        dsimp only at h
        split at h
        all_goals
          cases h
          exact ⟨⟨hid, htype, by simpa using hiso, by simpa using hattempt⟩, rfl⟩

/-- A receipt with an effect was made in the state that its binding names. -/
theorem transition_precondition {binding : Binding} {attemptId : String} {executedAt : Int}
    {before : TargetState} {t : Transition}
    (h : transition cfg rt binding attemptId executedAt before = .ok t)
    (hstatus : t.status ≠ .noEffect) : before.sha256 rt = binding.targetStateSha256 := by
  unfold transition at h
  split at h
  · cases h
    exact absurd rfl hstatus
  · next hne => exact not_not.mp hne

/-- The receipt that a commit adds is a valid row. -/
theorem Executed.receiptRow_valid {receipt : Receipt} (h : Executed cfg rt a A receipt A') :
    (receiptRow rt a.binding receipt).Valid rt := by
  obtain ⟨instant, row, t, hinstant, hrow, -, ht, rfl, hpost, hsize, -⟩ := h.writes
  have hmem : row ∈ A.targetStates := List.mem_of_find?_eq_some hrow
  have hiso := (rt.isDatetime_truncate hinstant).isOffsetTimestamp
  exact
    { bindingSha256 := rfl
      key := rfl
      receiptSize := hsize
      receiptSha256 := rfl
      binding := h.binding
      receipt := hpost
      receiptKey := rfl
      receiptBinding := rfl
      requestId := ⟨rfl, rfl⟩
      principalId := rfl
      targetId := ⟨rfl, rfl⟩
      decisionId := rfl
      actionType := rfl
      committedAt := ⟨hiso, rfl⟩
      precondition := fun hstatus => by
        show (row.state).sha256 rt = _
        exact transition_precondition ht hstatus }

theorem targetState_eq_some (hok : A.Ok cfg rt) {row : TargetStateRow} {targetId : String} :
    A.targetState targetId = some row ↔ row ∈ A.targetStates ∧ row.targetId = targetId :=
  Lib.Table.find?_key_eq_some hok.targetIds

/-- A committed transition keeps the store acceptable. -/
theorem Executed.preserves {receipt : Receipt} (h : Executed cfg rt a A receipt A') :
    A'.Ok cfg rt := by
  have hvalidRow := h.receiptRow_valid
  obtain ⟨instant, row, t, hinstant, hrow, htime, ht, hreceipt, hpost, hsize, rfl⟩ := h.writes
  have hok := h.ok
  have hiso := (rt.isDatetime_truncate hinstant).isOffsetTimestamp
  obtain ⟨hmem, hid⟩ := (targetState_eq_some hok).mp hrow
  have hids : (A.apply rt a (rt.isoformat (Runtime.truncate instant)) t receipt).targetStates.map
      TargetStateRow.targetId = A.targetStates.map TargetStateRow.targetId := by
    apply Lib.Table.map_updateWhere_of_eq
    intro r _
    rfl
  refine
    { createdAt := hok.createdAt
      targetIds := by rw [hids]; exact hok.targetIds
      idempotencyKeys := ?_
      requests := ?_
      inventory := ?_
      states := ?_
      receipts := ?_
      chain := ?_ }
  · rw [apply_commandReceipts, List.map_append]
    refine Lib.Table.nodup_concat.mpr ⟨hok.idempotencyKeys, ?_⟩
    intro hin
    obtain ⟨r, hr, hkey⟩ := List.mem_map.mp hin
    have := List.find?_eq_none.mp h.fresh r hr
    simp [hkey, receiptRow] at this
  · rw [apply_commandReceipts, List.map_append]
    exact Lib.Table.nodup_concat.mpr ⟨hok.requests, h.requestFresh⟩
  · refine ⟨fun r hr => ?_, fun target htarget => ?_⟩
    · have hr' : r.targetId ∈ A.targetStates.map TargetStateRow.targetId := by
        rw [← hids]
        exact List.mem_map_of_mem hr
      obtain ⟨r₀, hr₀, he⟩ := List.mem_map.mp hr'
      rw [← he]
      exact hok.inventory.1 r₀ hr₀
    · rw [hids]
      exact hok.inventory.2 target htarget
  · intro r hr
    rcases Lib.Table.mem_updateWhere.mp hr with ⟨r₀, hr₀, rfl⟩
    split
    · next hp =>
      -- the updated row
      have hr₀id : r₀.targetId = a.binding.command.target := by simpa using hp
      have hsame : r₀ = row := Lib.Table.eq_of_nodup_key hok.targetIds hr₀ hmem
        (by rw [hr₀id, hid])
      subst hsame
      have hstate := hok.states _ hr₀
      obtain ⟨hafter, htype⟩ := transition_valid ht hstate.valid h.attemptId
      exact ⟨hiso, rfl, hafter, by rw [htype]; exact hstate.targetType⟩
    · exact hok.states _ hr₀
  · intro r hr
    rw [apply_commandReceipts, List.mem_append, List.mem_singleton] at hr
    rcases hr with hr | rfl
    · exact hok.receipts r hr
    · exact hvalidRow
  · obtain ⟨tips, hfold, htips⟩ := hok.chain
    have hmemTarget : (a.binding.command.target, row.state.targetType) ∈ cfg.inventory := by
      have := (hok.states row hmem).targetType
      rw [hid] at this
      obtain ⟨l₁, l₂, he, -⟩ := List.lookup_eq_some_iff.mp this
      rw [he]
      simp
    have hcurrent := htips _ hmemTarget
    simp only [currentTip, hrow, Option.map_some] at hcurrent
    refine ⟨Function.update tips a.binding.command.target
      (some ⟨t.after.sha256 rt, rt.isoformat (Runtime.truncate instant)⟩), ?_, ?_⟩
    · -- the new receipt is one more round of the loop
      have hfold' : A.commandReceipts.foldlM (chainStep rt) (A.initialTip cfg rt) = some tips :=
        hfold
      show List.foldlM _ _ (A.commandReceipts ++ [receiptRow rt a.binding receipt]) = _
      rw [List.foldlM_append]
      have hinitial : (A.apply rt a (rt.isoformat (Runtime.truncate instant)) t
          receipt).initialTip cfg rt = A.initialTip cfg rt := rfl
      rw [hinitial, hfold']
      have hsha := (hok.states row hmem).stateSha256
      subst hreceipt
      simp only [receiptRow, newReceipt, List.foldlM_cons, List.foldlM_nil, chainStep, hcurrent,
        Option.bind_eq_bind, Option.bind_some, hsha, htime, and_self, if_true]
      rfl
    · intro target htarget
      by_cases htid : target.1 = a.binding.command.target
      · rw [htid, Function.update_self]
        simp [currentTip, targetState_apply, hrow, hid]
      · rw [Function.update_of_ne htid, htips target htarget]
        simp only [currentTip, targetState_apply, Option.map_map]
        cases hother : A.targetState target.1 with
        | none => rfl
        | some r =>
          have hrid := ((targetState_eq_some hok).mp hother).2
          simp [hrid, htid]

/-- `execute_once` keeps the store acceptable, whatever it does. -/
theorem executeOnce_ok (hok : A.Ok cfg rt) : (executeOnce cfg rt a A).store.Ok cfg rt := by
  rcases executeOnce_cases cfg rt a A with ⟨e, he⟩ | ⟨row, -, -, -, -, he⟩ | ⟨receipt, A', he, hex⟩
  · rw [he]
    exact hok
  · rw [he]
    exact hok
  · rw [he]
    exact hex.preserves

end DecisionFirewall.StageA.AdapterStore
