import DecisionFirewall.StageA.AdapterCommits

/-!
# The Chain of Receipts

The adapter store is a history: each receipt starts in the state where the previous
receipt of its target ended, and the stored state of a target is where its last
receipt ended. `execute_once` extends the history by one link or leaves it.

- §1 the links of one target
- §2 one call
- §3 every sequence of calls
-/

namespace DecisionFirewall.StageA.AdapterStore

variable {cfg : AdapterConfig} {rt : Runtime} {a : ExecuteArgs} {A A' : AdapterStore}

/-! ## §1 The links of one target -/

/-- The receipts lead from the state digest `s` to the state digest `s'`. -/
def Linked : String → List Receipt → String → Prop
  | s, [], s' => s = s'
  | s, r :: receipts, s' => r.stateBeforeSha256 = s ∧ Linked r.stateAfterSha256 receipts s'

/-- The receipts of a target, in the order in which they were committed. -/
def receiptsOf (A : AdapterStore) (targetId : String) : List Receipt :=
  (A.commandReceipts.map ReceiptRow.receipt).filter fun r => r.targetId = targetId

/-- The loop over the receipts walks the links of every target. -/
theorem linked_of_foldlM {rows : List ReceiptRow} {tips tips' : String → Option ChainTip}
    (h : rows.foldlM (chainStep rt) tips = some tips') {targetId : String} {tip : ChainTip}
    (htip : tips targetId = some tip) :
    ∃ tip', tips' targetId = some tip' ∧
      Linked tip.stateSha256
        ((rows.map ReceiptRow.receipt).filter fun r => r.targetId = targetId)
        tip'.stateSha256 := by
  induction rows generalizing tips tip with
  | nil =>
    cases h
    exact ⟨tip, htip, rfl⟩
  | cons row rows ih =>
    rw [List.foldlM_cons] at h
    obtain ⟨tips₁, hstep, hrest⟩ := Option.bind_eq_some_iff.mp h
    unfold chainStep at hstep
    split at hstep
    · cases hstep
    · next tip₀ htip₀ =>
      split at hstep
      · next hlink =>
        cases hstep
        by_cases htarget : row.receipt.targetId = targetId
        · -- a receipt of this target is the next link
          subst htarget
          rw [htip] at htip₀
          cases htip₀
          obtain ⟨tip', htip', hlinked⟩ := ih hrest (Function.update_self ..)
          refine ⟨tip', htip', ?_⟩
          simpa [Linked] using ⟨hlink.1, hlinked⟩
        · -- a receipt of another target is skipped
          obtain ⟨tip', htip', hlinked⟩ :=
            ih hrest (by rw [Function.update_of_ne (Ne.symm htarget)]; exact htip)
          exact ⟨tip', htip', by simpa [htarget] using hlinked⟩
      · cases hstep

/-- In an accepted store the receipts of a target lead from its initial state to its
stored state. -/
theorem Ok.linked (hok : A.Ok cfg rt) {targetId targetType : String}
    (h : cfg.inventory.lookup targetId = some targetType) :
    ∃ row, A.targetState targetId = some row ∧
      Linked ((TargetState.initial targetId targetType).sha256 rt) (A.receiptsOf targetId)
        (row.state.sha256 rt) := by
  obtain ⟨tips, hfold, htips⟩ := hok.chain
  have hinitial : A.initialTip cfg rt targetId =
      some ⟨(TargetState.initial targetId targetType).sha256 rt, A.createdAt⟩ := by
    simp [initialTip, h]
  obtain ⟨tip', htip', hlinked⟩ := linked_of_foldlM hfold hinitial
  have hmem : (targetId, targetType) ∈ cfg.inventory := by
    obtain ⟨l₁, l₂, he, -⟩ := List.lookup_eq_some_iff.mp h
    rw [he]
    simp
  have hcurrent := htips _ hmem
  rw [htip'] at hcurrent
  unfold currentTip at hcurrent
  obtain ⟨row, hrow, hrowTip⟩ := Option.map_eq_some_iff.mp hcurrent.symm
  refine ⟨row, hrow, ?_⟩
  have hsha := (hok.states row (List.mem_of_find?_eq_some hrow)).stateSha256
  rw [hsha]
  rw [← hrowTip] at hlinked
  exact hlinked

/-! ## §2 One call -/

/-- `A'` is `A` with one more link: a receipt that leads from the stored state of its
target to the state stored now, and nothing else is changed. -/
structure Extends (cfg : AdapterConfig) (rt : Runtime) (a : ExecuteArgs) (A : AdapterStore)
    (receipt : Receipt) (A' : AdapterStore) : Prop where
  accepted : A'.Ok cfg rt
  target : receipt.targetId = a.binding.command.target
  key : receipt.idempotencyKey = a.idempotencyKey
  receipts : ∃ row, row.receipt = receipt ∧ row.binding = a.binding ∧
    A'.commandReceipts = A.commandReceipts ++ [row]
  fresh : ∀ row ∈ A.commandReceipts, row.idempotencyKey ≠ a.idempotencyKey
  before : ∃ row, A.targetState receipt.targetId = some row ∧
    receipt.stateBeforeSha256 = row.stateSha256
  after : ∃ row, A'.targetState receipt.targetId = some row ∧
    receipt.stateAfterSha256 = row.state.sha256 rt ∧ row.stateSha256 = row.state.sha256 rt
  others : ∀ targetId, targetId ≠ receipt.targetId →
    A'.targetState targetId = A.targetState targetId
  createdAt : A'.createdAt = A.createdAt

theorem Executed.extends {receipt : Receipt} (h : Executed cfg rt a A receipt A') :
    Extends cfg rt a A receipt A' := by
  have haccepted := h.preserves
  have hreceipts := h.receipts
  obtain ⟨instant, row, t, -, hrow, -, -, rfl, -, -, rfl⟩ := h.writes
  obtain ⟨hmem, hid⟩ := (targetState_eq_some h.ok).mp hrow
  refine
    { accepted := haccepted
      target := rfl
      key := h.key.symm
      receipts := ⟨_, rfl, rfl, hreceipts⟩
      fresh := fun r hr hkey => ?_
      before := ⟨row, hrow, (h.ok.states row hmem).stateSha256⟩
      after := ?_
      others := fun targetId hne => ?_
      createdAt := rfl }
  · have := List.find?_eq_none.mp h.fresh r hr
    simp [hkey, h.key] at this
  · -- the updated row of the target
    show ∃ r, targetState _ a.binding.command.target = some r ∧ _
    rw [targetState_apply, hrow, Option.map_some, if_pos hid]
    exact ⟨_, rfl, rfl, rfl⟩
  · rw [targetState_apply]
    cases hother : A.targetState targetId with
    | none => rfl
    | some r =>
      have hrid := ((targetState_eq_some h.ok).mp hother).2
      rw [Option.map_some, if_neg]
      rw [hrid]
      exact hne

/-- A store that has just been created is accepted. -/
theorem create_ok {createdAt : String} (hcreated : rt.IsOffsetTimestamp createdAt)
    (hids : (cfg.inventory.map Prod.fst).Nodup)
    (htypes : ∀ target ∈ cfg.inventory, IsIdentifier target.2) :
    (create cfg rt createdAt).Ok cfg rt := by
  have hmap : (create cfg rt createdAt).targetStates.map TargetStateRow.targetId =
      cfg.inventory.map Prod.fst := by
    simp [create]
  have hlookup : ∀ target ∈ cfg.inventory, cfg.inventory.lookup target.1 = some target.2 :=
    fun target htarget => Lib.Table.lookup_eq_some_of_mem hids htarget
  refine
    { createdAt := hcreated
      targetIds := by rw [hmap]; exact hids
      idempotencyKeys := by simp [create]
      requests := by simp [create]
      inventory := ⟨fun row hrow => ?_, fun target htarget => ?_⟩
      states := fun row hrow => ?_
      receipts := by simp [create]
      chain := ⟨_, rfl, fun target htarget => ?_⟩ }
  · rw [← hmap]
    exact List.mem_map_of_mem hrow
  · rw [hmap]
    exact List.mem_map_of_mem htarget
  · obtain ⟨target, htarget, rfl⟩ := List.mem_map.mp hrow
    exact ⟨hcreated, rfl, ⟨rfl, htypes target htarget, by simp [TargetState.initial],
      by simp [TargetState.initial]⟩, hlookup target htarget⟩
  · have hrow : (create cfg rt createdAt).targetState target.1 =
        some ⟨target.1, .initial target.1 target.2,
          (TargetState.initial target.1 target.2).sha256 rt, createdAt⟩ := by
      refine (Lib.Table.find?_key_eq_some (by rw [hmap]; exact hids)).mpr ⟨?_, rfl⟩
      exact List.mem_map.mpr ⟨target, htarget, rfl⟩
    have hinitial : (create cfg rt createdAt).initialTip cfg rt target.1 =
        some ⟨(TargetState.initial target.1 target.2).sha256 rt, createdAt⟩ := by
      unfold initialTip
      rw [hlookup target htarget]
      rfl
    rw [hinitial]
    simp [currentTip, hrow]

/-- The store after a sequence of calls. -/
def executeAll (cfg : AdapterConfig) (rt : Runtime) (A : AdapterStore) (calls : List ExecuteArgs) :
    AdapterStore :=
  calls.foldl (fun A a => (executeOnce cfg rt a A).store) A

/-- The rows that one call adds. -/
theorem executeOnce_commandReceipts (cfg : AdapterConfig) (rt : Runtime) (A : AdapterStore)
    (a : ExecuteArgs) :
    ∃ rows, (executeOnce cfg rt a A).store.commandReceipts = A.commandReceipts ++ rows := by
  rcases executeOnce_cases cfg rt a A with
    ⟨e, he⟩ | ⟨row, -, -, -, -, he⟩ | ⟨receipt, A', he, hexecuted⟩
  · exact ⟨[], by simp [he]⟩
  · exact ⟨[], by simp [he]⟩
  · exact ⟨_, by rw [he]; exact hexecuted.receipts⟩

/-- Every sequence of calls keeps the store acceptable and every receipt in its place. -/
theorem executeAll_ok (hok : A.Ok cfg rt) (calls : List ExecuteArgs) :
    (executeAll cfg rt A calls).Ok cfg rt ∧
      A.commandReceipts <+: (executeAll cfg rt A calls).commandReceipts := by
  induction calls generalizing A with
  | nil => exact ⟨hok, List.prefix_refl _⟩
  | cons a calls ih =>
    obtain ⟨hok', hrows⟩ := ih (executeOnce_ok (a := a) hok)
    obtain ⟨rows, hone⟩ := executeOnce_commandReceipts cfg rt A a
    refine ⟨hok', ?_⟩
    have hfirst : A.commandReceipts <+: (executeOnce cfg rt a A).store.commandReceipts :=
      ⟨rows, hone.symm⟩
    exact hfirst.trans hrows

/-- After every sequence of calls the receipts of a target lead from its initial state
to its stored state. -/
theorem executeAll_linked (hok : A.Ok cfg rt) (calls : List ExecuteArgs)
    {targetId targetType : String} (h : cfg.inventory.lookup targetId = some targetType) :
    ∃ row, (executeAll cfg rt A calls).targetState targetId = some row ∧
      Linked ((TargetState.initial targetId targetType).sha256 rt)
        ((executeAll cfg rt A calls).receiptsOf targetId) (row.state.sha256 rt) :=
  (executeAll_ok hok calls).1.linked h

end DecisionFirewall.StageA.AdapterStore
