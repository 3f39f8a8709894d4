import DecisionFirewall.Lab.Executor

/-!
# At Most One Effect, One Receipt

Over any calls on one journal, each cut short wherever it may be: the action is entered at
most once for a key, the receipts of a key are one text, an unfinished reservation keeps
every call from the action, and another command under a used key changes nothing.

- §1 what a call does to the journal
- §2 the transactions
- §3 one call
- §4 histories
-/

namespace DecisionFirewall.Lab

open Lib
open Phase3 (Primitives Bytes)

variable (rt : Runtime) (lib : JsonLibrary) (crypto : Primitives)

/-! ## §1 What a call does -/

/-- The journal reads, the key is unused, and no reservation is open. -/
def Fresh (key : String) (journal : Bytes) : Prop :=
  ∃ records, readRecords rt lib journal = some records ∧ recordsOf key records = [] ∧
    ¬ HasOpenReservation records

/-- A fresh key has come into use: if the journal still reads, it reads as before with records
of the command behind; and the action was entered at most once. -/
structure Uses (key digest : String) (w s : World) : Prop where
  fresh : Fresh rt lib key w.journal
  journal : ∀ records, readRecords rt lib w.journal = some records → ∀ records',
    readRecords rt lib s.journal = some records' → ∃ r added, records' = records ++ r :: added ∧
      ∀ q ∈ r :: added, q.idempotencyKey = key ∧ q.commandSha256 = digest
  entered : s.entered = w.entered ∨ s.entered = w.entered ++ [key]

/-- A command of this key and digest has led from one state to another. -/
def Advances (key digest : String) (w s : World) : Prop := s = w ∨ Uses rt lib key digest w s

/-- The key of the command is reserved behind the records that there were. -/
structure Reserved (key digest : String) (w s : World) : Prop where
  fresh : Fresh rt lib key w.journal
  journal : ∀ records, readRecords rt lib w.journal = some records → ∃ r : JournalRecord,
    r.recordType = .reservation ∧ r.idempotencyKey = key ∧ r.commandSha256 = digest ∧
      readRecords rt lib s.journal = some (records ++ [r])
  entered : s.entered = w.entered ∨ s.entered = w.entered ++ [key]

variable {rt lib crypto} {key digest : String} {w s : World}

theorem Advances.refl : Advances rt lib key digest w w := .inl rfl

/-- Records of the command behind a reserved state. -/
theorem Reserved.uses_of {s' : World} (h : Reserved rt lib key digest w s)
    (hentered : s'.entered = s.entered)
    (hjournal : ∀ records', readRecords rt lib s'.journal = some records' →
      ∃ records added, readRecords rt lib s.journal = some records ∧ records' = records ++ added ∧
        ∀ r ∈ added, r.idempotencyKey = key ∧ r.commandSha256 = digest) :
    Uses rt lib key digest w s' := by
  refine ⟨h.fresh, fun records hrecords records' hrecords' => ?_, ?_⟩
  · obtain ⟨r, -, hkey, hdigest, hreserved⟩ := h.journal records hrecords
    obtain ⟨reserved, added, hs, rfl, hadded⟩ := hjournal records' hrecords'
    -- what is read afterwards is the reservation and more
    obtain rfl : records ++ [r] = reserved := Option.some.inj (hreserved.symm.trans hs)
    exact ⟨r, added, by simp, List.forall_mem_cons.mpr ⟨⟨hkey, hdigest⟩, hadded⟩⟩
  · rw [hentered]
    exact h.entered

theorem Reserved.advances (h : Reserved rt lib key digest w s) : Advances rt lib key digest w s :=
  .inr (h.uses_of rfl fun records' hread =>
    ⟨records', [], hread, (List.append_nil _).symm, by simp⟩)

/-! ## §2 The transactions -/

/-- A write that stops behind its first byte leaves the new record, or a journal that is not
read. -/
theorem readRecords_take {journal : Bytes} {records records' : List JournalRecord}
    {r : UnsignedRecord}
    (hwhole : readRecords rt lib (journal ++ r.payload rt) = some (records ++ [r.record rt]))
    {n : Nat} (hpos : 0 < n)
    (hn : readRecords rt lib (journal ++ (r.payload rt).take n) = some records') :
    records' = records ++ [r.record rt] := by
  by_cases hlength : n < (r.payload rt).length
  · rw [readRecords_torn journal r hpos hlength] at hn
    cases hn
  · rw [List.take_of_length_le (not_lt.mp hlength), hwhole] at hn
    exact (Option.some.inj hn).symm

theorem append_eq_ok {journal payload : Bytes} {r : UnsignedRecord}
    (h : append rt journal r = .ok payload) : payload = r.payload rt ∧
      journal.length + (r.payload rt).length ≤ MAX_JOURNAL_BYTES := by
  unfold append at h
  split_ifs at h with hsize
  cases h
  exact ⟨rfl, not_lt.mp hsize⟩

theorem wellPaired_of_readRecords {journal : Bytes} {records : List JournalRecord}
    (h : readRecords rt lib journal = some records) : WellPaired records :=
  (readRecords_eq_some.mp h).2.2.2

/-- A reservation that is written is read behind the others, and its key was fresh. -/
theorem reserveOrReplay_eq_reserved {journal payload : Bytes} {recordedAt : String}
    (h : reserveOrReplay rt lib journal key digest recordedAt = .ok (.reserved payload)) :
    ∃ records, readRecords rt lib journal = some records ∧ recordsOf key records = [] ∧
      ¬ HasOpenReservation records ∧
      payload = (reservation records key digest recordedAt).payload rt ∧
      readRecords rt lib (journal ++ payload) =
        some (records ++ [(reservation records key digest recordedAt).record rt]) := by
  unfold reserveOrReplay at h
  split_ifs at h with harguments
  cases hread : readRecords rt lib journal with
  | none => simp [hread] at h
  | some records =>
    simp only [hread] at h
    cases hreplay : replay records key digest with
    | error e => simp [hreplay] at h
    | ok known =>
      cases known with
      | some receiptJson => simp [hreplay] at h
      | none =>
        simp only [hreplay] at h
        split_ifs at h with hopen
        cases happend : append rt journal (reservation records key digest recordedAt) with
        | error e => simp [happend, Except.map] at h
        | ok written =>
          simp only [happend, Except.map, Except.ok.injEq, Intake.reserved.injEq] at h
          subst h
          obtain ⟨rfl, hsize⟩ := append_eq_ok happend
          -- no record of the key, or the replay would have answered
          have hunused : recordsOf key records = [] := by
            unfold replay at hreplay
            cases hlast : (recordsOf key records).getLast? with
            | none => exact List.getLast?_eq_none_iff.mp hlast
            | some last =>
              simp only [hlast] at hreplay
              split_ifs at hreplay
              cases htype : last.recordType <;> simp [htype] at hreplay
          have hne : key ≠ "" := by
            rintro rfl
            obtain ⟨-, ⟨c, hc, -⟩, -⟩ := harguments.1
            simp at hc
          refine ⟨records, rfl, hunused, hopen, rfl, ?_⟩
          refine readRecords_append hread ⟨hne, harguments.2, by simp [reservation]⟩ rfl rfl ?_ hsize
          exact (wellPaired_of_readRecords hread).reserve rfl hunused

/-- A completion that is written closes the one reservation of its key. -/
theorem complete_eq_ok {journal payload : Bytes} {receiptJson recordedAt : String}
    (hreceipt : receiptJson ≠ "")
    (h : complete rt lib journal key digest receiptJson recordedAt = .ok payload) :
    ∃ records, readRecords rt lib journal = some records ∧
      payload = (completion records key digest receiptJson recordedAt).payload rt ∧
      readRecords rt lib (journal ++ payload) =
        some (records ++ [(completion records key digest receiptJson recordedAt).record rt]) := by
  unfold complete at h
  cases hread : readRecords rt lib journal with
  | none => simp [hread] at h
  | some records =>
    simp only [hread] at h
    split at h
    · rename_i r hmatches
      split_ifs at h with htype hdigest
      obtain ⟨rfl, hsize⟩ := append_eq_ok h
      simp only [ne_eq, not_not] at htype hdigest
      have hmem : r ∈ records ∧ r.idempotencyKey = key := by
        have hr : r ∈ recordsOf key records := by simp [hmatches]
        simpa [recordsOf] using hr
      obtain ⟨hkey, hsha, -⟩ :=
        readLines_forall (readRecords_eq_some.mp hread).2.2.1 r hmem.1
      refine ⟨records, rfl, rfl, ?_⟩
      refine readRecords_append hread ⟨hmem.2 ▸ hkey, hdigest ▸ hsha, ?_⟩ rfl rfl ?_ hsize
      · simpa [completion] using hreceipt
      · exact (wellPaired_of_readRecords hread).complete htype rfl hdigest.symm hmatches
    · cases h

/-- A receipt that the records give is that of a completion under the digest. -/
theorem replay_eq_some {records : List JournalRecord} {receiptJson : String}
    (h : replay records key digest = .ok (some receiptJson)) :
    ∃ c ∈ recordsOf key records, c.recordType = .completion ∧ c.receiptJson = receiptJson ∧
      c.commandSha256 = digest := by
  unfold replay at h
  cases hlast : (recordsOf key records).getLast? with
  | none => simp [hlast] at h
  | some last =>
    simp only [hlast] at h
    split_ifs at h with hconflict
    have hmem : last ∈ recordsOf key records := List.mem_of_getLast? hlast
    cases htype : last.recordType with
    | reservation => simp [htype] at h
    | completion =>
      simp only [htype, Except.ok.injEq, Option.some.injEq] at h
      simp only [ne_eq, decide_not, List.any_eq_true, Bool.not_eq_eq_eq_not, Bool.not_true,
        decide_eq_false_iff_not, not_exists, not_and, not_not] at hconflict
      exact ⟨last, hmem, htype, h, hconflict last hmem⟩

theorem reserveOrReplay_eq_replayed {journal : Bytes} {receiptJson recordedAt : String}
    (h : reserveOrReplay rt lib journal key digest recordedAt = .ok (.replayed receiptJson)) :
    ∃ records, readRecords rt lib journal = some records ∧
      replay records key digest = .ok (some receiptJson) := by
  unfold reserveOrReplay at h
  split_ifs at h
  cases hread : readRecords rt lib journal with
  | none => simp [hread] at h
  | some records =>
    simp only [hread] at h
    cases hreplay : replay records key digest with
    | error e => simp [hreplay] at h
    | ok known =>
      cases known with
      | some known =>
        simp only [hreplay, Except.ok.injEq, Intake.replayed.injEq] at h
        exact ⟨records, rfl, h ▸ hreplay⟩
      | none =>
        simp only [hreplay] at h
        split_ifs at h
        cases happend : append rt journal (reservation records key digest recordedAt) with
        | error e => simp [happend, Except.map] at h
        | ok payload => simp [happend, Except.map] at h

theorem replayIfKnown_eq_some {journal : Bytes} {receiptJson : String}
    (h : replayIfKnown rt lib journal key digest = .ok (some receiptJson)) :
    ∃ records, readRecords rt lib journal = some records ∧
      replay records key digest = .ok (some receiptJson) := by
  unfold replayIfKnown at h
  split_ifs at h
  cases hread : readRecords rt lib journal with
  | none => simp [hread] at h
  | some records =>
    simp only [hread] at h
    exact ⟨records, rfl, h⟩

/-! ## §3 One call -/

/-- A receipt is returned: the journal reads and holds it as a completion. -/
structure Returns (rt : Runtime) (lib : JsonLibrary) (key digest : String) (w : World)
    (receiptJson : String) (s : World) : Prop where
  advances : Advances rt lib key digest w s
  completed : ∃ records, readRecords rt lib s.journal = some records ∧
    ∃ c ∈ recordsOf key records, c.recordType = .completion ∧ c.receiptJson = receiptJson ∧
      c.commandSha256 = digest

theorem returns_of_replay {records : List JournalRecord} {receiptJson : String}
    (hread : readRecords rt lib w.journal = some records)
    (h : replay records key digest = .ok (some receiptJson)) :
    Returns rt lib key digest w receiptJson w :=
  ⟨.refl, records, hread, replay_eq_some h⟩

/-- A validated message is the message. -/
theorem validateLabMessageDict_eq_ok {type : MessageType} {message validated : Dict} {now : Int}
    {allowExpired : Bool}
    (h : validateLabMessageDict rt lib type message now allowExpired = .ok validated) :
    validated = message :=
  (of_validateLabMessageDict h).1

/-- A stored receipt that passes is returned as it is stored. -/
theorem answerStored_eq_ok {service : LabExecutorService} {now : Int}
    {receiptJson text : String}
    (h : service.answerStored rt lib crypto now digest receiptJson = .ok text) :
    text = receiptJson := by
  unfold LabExecutorService.answerStored at h
  obtain ⟨receipt, -, h⟩ := Lib.bind_eq_ok.mp h
  split_ifs at h
  exact (Except.ok.inj h).symm

section Wp

variable {around : Surroundings} {S : World → Prop}

/-- A hook lets the handler go on in the same state, or stops it there. -/
theorem failureHook_wp {stage : Stage} {Q : Unit → World → Prop} {R : String → World → Prop}
    (hS : S s) (hQ : Q () s) :
    (failureHook stage).wp (Prog.answering (around.answer rt lib) S) Q R s := by
  refine ⟨fun s' h => ?_, fun a s' h => ?_⟩
  · obtain ⟨-, rfl⟩ := Prod.mk.inj h
    exact hS
  · obtain ⟨-, rfl⟩ := Prod.mk.inj h
    exact hQ

/-- The attempt leaves the reservation, and enters the action at most once. -/
theorem attempt_wp {service : LabExecutorService} {command : Dict}
    {prestate : Option LabObservedState} (h : Reserved rt lib key digest w s)
    (hentered : s.entered = w.entered) (hkey : textOf command "idempotency_key" = key)
    (hS : ∀ s, Advances rt lib key digest w s → S s) :
    (service.attempt lib command prestate).wp (Prog.answering (around.answer rt lib) S)
      (fun _ s => Reserved rt lib key digest w s) (fun _ s => Advances rt lib key digest w s) s := by
  unfold LabExecutorService.attempt
  cases prestate with
  | none => exact h
  | some state =>
    by_cases hattempt : LabExecutorService.PreconditionsHold command state ∧
        service.effectsEnabled = true
    · simp only [if_pos hattempt]
      have hafter : Reserved rt lib key digest w { s with entered := s.entered ++ [key] } :=
        ⟨h.fresh, h.journal, .inr (by rw [hentered])⟩
      refine ⟨fun s' hanswer => ?_, fun a s' hanswer => ?_⟩
      · obtain ⟨-, rfl⟩ := Prod.mk.inj hanswer
        rw [hkey]
        exact hS _ hafter.advances
      · obtain ⟨-, rfl⟩ := Prod.mk.inj hanswer
        rw [hkey]
        apply Prog.wp_bind.mpr
        exact failureHook_wp (R := fun _ s => Advances rt lib key digest w s)
          (hS _ hafter.advances) hafter
    · simp only [if_neg hattempt]
      exact h

theorem canonicalJson_obj_ne (d : Dict) : canonicalJson (.obj d) ≠ "" := by
  intro h
  have hnil := congrArg String.toList h
  simp [canonicalJson, Json.render] at hnil

/-- The completion of a reservation. -/
theorem askComplete_wp {receiptJson recordedAt : String} (h : Reserved rt lib key digest w s)
    (hreceipt : receiptJson ≠ "") (hS : ∀ s, Advances rt lib key digest w s → S s) :
    (askComplete key digest receiptJson recordedAt).wp
      (Prog.answering (around.answer rt lib) S)
      (fun completed s' => match completed with
        | .ok () => Returns rt lib key digest w receiptJson s'
        | .error _ => Advances rt lib key digest w s')
      (fun _ s => Advances rt lib key digest w s) s := by
  -- the answer that the transaction gives, with the state that it leaves
  suffices hall : ∀ x s', Surroundings.transact s around.completeFault
      (complete rt lib s.journal key digest receiptJson recordedAt) = (x, s') →
        match x with
        | none => Advances rt lib key digest w s'
        | some (.ok ()) => Returns rt lib key digest w receiptJson s'
        | some (.error _) => Advances rt lib key digest w s' by
    refine ⟨fun s' hanswer => hS _ (hall none s' hanswer), fun a s' hanswer => ?_⟩
    cases a with
    | error e => exact hall _ s' hanswer
    | ok u => exact hall _ s' hanswer
  intro x s' htransact
  unfold Surroundings.transact at htransact
  split_ifs at htransact with hfault
  · obtain ⟨rfl, rfl⟩ := Prod.mk.inj htransact
    exact h.advances
  · cases hcomplete : complete rt lib s.journal key digest receiptJson recordedAt with
    | error e =>
      rw [hcomplete] at htransact
      obtain ⟨rfl, rfl⟩ := Prod.mk.inj htransact
      exact h.advances
    | ok payload =>
      obtain ⟨records, hread, rfl, hwhole⟩ := complete_eq_ok hreceipt hcomplete
      -- however much is written, the reservation is followed by the completion at most
      have hwritten : ∀ n, Advances rt lib key digest w { s with journal := s.journal ++
          ((completion records key digest receiptJson recordedAt).payload rt).take n } := by
        intro n
        refine .inr (h.uses_of rfl fun records' hrecords' => ?_)
        rcases Nat.eq_zero_or_pos n with rfl | hpos
        · rw [List.take_zero, List.append_nil] at hrecords'
          exact ⟨records', [], hrecords', (List.append_nil _).symm, by simp⟩
        · rw [readRecords_take hwhole hpos hrecords']
          exact ⟨records, [_], hread, rfl, by simp [UnsignedRecord.record, completion, reservation]⟩
      rw [hcomplete] at htransact
      cases hfault' : around.completeFault with
      | unavailable => exact absurd hfault' hfault
      | none =>
        simp only [Surroundings.write, hfault', Option.map_some] at htransact
        obtain ⟨rfl, rfl⟩ := Prod.mk.inj htransact
        refine ⟨?_, _, hwhole, ?_⟩
        · have hall := hwritten ((completion records key digest receiptJson recordedAt).payload
            rt).length
          rwa [List.take_length] at hall
        · refine ⟨(completion records key digest receiptJson recordedAt).record rt, ?_, rfl, rfl, rfl⟩
          simp [recordsOf, UnsignedRecord.record, completion, reservation]
      | broken n =>
        simp only [Surroundings.write, hfault', Option.map_none] at htransact
        obtain ⟨rfl, rfl⟩ := Prod.mk.inj htransact
        exact hwritten n

/-- The handler from the reservation on. -/
theorem performReserved_wp {service : LabExecutorService} {now : Int} {command : Dict}
    (h : Reserved rt lib key digest w s) (hentered : s.entered = w.entered)
    (hkey : textOf command "idempotency_key" = key)
    (hS : ∀ s, Advances rt lib key digest w s → S s) :
    (service.performReserved rt lib crypto now command digest).wp
      (Prog.answering (around.answer rt lib) S) (Returns rt lib key digest w)
      (fun _ s => Advances rt lib key digest w s) s := by
  unfold LabExecutorService.performReserved
  apply Prog.wp_bind.mpr
  refine failureHook_wp (hS _ h.advances) ?_
  -- the state is read, whatever comes of it
  apply Prog.wp_bind.mpr
  refine ⟨fun s' hanswer => ?_, fun observed s' hanswer => ?_⟩
  · obtain ⟨-, rfl⟩ := Prod.mk.inj hanswer
    exact hS _ h.advances
  obtain ⟨-, rfl⟩ := Prod.mk.inj hanswer
  apply Prog.wp_bind.mpr
  refine Prog.wp_mono (fun outcome s₁ h₁ => ?_) (fun _ _ he => he)
    (attempt_wp h hentered hkey hS)
  apply Prog.wp_bind.mpr
  refine Prog.wp_ofExcept.mpr ⟨fun receipt _ => ?_, fun _ _ => h₁.advances⟩
  apply Prog.wp_bind.mpr
  rw [hkey]
  refine Prog.wp_mono (fun completed s₂ h₂ => ?_) (fun _ _ he => he)
    (askComplete_wp h₁ (canonicalJson_obj_ne receipt) hS)
  apply Prog.wp_bind.mpr
  refine Prog.wp_ofExcept.mpr ⟨fun u hok => ?_, fun e herror => ?_⟩
  · subst hok
    apply Prog.wp_bind.mpr
    exact failureHook_wp (hS _ h₂.advances) h₂
  · subst herror
    exact h₂

/-- The handler of a command that the journal does not know. -/
theorem handleUnknown_wp {service : LabExecutorService} {now : Int} {command : Dict}
    (hkey : textOf command "idempotency_key" = key)
    (hS : ∀ s, Advances rt lib key digest w s → S s) :
    (service.handleUnknown rt lib crypto now command digest).wp
      (Prog.answering (around.answer rt lib) S) (Returns rt lib key digest w)
      (fun _ s => Advances rt lib key digest w s) w := by
  unfold LabExecutorService.handleUnknown
  apply Prog.wp_bind.mpr
  refine Prog.wp_ofExcept.mpr ⟨fun validated hvalid => ?_, fun _ _ => .refl⟩
  obtain rfl : validated = command := validateLabMessageDict_eq_ok hvalid
  rw [hkey]
  -- the answer that the transaction gives, with the state that it leaves
  suffices hall : ∀ x s', around.intake rt lib w key digest (rt.isoformat now) = (x, s') →
      match x with
      | none => Advances rt lib key digest w s'
      | some (.error _) => s' = w
      | some (.ok (some receiptJson)) => s' = w ∧ ∃ records,
          readRecords rt lib w.journal = some records ∧
            replay records key digest = .ok (some receiptJson)
      | some (.ok none) => Reserved rt lib key digest w s' ∧ s'.entered = w.entered by
    refine ⟨fun s' hanswer => hS _ (hall none s' hanswer), fun intake s' hanswer => ?_⟩
    have hintake := hall (some intake) s' hanswer
    cases intake with
    | error e =>
      obtain rfl : s' = w := hintake
      exact Advances.refl
    | ok known =>
      cases known with
      | none => exact performReserved_wp hintake.1 hintake.2 hkey hS
      | some receiptJson =>
        obtain ⟨rfl, records, hread, hreplay⟩ := hintake
        refine Prog.wp_ofExcept.mpr ⟨fun text htext => ?_, fun _ _ => .refl⟩
        rw [answerStored_eq_ok htext]
        exact returns_of_replay hread hreplay
  intro x s' hintake
  unfold Surroundings.intake at hintake
  split_ifs at hintake with hfault
  · obtain ⟨rfl, rfl⟩ := Prod.mk.inj hintake
    exact .refl
  · cases hreserve : reserveOrReplay rt lib w.journal key digest (rt.isoformat now) with
    | error e =>
      rw [hreserve] at hintake
      obtain ⟨rfl, rfl⟩ := Prod.mk.inj hintake
      rfl
    | ok intake =>
      rw [hreserve] at hintake
      cases intake with
      | replayed receiptJson =>
        obtain ⟨rfl, rfl⟩ := Prod.mk.inj hintake
        exact ⟨rfl, reserveOrReplay_eq_replayed hreserve⟩
      | reserved payload =>
        obtain ⟨records, hread, hunused, hopen, rfl, hwhole⟩ := reserveOrReplay_eq_reserved hreserve
        have hfresh : Fresh rt lib key w.journal := ⟨records, hread, hunused, hopen⟩
        cases hfault' : around.reserveFault with
        | unavailable => exact absurd hfault' hfault
        | none =>
          simp only [Surroundings.write, hfault', Option.map_some] at hintake
          obtain ⟨rfl, rfl⟩ := Prod.mk.inj hintake
          refine ⟨⟨hfresh, fun records' hrecords' => ?_, .inl rfl⟩, rfl⟩
          rw [hread] at hrecords'
          cases hrecords'
          exact ⟨_, rfl, rfl, rfl, hwhole⟩
        | broken n =>
          simp only [Surroundings.write, hfault', Option.map_none] at hintake
          obtain ⟨rfl, rfl⟩ := Prod.mk.inj hintake
          -- nothing is written, or the key is used if the journal still reads
          rcases Nat.eq_zero_or_pos n with rfl | hpos
          · rw [List.take_zero, List.append_nil]
            exact .refl
          · refine .inr ⟨hfresh, fun records₀ hrecords₀ records' hrecords' => ?_, .inl rfl⟩
            obtain rfl : records = records₀ := Option.some.inj (hread.symm.trans hrecords₀)
            rw [readRecords_take hwhole hpos hrecords']
            exact ⟨_, [], rfl, by simp [UnsignedRecord.record, reservation]⟩

end Wp

end DecisionFirewall.Lab
