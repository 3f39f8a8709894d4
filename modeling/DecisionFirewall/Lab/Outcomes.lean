import DecisionFirewall.Lab.JournalRuns
import DecisionFirewall.Lab.Receipts

/-!
# Outcomes and Their Receipts

What the executor makes of a command that it has reserved, from the reading of the target to
the receipt that is returned.

- §1 receipts that can be signed
- §2 the receipt of a call
- §3 where a returned receipt comes from
- §4 a target in another state
-/

namespace DecisionFirewall.Lab

open Lib
open Phase3 (Primitives Bytes IsSchemaIdentifier IsHexDigest encodedSize_le length_text_le jsonDepth
  sizeBound sizeBoundFields newYearRuntime plainPrimitives zeros)

variable {rt : Runtime} {lib : JsonLibrary} {crypto : Primitives}

/-! ## §1 Receipts that can be signed -/

/-- `isoformat()` of a whole second in UTC. -/
def WritesSeconds (rt : Runtime) : Prop :=
  ∀ t, rt.IsDatetime t → Runtime.truncate t = t → IsSecondText (rt.isoformat t)

/-- **Every outcome of an authenticated command has a receipt that is signed and loaded, but
for an admitted result whose effect is a number that equals the boolean.** -/
theorem outcome_signable_iff {service : LabExecutorService} {t : Int} {raw : Bytes} {command : Dict}
    (hcode : HexDigests crypto) (hseconds : WritesSeconds rt) (hclock : rt.IsDatetime t)
    (hcommand : service.commandOf rt lib crypto (Runtime.truncate t) raw = .ok command) :
    (∀ prestate, Signable rt lib crypto service (Runtime.truncate t) command
      (LabExecutorService.preEffect command prestate)) ∧
    ∀ result, Signable rt lib crypto service (Runtime.truncate t) command
      (LabExecutorService.postEffect lib command result) ↔ EffectIsBool lib command result := by
  have hsecond : Runtime.truncate (Runtime.truncate t) = Runtime.truncate t := by
    simp only [Runtime.truncate]
    omega
  have hsignable : ∀ outcome, Closed (textOf command "prestate_sha256") outcome →
      Signable rt lib crypto service (Runtime.truncate t) command outcome := fun outcome =>
    signable_of_closed hcode (isCommand_of_commandOf hcommand) hclock.truncate hsecond
      (hseconds _ hclock.truncate hsecond)
  constructor
  · exact fun prestate => hsignable _ (closed_preEffect command prestate)
  · exact fun result => ⟨effectIsBool_of_signable, fun h => hsignable _ (closed_postEffect h)⟩

theorem writesSeconds_newYear : WritesSeconds newYearRuntime := by
  intro t ht _
  -- what reads back is one of the instants that are listed
  have hlookup : Runtime.newYear.lookup (newYearRuntime.isoformat t) = some t := ht.2.2
  obtain ⟨l₁, l₂, hsplit, -⟩ := List.lookup_eq_some_iff.mp hlookup
  have hmem : (newYearRuntime.isoformat t, t) ∈ Runtime.newYear := by
    rw [hsplit]
    exact List.mem_append_right _ List.mem_cons_self
  have hall : ∀ i ∈ Runtime.newYear, i.1.length = 25 ∧
      i.1.toList.all (fun c => decide (c ∈ "0123456789-T:+".toList)) = true := by decide +kernel
  obtain ⟨hlength, hchars⟩ := hall _ hmem
  exact ⟨hlength, fun c hc => of_decide_eq_true (List.all_eq_true.mp hchars c hc)⟩

theorem hexDigests_plainPrimitives : HexDigests plainPrimitives := by
  intro key text
  show IsSha256 zeros
  decide

theorem outcome_signable_example : Signable newYearRuntime asciiLibrary plainPrimitives
    exampleService exampleTime (exampleCommand "C1")
      (LabExecutorService.postEffect asciiLibrary (exampleCommand "C1") none) := by
  refine ((outcome_signable_iff hexDigests_plainPrimitives writesSeconds_newYear
    (t := exampleTime) ?_ (commandOf_example (.inl rfl))).2 none).mpr ?_
  · decide +kernel
  · exact fun r hr => by cases hr

/-- An applied effect that is reported with the number 1. -/
def numberedResult : LabMutationResult :=
  ⟨.str "APPLIED", .int 1, .str "RULESET_APPLIED", .str (String.ofList (List.replicate 64 'f'))⟩

/-- Python holds the number for a true value, the receipt schema does not. -/
theorem numbered_effect_not_signable :
    ¬ ∀ (rt : Runtime) (lib : JsonLibrary) (crypto : Primitives) (service : LabExecutorService)
      (t : Int) (raw : Bytes) (command : Dict) (result : Option LabMutationResult),
      HexDigests crypto → WritesSeconds rt → rt.IsDatetime t →
      service.commandOf rt lib crypto (Runtime.truncate t) raw = .ok command →
        Signable rt lib crypto service (Runtime.truncate t) command
          (LabExecutorService.postEffect lib command result) := by
  intro hall
  have hsignable := hall newYearRuntime asciiLibrary plainPrimitives exampleService exampleTime
    (exampleCall "C1").raw (exampleCommand "C1") (some numberedResult) hexDigests_plainPrimitives
    writesSeconds_newYear (by decide +kernel) (commandOf_example (.inl rfl))
  have hvalid : numberedResult.Valid asciiLibrary (textOf (exampleCommand "C1") "prestate_sha256") := by
    refine ⟨"APPLIED", rfl, (true, "RULESET_APPLIED"), rfl, String.ofList (List.replicate 64 'f'), rfl,
      rfl, rfl, by decide, fun h => ?_, fun _ => ?_⟩
    · exact absurd h (by decide)
    · show String.ofList (List.replicate 64 'f') ≠ zeros
      decide
  obtain ⟨b, hb⟩ := effectIsBool_of_signable hsignable numberedResult rfl hvalid
  cases hb

/-! ## §2 The receipt of a call -/

/-- The outcome of a command, by what was read and what the action answers there. -/
def LabExecutorService.outcome? (lib : JsonLibrary) (service : LabExecutorService)
    (applyAction : LabObservedState → Option (Option LabMutationResult)) (command : Dict) :
    Option LabObservedState → Option LabMutationResult
  | none => some (preEffect command none)
  | some state =>
    if PreconditionsHold command state ∧ service.effectsEnabled = true then
      (applyAction state).map (postEffect lib command)
    else some (preEffect command (some state))

/-- What a call reads, if its reading is valid. -/
def Call.reads (c : Call) : Option (Option LabObservedState) :=
  c.around.readState.map fun observed => observed.filter fun s => s.Valid

/-- A call authenticates a command, finds its outcome and signs the receipt of it. -/
structure Call.Makes (rt : Runtime) (lib : JsonLibrary) (crypto : Primitives) (c : Call) (t : Int)
    (command : Dict) (prestate : Option LabObservedState) (outcome : LabMutationResult)
    (receipt : Dict) : Prop where
  clock : c.around.clock = some t
  authenticated : c.service.commandOf rt lib crypto (Runtime.truncate t) c.raw = .ok command
  reads : c.reads = some prestate
  decided : c.service.outcome? lib (c.around.applyAction command) command prestate = some outcome
  signed : signLabMessage rt lib crypto .receipt c.service.keyId c.service.key (Runtime.truncate t)
    (LabExecutorService.unsignedReceipt command (labMessageSha256 rt command)
      (rt.isoformat (Runtime.truncate t)) outcome) = .ok receipt

/-- The text is that of a receipt that the call makes. -/
def Call.MakesText (rt : Runtime) (lib : JsonLibrary) (crypto : Primitives) (c : Call)
    (text : String) : Prop :=
  ∃ t command prestate outcome receipt, c.Makes rt lib crypto t command prestate outcome receipt ∧
    text = canonicalJson (.obj receipt)

section Attempt

variable {around : Surroundings} {service : LabExecutorService} {command : Dict} {s : World}
  {S : World → Prop}

/-- What is said of a journal, an attempt leaves, with the outcome of the command. -/
theorem attempt_outcome {P : Bytes → Prop} {prestate : Option LabObservedState}
    (hP : P s.journal) (hS : ∀ s, P s.journal → S s) :
    (service.attempt lib command prestate).wp (Prog.answering (around.answer rt lib) S)
      (fun outcome s => P s.journal ∧
        service.outcome? lib (around.applyAction command) command prestate = some outcome)
      (fun _ s => P s.journal) s := by
  unfold LabExecutorService.attempt LabExecutorService.outcome?
  cases prestate with
  | none => exact ⟨hP, rfl⟩
  | some state =>
    by_cases hattempt : LabExecutorService.PreconditionsHold command state ∧
        service.effectsEnabled = true
    · simp only [if_pos hattempt]
      refine ⟨fun s' hanswer => ?_, fun result s' hanswer => ?_⟩
      · obtain ⟨-, rfl⟩ := Prod.mk.inj hanswer
        exact hS _ hP
      · obtain ⟨hresult, rfl⟩ := Prod.mk.inj hanswer
        apply Prog.wp_bind.mpr
        refine failureHook_wp (R := fun _ s => P s.journal) (hS _ hP) ⟨hP, ?_⟩
        rw [hresult]
        rfl
    · simp only [if_neg hattempt]
      exact ⟨hP, rfl⟩

/-- The attempt of a command whose outcome is decided, where nothing stops it. -/
theorem attempt_decided {P : Bytes → Prop} {prestate : Option LabObservedState}
    {outcome : LabMutationResult} {R : String → World → Prop} (hP : P s.journal)
    (hstops : around.stopsAt .afterEffect = false)
    (h : service.outcome? lib (around.applyAction command) command prestate = some outcome) :
    (service.attempt lib command prestate).wp (Prog.answering (around.answer rt lib) S)
      (fun outcome' s => outcome' = outcome ∧ P s.journal) R s := by
  unfold LabExecutorService.outcome? at h
  unfold LabExecutorService.attempt
  cases prestate with
  | none => exact ⟨Option.some.inj h, hP⟩
  | some state =>
    by_cases hattempt : LabExecutorService.PreconditionsHold command state ∧
        service.effectsEnabled = true
    · simp only [if_pos hattempt] at h ⊢
      obtain ⟨result, hresult, rfl⟩ := Option.map_eq_some_iff.mp h
      refine ⟨fun s' hanswer => ?_, fun result' s' hanswer => ?_⟩
      · obtain ⟨hnone, -⟩ := Prod.mk.inj hanswer
        rw [hresult] at hnone
        cases hnone
      · obtain ⟨hsome, rfl⟩ := Prod.mk.inj hanswer
        obtain rfl : result = result' := Option.some.inj (hresult.symm.trans hsome)
        exact failureHook_bind_wp hstops ⟨rfl, hP⟩
    · simp only [if_neg hattempt] at h ⊢
      exact ⟨Option.some.inj h, hP⟩

end Attempt

/-- The record that completes a command behind its reservation. -/
def completionOf (rt : Runtime) (t : Int) (command : Dict) (records : List JournalRecord)
    (receiptJson : String) : UnsignedRecord :=
  completion (records ++ [(reservation records (textOf command "idempotency_key")
      (labMessageSha256 rt command) (rt.isoformat (Runtime.truncate t))).record rt])
    (textOf command "idempotency_key") (labMessageSha256 rt command) receiptJson
    (rt.isoformat (Runtime.truncate t))

/-- A reserved command is completed where the journal has room for its record. -/
theorem complete_of_reserves {c : Call} {w : World} {t : Int} {command : Dict}
    {records : List JournalRecord} (h : Reserves rt lib crypto c w t command records)
    (receiptJson : String) :
    complete rt lib (reservedWorld rt w t command records).journal
      (textOf command "idempotency_key") (labMessageSha256 rt command) receiptJson
      (rt.isoformat (Runtime.truncate t)) =
    append rt (reservedWorld rt w t command records).journal
      (completionOf rt t command records receiptJson) := by
  obtain ⟨records', hread, -, -, -, hwhole⟩ := reserveOrReplay_eq_reserved
    (reserveOrReplay_of_unused h.arguments h.readable h.unused h.unreserved h.room)
  obtain rfl : records = records' := Option.some.inj (h.readable.symm.trans hread)
  -- the reservation is the one record of its key
  have hmatches : recordsOf (textOf command "idempotency_key") (records ++ [(reservation records
      (textOf command "idempotency_key") (labMessageSha256 rt command)
        (rt.isoformat (Runtime.truncate t))).record rt]) = [(reservation records
      (textOf command "idempotency_key") (labMessageSha256 rt command)
        (rt.isoformat (Runtime.truncate t))).record rt] := by
    rw [recordsOf_append, h.unused, List.nil_append, recordsOf_singleton]
    exact if_pos rfl
  rw [complete, reservedWorld, hwhole]
  simp only [hmatches]
  exact (if_neg fun hne => hne rfl).trans (if_neg fun hne => hne rfl)

/-- What a call comes to that has reserved its command and that nothing interrupts: its receipt is
completed and returned, or the completion is refused. -/
theorem turn_of_reserves {c : Call} {w : World} {t : Int} {command receipt : Dict}
    {records : List JournalRecord} {prestate : Option LabObservedState}
    {outcome : LabMutationResult} (h : Reserves rt lib crypto c w t command records)
    (hmakes : c.Makes rt lib crypto t command prestate outcome receipt)
    (hstops : ∀ stage, c.around.stopsAt stage = false) (hfault : c.around.completeFault = .none) :
    match complete rt lib (reservedWorld rt w t command records).journal
      (textOf command "idempotency_key") (labMessageSha256 rt command)
      (canonicalJson (.obj receipt)) (rt.isoformat (Runtime.truncate t)) with
    | .ok payload => (turn rt lib crypto w c).outcome = .returned (canonicalJson (.obj receipt)) ∧
        (turn rt lib crypto w c).after.journal =
          (reservedWorld rt w t command records).journal ++ payload
    | .error e => (turn rt lib crypto w c).outcome = .raised e ∧
        (turn rt lib crypto w c).after.journal = (reservedWorld rt w t command records).journal := by
  generalize hcomplete : complete rt lib (reservedWorld rt w t command records).journal
    (textOf command "idempotency_key") (labMessageSha256 rt command)
    (canonicalJson (.obj receipt)) (rt.isoformat (Runtime.truncate t)) = completed
  have hwp : (c.service.handle rt lib crypto c.raw).wp
      (Prog.answering (c.around.answer rt lib) fun _ => False)
      (fun text s => ∃ payload, completed = .ok payload ∧ text = canonicalJson (.obj receipt) ∧
        s.journal = (reservedWorld rt w t command records).journal ++ payload)
      (fun e s => completed = .error e ∧
        s.journal = (reservedWorld rt w t command records).journal) w := by
    apply handle_wp_of_reserves h
    unfold LabExecutorService.performReserved
    apply failureHook_bind_wp (hstops _)
    -- the state is read
    obtain ⟨observed, hobserved, rfl⟩ := Option.map_eq_some_iff.mp hmakes.reads
    refine ⟨fun s' hanswer => ?_, fun observed' s' hanswer => ?_⟩
    · obtain ⟨hnone, -⟩ := Prod.mk.inj hanswer
      rw [hobserved] at hnone
      cases hnone
    obtain ⟨hsome, rfl⟩ := Prod.mk.inj hanswer
    obtain rfl : observed = observed' := Option.some.inj (hobserved.symm.trans hsome)
    -- the outcome is decided and its receipt is signed
    refine Prog.wp_bind.mpr (Prog.wp_bind.mpr (Prog.wp_mono ?_ (fun _ _ he => he)
      (attempt_decided (P := fun journal => journal =
        (reservedWorld rt w t command records).journal) rfl (hstops _) hmakes.decided)))
    rintro outcome' s ⟨rfl, hjournal⟩
    apply Prog.wp_bind.mpr
    rw [hmakes.signed]
    -- its completion is written or refused
    have hanswer : c.around.answer rt lib s (.complete (textOf command "idempotency_key")
        (labMessageSha256 rt command) (canonicalJson (.obj receipt))
          (rt.isoformat (Runtime.truncate t))) = Surroundings.transact s .none completed := by
      show Surroundings.transact _ _ (complete ..) = _
      rw [hjournal, hcomplete, hfault]
    cases completed with
    | error e =>
      refine ⟨fun s' hanswer' => ?_, fun a s' hanswer' => ?_⟩
      · cases hanswer.symm.trans hanswer'
      obtain ⟨hsome, rfl⟩ := Prod.mk.inj (hanswer.symm.trans hanswer')
      obtain rfl : a = .error e := (Option.some.inj hsome).symm
      exact ⟨rfl, hjournal⟩
    | ok payload =>
      refine ⟨fun s' hanswer' => ?_, fun a s' hanswer' => ?_⟩
      · cases hanswer.symm.trans hanswer'
      obtain ⟨hsome, rfl⟩ := Prod.mk.inj (hanswer.symm.trans hanswer')
      obtain rfl : a = .ok () := (Option.some.inj hsome).symm
      refine failureHook_bind_wp (hstops _) ⟨payload, rfl, rfl, ?_⟩
      exact congrArg (· ++ payload) hjournal
  have hend := Prog.exec_of_wp hwp
  unfold turn Call.run
  cases hrun : (c.service.handle rt lib crypto c.raw).exec (c.around.answer rt lib) w with
  | mk outcome s =>
    rw [hrun] at hend
    cases outcome with
    | returned text =>
      obtain ⟨payload, rfl, rfl, hjournal⟩ := hend
      exact ⟨rfl, hjournal⟩
    | raised e =>
      obtain ⟨rfl, hjournal⟩ := hend
      exact ⟨rfl, hjournal⟩
    | stopped => exact hend.elim

/-- The journal has room for the reservation of the command and for its completion. -/
def HasRoom (rt : Runtime) (w : World) (t : Int) (command : Dict) (records : List JournalRecord)
    (receiptJson : String) : Prop :=
  (reservedWorld rt w t command records).journal.length +
    ((completionOf rt t command records receiptJson).payload rt).length ≤ MAX_JOURNAL_BYTES

/-- With room for both records they are read behind the others. -/
theorem Reserves.readRecords_of_room {c : Call} {w : World} {t : Int} {command : Dict}
    {records : List JournalRecord} {receiptJson : String}
    (h : Reserves rt lib crypto c w t command records) (hreceipt : receiptJson ≠ "")
    (hroom : HasRoom rt w t command records receiptJson) :
    readRecords rt lib ((reservedWorld rt w t command records).journal ++
      (completionOf rt t command records receiptJson).payload rt) =
        some (records ++ [(reservation records (textOf command "idempotency_key")
          (labMessageSha256 rt command) (rt.isoformat (Runtime.truncate t))).record rt,
          (completionOf rt t command records receiptJson).record rt]) := by
  obtain ⟨records', hread, -, -, -, hreserved⟩ := reserveOrReplay_eq_reserved
    (reserveOrReplay_of_unused h.arguments h.readable h.unused h.unreserved h.room)
  obtain rfl : records = records' := Option.some.inj (h.readable.symm.trans hread)
  have hcomplete := complete_of_reserves h receiptJson
  rw [append, if_neg (not_lt.mpr hroom)] at hcomplete
  obtain ⟨records', hread', -, hwhole⟩ := complete_eq_ok hreceipt hcomplete
  obtain rfl := Option.some.inj (hreserved.symm.trans hread')
  rw [hwhole, List.append_assoc]
  rfl

/-- With room for both records the receipt is completed and returned. -/
theorem turn_of_room {c : Call} {w : World} {t : Int} {command receipt : Dict}
    {records : List JournalRecord} {prestate : Option LabObservedState}
    {outcome : LabMutationResult} (h : Reserves rt lib crypto c w t command records)
    (hmakes : c.Makes rt lib crypto t command prestate outcome receipt)
    (hstops : ∀ stage, c.around.stopsAt stage = false) (hfault : c.around.completeFault = .none)
    (hroom : HasRoom rt w t command records (canonicalJson (.obj receipt))) :
    (turn rt lib crypto w c).outcome = .returned (canonicalJson (.obj receipt)) ∧
      (turn rt lib crypto w c).after.journal = (reservedWorld rt w t command records).journal ++
        (completionOf rt t command records (canonicalJson (.obj receipt))).payload rt := by
  have hturn := turn_of_reserves h hmakes hstops hfault
  rw [complete_of_reserves h, append, if_neg (not_lt.mpr hroom)] at hturn
  exact hturn

/-! ## §3 Where a returned receipt comes from -/

/-- The completions in the journal hold receipts that the calls have made. -/
def FromCalls (rt : Runtime) (lib : JsonLibrary) (crypto : Primitives) (calls : List Call)
    (journal : Bytes) : Prop :=
  ∀ records, readRecords rt lib journal = some records → ∀ r ∈ records,
    r.recordType = .completion → ∃ c ∈ calls, c.MakesText rt lib crypto r.receiptJson

section FromCalls

variable {calls : List Call} {journal : Bytes}

theorem FromCalls.mono {more : List Call} (h : FromCalls rt lib crypto calls journal)
    (hsubset : calls ⊆ more) : FromCalls rt lib crypto more journal := by
  intro records hread r hr htype
  obtain ⟨c, hc, htext⟩ := h records hread r hr htype
  exact ⟨c, hsubset hc, htext⟩

/-- A record is written, or a part of it. -/
theorem FromCalls.append {records : List JournalRecord} {r : UnsignedRecord}
    (h : FromCalls rt lib crypto calls journal) (hread : readRecords rt lib journal = some records)
    (hwhole : readRecords rt lib (journal ++ r.payload rt) = some (records ++ [r.record rt]))
    (hreceipt : r.recordType = .completion → ∃ c ∈ calls, c.MakesText rt lib crypto r.receiptJson)
    (n : Nat) : FromCalls rt lib crypto calls (journal ++ (r.payload rt).take n) := by
  rcases Nat.eq_zero_or_pos n with rfl | hpos
  · rwa [List.take_zero, List.append_nil]
  · intro records' hread' q hq htype
    rw [readRecords_take hwhole hpos hread'] at hq
    -- the record is an old one or the one that is written
    rcases List.mem_append.mp hq with hq | hq
    · exact h records hread q hq htype
    · obtain rfl := List.mem_singleton.mp hq
      exact hreceipt htype

/-- The whole record is written. -/
theorem FromCalls.append_whole {records : List JournalRecord} {r : UnsignedRecord}
    (h : FromCalls rt lib crypto calls journal) (hread : readRecords rt lib journal = some records)
    (hwhole : readRecords rt lib (journal ++ r.payload rt) = some (records ++ [r.record rt]))
    (hreceipt : r.recordType = .completion → ∃ c ∈ calls, c.MakesText rt lib crypto r.receiptJson) :
    FromCalls rt lib crypto calls (journal ++ r.payload rt) := by
  have hall := h.append hread hwhole hreceipt (r.payload rt).length
  rwa [List.take_length] at hall

end FromCalls

section Handle

variable {c : Call} {calls : List Call} {w s : World} {t : Int} {command : Dict}

/-- The transaction that completes a reservation. -/
theorem transact_fromCalls {fault : JournalFault} {key digest receiptJson recordedAt : String}
    (h : FromCalls rt lib crypto calls s.journal) (hreceipt : receiptJson ≠ "")
    (hmade : ∃ c ∈ calls, c.MakesText rt lib crypto receiptJson) :
    FromCalls rt lib crypto calls (Surroundings.transact s fault
      (complete rt lib s.journal key digest receiptJson recordedAt)).2.journal := by
  unfold Surroundings.transact
  split_ifs with hfault
  · exact h
  · cases hcomplete : complete rt lib s.journal key digest receiptJson recordedAt with
    | error e => exact h
    | ok payload =>
      obtain ⟨records, hread, rfl, hwhole⟩ := complete_eq_ok hreceipt hcomplete
      cases fault with
      | none => exact h.append_whole hread hwhole fun _ => hmade
      | unavailable => exact absurd rfl hfault
      | broken n => exact h.append hread hwhole (fun _ => hmade) n

/-- The transaction that reserves a key. -/
theorem intake_fromCalls {around : Surroundings} {key digest recordedAt : String}
    (h : FromCalls rt lib crypto calls s.journal) :
    FromCalls rt lib crypto calls (around.intake rt lib s key digest recordedAt).2.journal := by
  unfold Surroundings.intake
  split_ifs with hfault
  · exact h
  · cases hreserve : reserveOrReplay rt lib s.journal key digest recordedAt with
    | error e => exact h
    | ok intake =>
      cases intake with
      | replayed receiptJson => exact h
      | reserved payload =>
        obtain ⟨records, hread, -, -, rfl, hwhole⟩ := reserveOrReplay_eq_reserved hreserve
        -- a reservation is no completion
        have hreceipt : ∀ {P : Prop}, (reservation records key digest recordedAt).recordType =
            .completion → P := fun htype => by cases htype
        show FromCalls rt lib crypto calls (Surroundings.write s around.reserveFault _).2.journal
        cases hfault' : around.reserveFault with
        | none => exact h.append_whole hread hwhole hreceipt
        | unavailable => exact absurd hfault' hfault
        | broken n => exact h.append hread hwhole hreceipt n

/-- A receipt that is replayed leaves the journal as it is. -/
theorem intake_replayed {around : Surroundings} {key digest recordedAt receiptJson : String}
    (h : around.intake rt lib w key digest recordedAt = (some (.ok (some receiptJson)), s)) :
    s = w := by
  unfold Surroundings.intake at h
  split_ifs at h with hfault
  · cases h
  · cases hreserve : reserveOrReplay rt lib w.journal key digest recordedAt with
    | error e => simp [hreserve] at h
    | ok intake =>
      rw [hreserve] at h
      cases intake with
      | replayed receiptJson => exact (Prod.mk.inj h).2.symm
      | reserved payload =>
        cases hwrite : (Surroundings.write w around.reserveFault payload).1 <;> simp [hwrite] at h

/-- The handler from the reservation on completes and returns what the call makes. -/
theorem performReserved_fromCalls (hc : c ∈ calls) (hclock : c.around.clock = some t)
    (hcommand : c.service.commandOf rt lib crypto (Runtime.truncate t) c.raw = .ok command)
    (h : FromCalls rt lib crypto calls s.journal) :
    (c.service.performReserved rt lib crypto (Runtime.truncate t) command
      (labMessageSha256 rt command)).wp
      (Prog.answering (c.around.answer rt lib) fun s => FromCalls rt lib crypto calls s.journal)
      (fun text s => FromCalls rt lib crypto calls s.journal ∧ c.MakesText rt lib crypto text)
      (fun _ s => FromCalls rt lib crypto calls s.journal) s := by
  unfold LabExecutorService.performReserved
  apply Prog.wp_bind.mpr
  refine failureHook_wp h ?_
  -- the state is read, whatever comes of it
  apply Prog.wp_bind.mpr
  refine ⟨fun s' hanswer => ?_, fun observed s' hanswer => ?_⟩
  · obtain ⟨-, rfl⟩ := Prod.mk.inj hanswer
    exact h
  obtain ⟨hobserved, rfl⟩ := Prod.mk.inj hanswer
  replace hobserved : c.around.readState = some observed := hobserved
  apply Prog.wp_bind.mpr
  refine Prog.wp_mono (fun outcome s₁ h₁ => ?_) (fun _ _ he => he)
    (attempt_outcome (P := FromCalls rt lib crypto calls) h fun _ hs => hs)
  obtain ⟨h₁, hdecided⟩ := h₁
  apply Prog.wp_bind.mpr
  refine Prog.wp_ofExcept.mpr ⟨fun receipt hsigned => ?_, fun _ _ => h₁⟩
  have hmade : c.MakesText rt lib crypto (canonicalJson (.obj receipt)) :=
    ⟨t, command, observed.filter fun s => s.Valid, outcome, receipt, {
      clock := hclock
      authenticated := hcommand
      reads := by
        rw [Call.reads, hobserved]
        rfl
      decided := hdecided
      signed := hsigned }, rfl⟩
  -- its receipt is completed, as far as the journal takes it
  have hcomplete := @transact_fromCalls rt lib crypto calls s₁ c.around.completeFault
    (textOf command "idempotency_key") (labMessageSha256 rt command) _
    (rt.isoformat (Runtime.truncate t)) h₁ (canonicalJson_obj_ne receipt) ⟨c, hc, hmade⟩
  have hafter : ∀ {x s'}, c.around.answer rt lib s₁ (.complete (textOf command "idempotency_key")
      (labMessageSha256 rt command) (canonicalJson (.obj receipt))
        (rt.isoformat (Runtime.truncate t))) = (x, s') →
      FromCalls rt lib crypto calls s'.journal := by
    intro x s' hanswer
    have hs' := congrArg (fun x => x.2.journal) hanswer
    exact hs' ▸ hcomplete
  apply Prog.wp_bind.mpr
  refine ⟨fun s' hanswer => hafter hanswer, fun completed s' hanswer => ?_⟩
  have h₂ := hafter hanswer
  apply Prog.wp_bind.mpr
  refine Prog.wp_ofExcept.mpr ⟨fun _ _ => ?_, fun _ _ => h₂⟩
  apply Prog.wp_bind.mpr
  exact failureHook_wp h₂ ⟨h₂, hmade⟩

/-- A call completes and returns what it makes, or it changes nothing. -/
theorem handle_fromCalls (hc : c ∈ calls) (h : FromCalls rt lib crypto calls w.journal) :
    (c.service.handle rt lib crypto c.raw).wp
      (Prog.answering (c.around.answer rt lib) fun s => FromCalls rt lib crypto calls s.journal)
      (fun text s => FromCalls rt lib crypto calls s.journal ∧
        (s = w ∨ c.MakesText rt lib crypto text))
      (fun _ s => FromCalls rt lib crypto calls s.journal) w := by
  refine handle_wp h (fun _ => h) fun t command hclock hcommand => ?_
  refine handleCommand_wp h (fun _ => h) (fun _ _ => ⟨h, .inl rfl⟩) fun _ _ => ?_
  unfold LabExecutorService.handleUnknown
  apply Prog.wp_bind.mpr
  refine Prog.wp_ofExcept.mpr ⟨fun v hv => ?_, fun _ _ => h⟩
  obtain rfl : v = command := validateLabMessageDict_eq_ok hv
  apply Prog.wp_bind.mpr
  have hintake := @intake_fromCalls rt lib crypto calls w c.around (textOf v "idempotency_key")
    (labMessageSha256 rt v) (rt.isoformat (Runtime.truncate t)) h
  have hafter : ∀ {x s'}, c.around.intake rt lib w (textOf v "idempotency_key")
      (labMessageSha256 rt v) (rt.isoformat (Runtime.truncate t)) = (x, s') →
      FromCalls rt lib crypto calls s'.journal := by
    intro x s' hanswer
    have hs' := congrArg (fun x => x.2.journal) hanswer
    exact hs' ▸ hintake
  refine ⟨fun _ hanswer => hafter hanswer, fun intake s' hanswer => ?_⟩
  have h' := hafter hanswer
  cases intake with
  | error e => exact h'
  | ok known =>
    cases known with
    | some receiptJson =>
      have hsame : s' = w := intake_replayed hanswer
      exact Prog.wp_ofExcept.mpr ⟨fun _ _ => ⟨h', .inl hsame⟩, fun _ _ => h'⟩
    | none =>
      show (c.service.performReserved rt lib crypto (Runtime.truncate t) v
        (labMessageSha256 rt v)).wp _ _ _ s'
      exact Prog.wp_mono (fun _ _ hq => ⟨hq.1, .inr hq.2⟩) (fun _ _ he => he)
        (performReserved_fromCalls hc hclock hcommand h')

/-- What a call leaves and returns. -/
theorem turn_fromCalls (hc : c ∈ calls) (h : FromCalls rt lib crypto calls w.journal) :
    FromCalls rt lib crypto calls (turn rt lib crypto w c).after.journal ∧
      ∀ text, (turn rt lib crypto w c).outcome = .returned text →
        (turn rt lib crypto w c).after = w ∨ c.MakesText rt lib crypto text := by
  have hend := Prog.exec_of_wp (handle_fromCalls hc h)
  unfold turn Call.run
  cases hrun : (c.service.handle rt lib crypto c.raw).exec (c.around.answer rt lib) w with
  | mk outcome s =>
    rw [hrun] at hend
    cases outcome with
    | returned text =>
      refine ⟨hend.1, fun text' htext' => ?_⟩
      cases htext'
      exact hend.2
    | raised e => exact ⟨hend, fun text htext => by cases htext⟩
    | stopped => exact ⟨hend, fun text htext => by cases htext⟩

/-- Every receipt that a history returns has been made by one of its calls up to there, by the
call itself if that has changed anything. -/
theorem made_of_history {seen : List Call} (h : FromCalls rt lib crypto seen w.journal) :
    ∀ {n T text}, (history rt lib crypto w calls)[n]? = some T → T.outcome = .returned text →
      ∃ c ∈ seen ++ calls.take (n + 1), (T.after ≠ T.before → c = T.call) ∧
        c.MakesText rt lib crypto text := by
  induction calls generalizing w seen with
  | nil => exact fun hT => by simp [history] at hT
  | cons c calls ih =>
    intro n T text hT htext
    have hseen := h.mono (List.subset_append_left seen [c])
    obtain ⟨hafter, hreturned⟩ := turn_fromCalls (List.mem_append_right seen List.mem_cons_self) hseen
    cases n with
    | succ n =>
      obtain ⟨d, hd, hself, hmade⟩ := ih hafter hT htext
      refine ⟨d, ?_, hself, hmade⟩
      simpa [List.append_assoc] using hd
    | zero =>
      obtain rfl : turn rt lib crypto w c = T := by simpa [history] using hT
      rcases hreturned text htext with hsame | hmade
      · -- a replay returns a completion that was there
        rcases turn_cases rt lib crypto w c with ⟨-, hsilent⟩ | ⟨command, -, -, hreturns⟩
        · exact absurd htext (hsilent text)
        obtain ⟨records, hread, r, hr, htype, hreceipt, -⟩ := (hreturns text htext).completed
        obtain ⟨d, hd, hmade⟩ := hafter records hread r (List.mem_filter.mp hr).1 htype
        exact ⟨d, by simpa using hd, fun hchanged => absurd hsame hchanged, hreceipt ▸ hmade⟩
      · exact ⟨c, by simp, fun _ => rfl, hmade⟩

end Handle

/-- The digest is one that the call has seen: of the state that was read, or of a result that
was admitted. -/
inductive Call.Sees (lib : JsonLibrary) (c : Call) (command : Dict) : String → Prop
  | read {state : LabObservedState} (h : c.reads = some (some state)) :
    Sees lib c command state.rulesetSha256
  | reported {state : LabObservedState} {result : LabMutationResult} {poststate : String}
    (h : c.reads = some (some state)) (hattempts : c.service.Attempts command (some state))
    (hresult : c.around.applyAction command state = some (some result))
    (hvalid : result.Valid lib (textOf command "prestate_sha256"))
    (hpoststate : result.poststateSha256 = .str poststate) : Sees lib c command poststate

/-- What an executor may state of the target behind a command: nothing, what it has seen, or
the expected state in the rejection of a target that was read in another one. -/
inductive Call.States (lib : JsonLibrary) (c : Call) (command receipt : Dict) : Prop
  | unknown (h : textOf receipt "poststate_sha256" = ZERO_DIGEST)
  | seen (h : c.Sees lib command (textOf receipt "poststate_sha256"))
  | expected {state : LabObservedState} (h : c.reads = some (some state))
    (hother : state.rulesetSha256 ≠ textOf command "prestate_sha256")
    (hrejected : textOf receipt "status" = "NO_EFFECT" ∧
      textOf receipt "reason_code" = "REJECTED_PRE_EFFECT")
    (hpoststate : textOf receipt "poststate_sha256" = textOf command "prestate_sha256")

section States

variable {c : Call} {t : Int} {command receipt : Dict} {prestate : Option LabObservedState}
  {outcome : LabMutationResult}

/-- The outcome in a receipt. -/
theorem outcome_of_signed {type : MessageType} {keyId : String} {key : Bytes} {now : Int}
    {digest timestamp : String} (h : signLabMessage rt lib crypto type keyId key now
      (LabExecutorService.unsignedReceipt command digest timestamp outcome) = .ok receipt) :
    Dict.get receipt "status" = outcome.status.toJson ∧
      Dict.get receipt "reason_code" = outcome.reasonCode.toJson ∧
      Dict.get receipt "poststate_sha256" = outcome.poststateSha256.toJson := by
  obtain ⟨-, -, -, rfl⟩ := signLabMessage_eq_ok h
  exact ⟨rfl, rfl, rfl⟩

/-- What is made of an outcome with these texts. -/
theorem texts_of_signed {type : MessageType} {keyId : String} {key : Bytes} {now : Int}
    {digest timestamp status reason poststate : String} {effect : Bool}
    (h : signLabMessage rt lib crypto type keyId key now (LabExecutorService.unsignedReceipt command
      digest timestamp (.of status effect reason poststate)) = .ok receipt) :
    textOf receipt "status" = status ∧ textOf receipt "reason_code" = reason ∧
      textOf receipt "poststate_sha256" = poststate := by
  obtain ⟨hstatus, hreason, hpoststate⟩ := outcome_of_signed h
  simp only [textOf, hstatus, hreason, hpoststate, LabMutationResult.of, PyVal.toJson, and_self]

/-- What a receipt states is what its call has seen, zeros, or the expected state of a target
in another one. -/
theorem Call.Makes.states (h : c.Makes rt lib crypto t command prestate outcome receipt) :
    c.States lib command receipt := by
  have hdecided := h.decided
  have hsigned := h.signed
  cases prestate with
  | none =>
    -- nothing was read
    obtain rfl := Option.some.inj hdecided
    exact .unknown (texts_of_signed hsigned).2.2
  | some state =>
    by_cases hattempts : LabExecutorService.PreconditionsHold command state ∧
        c.service.effectsEnabled = true
    · simp only [LabExecutorService.outcome?, if_pos hattempts] at hdecided
      obtain ⟨result, hresult, rfl⟩ := Option.map_eq_some_iff.mp hdecided
      unfold LabExecutorService.postEffect at hsigned
      cases hfilter : result.filter fun r => r.Valid lib (textOf command "prestate_sha256") with
      | none =>
        rw [hfilter] at hsigned
        exact .unknown (texts_of_signed hsigned).2.2
      | some r =>
        rw [hfilter] at hsigned
        obtain ⟨rfl, hvalid⟩ := Option.filter_eq_some_iff.mp hfilter
        replace hvalid := of_decide_eq_true hvalid
        have hreported := hvalid
        obtain ⟨-, -, -, -, poststate, hpoststate, -⟩ := hreported
        replace hpoststate := strOf_eq_some hpoststate
        have htext : textOf receipt "poststate_sha256" = poststate := by
          rw [textOf, (outcome_of_signed hsigned).2.2, hpoststate]
          rfl
        rw [← htext] at hpoststate
        exact .seen (.reported h.reads ⟨state, rfl, hattempts⟩ hresult hvalid hpoststate)
    · -- the action is not entered, and the expected state is reported
      simp only [LabExecutorService.outcome?, if_neg hattempts] at hdecided
      obtain rfl := Option.some.inj hdecided
      obtain ⟨hstatus, hreason, hpoststate⟩ := texts_of_signed hsigned
      replace hpoststate : textOf receipt "poststate_sha256" = textOf command "prestate_sha256" :=
        hpoststate
      by_cases hsame : state.rulesetSha256 = textOf command "prestate_sha256"
      · refine .seen ?_
        rw [hpoststate, ← hsame]
        exact .read h.reads
      · exact .expected h.reads hsame ⟨hstatus, hreason⟩ hpoststate

end States

/-- Every receipt that the calls return was made by one of them up to there, by the very call
that returned it if that one has changed anything, and states what that call may state. -/
def StatesSeen (rt : Runtime) (lib : JsonLibrary) (crypto : Primitives) (calls : List Call) : Prop :=
  ∀ n T text, (history rt lib crypto ⟨[], []⟩ calls)[n]? = some T → T.outcome = .returned text →
    ∃ c ∈ calls.take (n + 1), (T.after ≠ T.before → c = T.call) ∧
      ∃ t command prestate outcome receipt,
        c.Makes rt lib crypto t command prestate outcome receipt ∧
          text = canonicalJson (.obj receipt) ∧ c.States lib command receipt

/-- **Over any calls on a new journal, a returned receipt states zeros or a digest that the call
that made it has seen, except that the rejection of a target in another state names the state
that was expected.** -/
theorem history_statesSeen (rt : Runtime) (lib : JsonLibrary) (crypto : Primitives)
    (calls : List Call) : StatesSeen rt lib crypto calls := by
  intro n T text hT htext
  have hempty : FromCalls rt lib crypto [] [] := by
    intro records hread r hr
    obtain rfl : [] = records := Option.some.inj (readRecords_nil.symm.trans hread)
    cases hr
  obtain ⟨c, hc, hself, t, command, prestate, outcome, receipt, hmakes, rfl⟩ :=
    made_of_history hempty hT htext
  exact ⟨c, hc, hself, t, command, prestate, outcome, receipt, hmakes, rfl, hmakes.states⟩

/-! ## §4 A target in another state -/

/-- A command of the first seconds of 2026, whose identifiers are all the same. -/
def plainCommand (identifier key prestate : String) : Dict :=
  [("schema_version", .str SCHEMA_VERSION),
    ("message_type", .str COMMAND),
    ("lab_session_id", .str identifier),
    ("request_id", .str identifier),
    ("decision_id", .str identifier),
    ("authorization_id", .str identifier),
    ("policy_sha256", .str zeros),
    ("adapter_contract_sha256", .str zeros),
    ("target_id", .str TARGET_ID),
    ("target_boot_id", .str identifier),
    ("action", .str "NETWORK_ISOLATE"),
    ("parameters", .obj [("duration_seconds", .int 600),
      ("preserve_management", .bool true),
      ("network_profile", .str "LAB_BEACON_BLOCK_MANAGEMENT_ALLOW_V1")]),
    ("prestate_sha256", .str prestate),
    ("idempotency_key", .str key),
    ("sequence", .int 1),
    ("nonce", .str "00000000000000000000000000000000"),
    ("issued_at", .str "2026-01-01T00:00:00+00:00"),
    ("expires_at", .str "2026-01-01T00:00:02+00:00"),
    ("authentication", .obj [("key_id", .str "KEY_1"), ("mac_sha256", .str zeros)])]

/-- A call with such a command in which nothing goes wrong but what is read and answered. -/
def plainCall (identifier key prestate : String) (observed : Option LabObservedState)
    (result : Option LabMutationResult) : Call where
  service := exampleService
  raw := Json.encodeAscii (Json.obj (plainCommand identifier key prestate)).text
  around := {
    clock := some exampleTime
    replayFault := false
    reserveFault := .none
    completeFault := .none
    stopsAt _ := false
    readState := some observed
    applyAction _ _ := some result }

/-- The arguments of a plain command. -/
structure IsPlain (identifier key prestate : String) : Prop where
  short : identifier.length ≤ 120 ∧ key.length ≤ 10
  identifier : IsSchemaIdentifier identifier
  labKey : IsLabIdentifier key
  key : IsSchemaIdentifier key
  prestate : IsHexDigest prestate

section Plain

variable {identifier key prestate : String}

theorem schema_plainCommand (h : IsPlain identifier key prestate) :
    MessageType.command.schema asciiLibrary (.obj (plainCommand identifier key prestate)) = true := by
  have hidentifier : Schema.identifier (.str identifier) = true := decide_eq_true h.identifier
  have hkey : Schema.identifier (.str key) = true := decide_eq_true h.key
  have hprestate : Schema.sha256 (.str prestate) = true := decide_eq_true h.prestate
  rw [MessageType.schema, Schema.command]
  apply Schema.object_of
  · show ((exampleCommand "").map Prod.fst).Nodup
    exact (names_example "").1
  simp only [plainCommand, List.forall₂_cons, List.forall₂_nil_left_iff, true_and, and_true,
    hidentifier, hkey, hprestate, authentication_example, sha256_zeros]
  refine ⟨by decide +kernel, by decide +kernel, by decide +kernel, by decide +kernel, ?_,
    by decide +kernel, by decide +kernel, by decide +kernel, by decide +kernel⟩
  apply Schema.object_of
  · decide +kernel
  · simp only [List.forall₂_cons, List.forall₂_nil_left_iff, true_and, and_true]
    exact ⟨by decide +kernel, by decide +kernel, by decide +kernel⟩

theorem sizeBound_plainCommand (h : IsPlain identifier key prestate) :
    sizeBound (.obj (plainCommand identifier key prestate)) ≤ MAX_MESSAGE_BYTES := by
  obtain ⟨hidentifier, hkey⟩ := h.short
  have hprestate := length_renderString_ge prestate
  have hdigest := (length_of_isHexDigest h.prestate).2
  have hsize : sizeBound (.obj (plainCommand identifier key prestate)) =
      sizeBound (.obj (plainCommand "" "" "")) + 60 * identifier.length + 12 * key.length +
        12 * prestate.length := by
    simp only [plainCommand, sizeBound, sizeBoundFields, String.length_empty]
    ring
  have hempty : sizeBound (.obj (plainCommand "" "" "")) ≤ 8180 := by decide +kernel
  rw [hsize, MAX_MESSAGE_BYTES]
  omega

theorem validate_plainCommand (h : IsPlain identifier key prestate) (b : Bool) :
    validateLabMessageDict newYearRuntime asciiLibrary .command (plainCommand identifier key prestate)
      exampleTime b = .ok (plainCommand identifier key prestate) := by
  have hdepth : jsonDepth (.obj (plainCommand "" "" "")) ≤ MAX_JSON_DEPTH := by decide
  exact validateLabMessageDict_of ((encodedSize_le _).trans (sizeBound_plainCommand h)) hdepth
    (not_versionUnsupported rfl) (schema_plainCommand h) (fun _ => .inl rfl) (evaluate_example.2.1 b)
    rfl

/-- The bytes of the command are authenticated. -/
theorem commandOf_plain (h : IsPlain identifier key prestate)
    {observed : Option LabObservedState} {result : Option LabMutationResult} :
    exampleService.commandOf newYearRuntime asciiLibrary plainPrimitives exampleTime
      (plainCall identifier key prestate observed result).raw =
        .ok (plainCommand identifier key prestate) := by
  have hreadable : (Json.obj (plainCommand identifier key prestate)).Readable asciiLibrary :=
    ⟨(names_example "").1, by simp [plainCommand, Json.ReadableFields, Json.Readable]⟩
  have hdepth : jsonDepth (.obj (plainCommand "" "" "")) ≤ MAX_JSON_DEPTH := by decide
  exact commandOf_of_signed hreadable ((length_text_le _).trans (sizeBound_plainCommand h)) hdepth rfl
    (validate_plainCommand h true)

variable {observed : Option LabObservedState} {result : Option LabMutationResult} {w : World}
  {records : List JournalRecord} {outcome : LabMutationResult}

theorem reserves_plain (h : IsPlain identifier key prestate)
    (hread : readRecords newYearRuntime asciiLibrary w.journal = some records)
    (hunused : recordsOf key records = []) (hopen : ¬ HasOpenReservation records)
    (hroom : w.journal.length + ((reservation records key zeros "2026-01-01T00:00:00+00:00").payload
      newYearRuntime).length ≤ MAX_JOURNAL_BYTES) :
    Reserves newYearRuntime asciiLibrary plainPrimitives
      (plainCall identifier key prestate observed result) w exampleTime
      (plainCommand identifier key prestate) records where
  clock := rfl
  authenticated := commandOf_plain h
  current := ⟨_, validate_plainCommand h false⟩
  arguments := ⟨h.labKey, newYearRuntime.sha256_isSha256 _⟩
  readable := hread
  unused := hunused
  unreserved := hopen
  room := hroom
  uninterrupted := ⟨rfl, rfl, rfl⟩

/-- The receipt of a plain command. -/
def plainReceipt (identifier key prestate : String) (outcome : LabMutationResult) : Dict :=
  withCode (LabExecutorService.unsignedReceipt (plainCommand identifier key prestate) zeros
    "2026-01-01T00:00:00+00:00" outcome) "KEY_1" zeros

theorem makes_plain (h : IsPlain identifier key prestate)
    (hdecided : exampleService.outcome? asciiLibrary (fun _ => some result)
      (plainCommand identifier key prestate) (observed.filter fun s => s.Valid) = some outcome)
    (hclosed : Closed prestate outcome) :
    (plainCall identifier key prestate observed result).Makes newYearRuntime asciiLibrary
      plainPrimitives exampleTime (plainCommand identifier key prestate)
      (observed.filter fun s => s.Valid) outcome (plainReceipt identifier key prestate outcome) where
  clock := rfl
  authenticated := commandOf_plain h
  reads := rfl
  decided := hdecided
  signed := by
    have hcommand : exampleService.commandOf newYearRuntime asciiLibrary plainPrimitives exampleTime
        (plainCall identifier key prestate observed result).raw =
          .ok (plainCommand identifier key prestate) := commandOf_plain h
    have hsecond : IsSecondText (newYearRuntime.isoformat exampleTime) :=
      writesSeconds_newYear exampleTime (by decide +kernel) (by decide)
    have hvalid := (isCommand_of_commandOf hcommand).validate_receipt
      (newYearRuntime.sha256_isSha256 "") hsecond (by decide +kernel) (by decide) hclosed
    exact signLabMessage_of exampleService.keyValid rfl hvalid

end Plain

/-- A digest that is not zeros. -/
def otherDigest : String := String.ofList (List.replicate 64 'f')

/-- The target is read with zeros where the command expects another state. -/
def otherState : LabObservedState := ⟨"B1", true, true, zeros⟩

theorem isHexDigest_of_isSha256 {s : String} (h : IsSha256 s) : IsHexDigest s :=
  of_decide_eq_true (Schema.sha256_of_isSha256 h)

theorem isPlain_other : IsPlain "B1" "C1" otherDigest where
  short := by decide
  identifier := by simp [IsSchemaIdentifier]
  labKey := (key_example (.inl rfl)).2.1
  key := by simp [IsSchemaIdentifier]
  prestate := by
    apply isHexDigest_of_isSha256
    decide

/-- The receipt of a plain command is a message. -/
theorem length_plainReceipt_le {identifier key prestate : String} {outcome : LabMutationResult}
    {observed : Option LabObservedState} {result : Option LabMutationResult}
    (h : (plainCall identifier key prestate observed result).Makes newYearRuntime asciiLibrary
      plainPrimitives exampleTime (plainCommand identifier key prestate)
      (observed.filter fun s => s.Valid) outcome (plainReceipt identifier key prestate outcome)) :
    (canonicalJson (.obj (plainReceipt identifier key prestate outcome))).length ≤
      MAX_MESSAGE_BYTES := by
  obtain ⟨-, -, hvalid, -⟩ := signLabMessage_eq_ok h.signed
  exact (of_validateLabMessageDict hvalid).2.1

theorem turn_call {w : World} {c : Call} : (turn rt lib crypto w c).call = c := rfl

/-- What the executor did not read is stated of the target. -/
theorem unread_prestate_is_stated :
    ¬ ∀ (rt : Runtime) (lib : JsonLibrary) (crypto : Primitives) (calls : List Call) (n : ℕ)
      (T : Turn) (text : String), (history rt lib crypto ⟨[], []⟩ calls)[n]? = some T →
      T.outcome = .returned text → ∀ t command prestate outcome receipt,
      T.call.Makes rt lib crypto t command prestate outcome receipt →
      text = canonicalJson (.obj receipt) →
        textOf receipt "poststate_sha256" = ZERO_DIGEST ∨
          T.call.Sees lib command (textOf receipt "poststate_sha256") := by
  intro hall
  have hreads : (some otherState).filter (fun s => s.Valid) = some otherState := by decide +kernel
  have hother : ¬ LabExecutorService.PreconditionsHold (plainCommand "B1" "C1" otherDigest)
      otherState := by
    intro h
    have hsame : zeros = otherDigest := h.2.1
    exact absurd hsame (by decide)
  -- the call makes the receipt of a rejection
  have hdecided : exampleService.outcome? asciiLibrary (fun _ => some none)
      (plainCommand "B1" "C1" otherDigest) ((some otherState).filter fun s => s.Valid) =
        some (.of "NO_EFFECT" false "REJECTED_PRE_EFFECT" otherDigest) := by
    rw [hreads, LabExecutorService.outcome?, if_neg (not_and_of_not_left _ hother)]
    rfl
  have hmakes := makes_plain isPlain_other hdecided .rejected
  have hreservation := length_payload_example (r := reservation [] "C1" zeros
    "2026-01-01T00:00:00+00:00") (.inl rfl) rfl rfl rfl (.inl rfl) (Nat.zero_le _)
  have hreserves : Reserves newYearRuntime asciiLibrary plainPrimitives
      (plainCall "B1" "C1" otherDigest (some otherState) none) ⟨[], []⟩ exampleTime
      (plainCommand "B1" "C1" otherDigest) [] := by
    refine reserves_plain isPlain_other readRecords_nil rfl (by simp [HasOpenReservation]) ?_
    rw [MAX_JOURNAL_BYTES, List.length_nil]
    omega
  -- it is completed and returned
  have hcompletion := length_payload_example (r := completionOf newYearRuntime exampleTime
    (plainCommand "B1" "C1" otherDigest) [] (canonicalJson (.obj (plainReceipt "B1" "C1" otherDigest
      (.of "NO_EFFECT" false "REJECTED_PRE_EFFECT" otherDigest))))) (.inl rfl) rfl rfl rfl
    (.inr (.inl rfl)) (length_plainReceipt_le hmakes)
  have hreturned := (turn_of_room hreserves hmakes (fun _ => rfl) rfl (by
    have hreserved : (reservedWorld newYearRuntime ⟨[], []⟩ exampleTime
        (plainCommand "B1" "C1" otherDigest) []).journal.length ≤ 300000 := hreservation
    rw [HasRoom, MAX_JOURNAL_BYTES]
    omega)).1
  have hstated := hall newYearRuntime asciiLibrary plainPrimitives
    [plainCall "B1" "C1" otherDigest (some otherState) none] 0 _ _ rfl hreturned _ _ _ _ _ hmakes rfl
  rw [(texts_of_signed hmakes.signed).2.2, turn_call] at hstated
  -- nothing but zeros was seen
  have hseen : ∀ digest, (plainCall "B1" "C1" otherDigest (some otherState) none).Sees asciiLibrary
      (plainCommand "B1" "C1" otherDigest) digest → digest = zeros := by
    have hcall : (plainCall "B1" "C1" otherDigest (some otherState) none).reads =
        some (some otherState) := congrArg some hreads
    intro digest h
    cases h with
    | read h =>
      obtain rfl := Option.some.inj (Option.some.inj (hcall.symm.trans h))
      rfl
    | reported h hattempts =>
      obtain rfl := Option.some.inj (Option.some.inj (hcall.symm.trans h))
      obtain ⟨state, hsame, hholds, -⟩ := hattempts
      obtain rfl := Option.some.inj hsame
      exact absurd hholds hother
  rcases hstated with hzeros | hsees
  · exact absurd hzeros (by decide)
  · exact absurd (hseen _ hsees) (by decide)

end DecisionFirewall.Lab
