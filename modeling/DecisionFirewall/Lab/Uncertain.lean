import DecisionFirewall.Lab.Histories
import DecisionFirewall.Phase3.ShippedPolicy

/-!
# Uncertain Outcomes

When exactly a call enters the action, and what that means for the receipts with an
uncertain outcome: an open reservation fences every later call, a completed receipt with the
status `AMBIGUOUS` or `PARTIAL` does not.

- §1 when a call enters the action
- §2 uncertain receipts
- §3 two commands, the first with an uncertain outcome
-/

namespace DecisionFirewall.Lab

open Lib
open Phase3 (Primitives Bytes IsSchemaIdentifier IsHexDigest encodedSize_le length_text_le jsonDepth
  sizeBound sizeBoundFields newYearRuntime plainPrimitives zeros)

variable {rt : Runtime} {lib : JsonLibrary} {crypto : Primitives} {w s : World}

/-! ## §1 When a call enters the action -/

/-- A call has a current command under an unused key, nothing is reserved, its reservation can
be written, and the target is in the state that the command expects. -/
structure Admits (rt : Runtime) (lib : JsonLibrary) (crypto : Primitives) (c : Call) (w : World)
    (t : Int) (command : Dict) (records : List JournalRecord) (state : LabObservedState) : Prop where
  clock : c.around.clock = some t
  authenticated : c.service.commandOf rt lib crypto (Runtime.truncate t) c.raw = .ok command
  current : ∃ v, validateLabMessageDict rt lib .command command (Runtime.truncate t) false = .ok v
  arguments : ArgumentsValid (textOf command "idempotency_key") (labMessageSha256 rt command)
  readable : readRecords rt lib w.journal = some records
  unused : recordsOf (textOf command "idempotency_key") records = []
  unreserved : ¬ HasOpenReservation records
  room : w.journal.length + ((reservation records (textOf command "idempotency_key")
    (labMessageSha256 rt command) (rt.isoformat (Runtime.truncate t))).payload rt).length ≤
      MAX_JOURNAL_BYTES
  uninterrupted : c.around.replayFault = false ∧ c.around.reserveFault = .none ∧
    c.around.stopsAt .afterReservation = false
  observed : c.around.readState = some (some state)
  valid : state.Valid
  preconditions : LabExecutorService.PreconditionsHold command state
  enabled : c.service.effectsEnabled = true

/-- The call admits its command. -/
def Call.Admitted (rt : Runtime) (lib : JsonLibrary) (crypto : Primitives) (c : Call) (w : World) :
    Prop :=
  ∃ t command records state, Admits rt lib crypto c w t command records state

/-- The state is one in which `apply_action` is entered. -/
def LabExecutorService.Attempts (service : LabExecutorService) (command : Dict)
    (prestate : Option LabObservedState) : Prop :=
  ∃ state, prestate = some state ∧ PreconditionsHold command state ∧ service.effectsEnabled = true

section Entered

variable {around : Surroundings} {service : LabExecutorService} {command : Dict} {now : Int}
  {P : List String → Prop}

/-- Only the action itself is an entry. -/
theorem answer_entered {o : ExecutorOp} (h : ∀ command state, o ≠ .applyAction command state)
    (s : World) : (around.answer rt lib s o).2.entered = s.entered := by
  have hwrite : ∀ fault payload, (Surroundings.write s fault payload).2.entered = s.entered := by
    intro fault payload
    cases fault <;> rfl
  cases o with
  | clock => rfl
  | replayIfKnown key digest => rfl
  | failureHook stage => rfl
  | readState => rfl
  | applyAction command state => exact absurd rfl (h command state)
  | reserveOrReplay key digest recordedAt =>
    show (around.intake rt lib s key digest recordedAt).2.entered = s.entered
    unfold Surroundings.intake
    split_ifs
    · rfl
    · cases reserveOrReplay rt lib s.journal key digest recordedAt with
      | error e => rfl
      | ok intake =>
        cases intake with
        | replayed receiptJson => rfl
        | reserved payload => exact hwrite _ _
  | complete key digest receiptJson recordedAt =>
    show (Surroundings.transact s around.completeFault _).2.entered = s.entered
    unfold Surroundings.transact
    split_ifs
    · rfl
    · cases complete rt lib s.journal key digest receiptJson recordedAt with
      | error e => rfl
      | ok payload => exact hwrite _ _

/-- An operation that is no entry leaves what is said about the entries. -/
theorem perform_entered {o : ExecutorOp} (h : ∀ command state, o ≠ .applyAction command state)
    (hP : P s.entered) :
    (Prog.perform o : ExecutorProg o.Ans).wp
      (Prog.answering (around.answer rt lib) fun s => P s.entered) (fun _ s => P s.entered)
      (fun _ s => P s.entered) s := by
  have hentered := @answer_entered rt lib around o h s
  refine ⟨fun s' hanswer => ?_, fun a s' hanswer => ?_⟩
  · rw [hanswer] at hentered
    exact hentered ▸ hP
  · show P s'.entered
    rw [show around.answer rt lib s o = (some a, s') from hanswer] at hentered
    exact hentered ▸ hP

/-- The attempt enters the action once or not at all. -/
theorem attempt_entered {prestate : Option LabObservedState}
    (hquiet : ¬ service.Attempts command prestate → P s.entered)
    (haction : service.Attempts command prestate →
      P (s.entered ++ [textOf command "idempotency_key"])) :
    (service.attempt lib command prestate).wp
      (Prog.answering (around.answer rt lib) fun s => P s.entered) (fun _ s => P s.entered)
      (fun _ s => P s.entered) s := by
  unfold LabExecutorService.attempt
  cases prestate with
  | none => exact hquiet (by rintro ⟨state, hstate, -⟩; cases hstate)
  | some state =>
    by_cases hattempt : LabExecutorService.PreconditionsHold command state ∧
        service.effectsEnabled = true
    · have hP := haction ⟨state, rfl, hattempt⟩
      simp only [if_pos hattempt]
      refine ⟨fun s' hanswer => ?_, fun result s' hanswer => ?_⟩
      · obtain ⟨-, rfl⟩ := Prod.mk.inj hanswer
        exact hP
      · obtain ⟨-, rfl⟩ := Prod.mk.inj hanswer
        refine Prog.wp_bind.mpr (Prog.wp_bind.mpr ?_)
        exact Prog.wp_mono (fun _ _ h => h) (fun _ _ h => h)
          (perform_entered (o := .failureHook .afterEffect) (by simp) hP)
    · simp only [if_neg hattempt]
      refine hquiet ?_
      rintro ⟨state', hstate, h⟩
      cases hstate
      exact hattempt h

/-- The handler from the reservation on enters the action when the attempt does. -/
theorem performReserved_entered {digest : String}
    (hstop : P s.entered ∨ around.stopsAt .afterReservation = false ∧ around.readState ≠ none)
    (hattempt : around.stopsAt .afterReservation = false → ∀ observed,
      around.readState = some observed →
      (service.attempt lib command (observed.filter fun s => s.Valid)).wp
        (Prog.answering (around.answer rt lib) fun s => P s.entered) (fun _ s => P s.entered)
        (fun _ s => P s.entered) s) :
    (service.performReserved rt lib crypto now command digest).wp
      (Prog.answering (around.answer rt lib) fun s => P s.entered) (fun _ s => P s.entered)
      (fun _ s => P s.entered) s := by
  unfold LabExecutorService.performReserved
  apply Prog.wp_bind.mpr
  -- the hook and the reading stop the call only where nothing is claimed of it
  refine ⟨fun s' hanswer => ?_, fun u s' hanswer => ?_⟩
  · obtain ⟨hstopped, rfl⟩ := Prod.mk.inj hanswer
    exact hstop.resolve_right fun h => by simp [h.1] at hstopped
  obtain ⟨hpassed, rfl⟩ := Prod.mk.inj hanswer
  apply Prog.wp_bind.mpr
  refine ⟨fun s' hanswer => ?_, fun observed s' hanswer => ?_⟩
  · obtain ⟨hstopped, rfl⟩ := Prod.mk.inj hanswer
    exact hstop.resolve_right fun h => h.2 hstopped
  obtain ⟨hobserved, rfl⟩ := Prod.mk.inj hanswer
  apply Prog.wp_bind.mpr
  refine Prog.wp_mono (fun outcome s₁ h₁ => ?_) (fun _ _ he => he)
    (hattempt (by simpa using (Option.ite_none_left_eq_some.mp hpassed).1) observed hobserved)
  -- what follows is no entry
  apply Prog.wp_bind.mpr
  refine Prog.wp_ofExcept.mpr ⟨fun receipt _ => ?_, fun _ _ => h₁⟩
  apply Prog.wp_bind.mpr
  refine Prog.wp_mono (fun completed s₂ h₂ => ?_) (fun _ _ he => he)
    (perform_entered (o := .complete _ _ _ _) (by simp) h₁)
  apply Prog.wp_bind.mpr
  refine Prog.wp_ofExcept.mpr ⟨fun u _ => ?_, fun e _ => h₂⟩
  apply Prog.wp_bind.mpr
  exact perform_entered (o := .failureHook .afterCompletion) (by simp) h₂

end Entered

/-- An unused key is reserved. -/
theorem reserveOrReplay_of_unused {journal : Bytes} {key digest recordedAt : String}
    {records : List JournalRecord} (harguments : ArgumentsValid key digest)
    (hread : readRecords rt lib journal = some records) (hunused : recordsOf key records = [])
    (hopen : ¬ HasOpenReservation records)
    (hroom : journal.length + ((reservation records key digest recordedAt).payload rt).length ≤
      MAX_JOURNAL_BYTES) : reserveOrReplay rt lib journal key digest recordedAt =
        .ok (.reserved ((reservation records key digest recordedAt).payload rt)) := by
  have hreplay : replay records key digest = .ok none := by
    simp [replay, hunused]
  have happend : append rt journal (reservation records key digest recordedAt) =
      .ok ((reservation records key digest recordedAt).payload rt) := by
    rw [append, if_neg (not_lt.mpr hroom)]
  rw [reserveOrReplay, if_neg (not_not_intro harguments), hread]
  simp only [hreplay, if_neg hopen, happend]
  rfl

theorem replayIfKnown_eq_none {journal : Bytes} {key digest : String} {records : List JournalRecord}
    (harguments : ArgumentsValid key digest) (hread : readRecords rt lib journal = some records)
    (hunused : recordsOf key records = []) : replayIfKnown rt lib journal key digest = .ok none := by
  rw [replayIfKnown, if_neg (not_not_intro harguments), hread]
  simp [replay, hunused]

/-- A reservation that is answered was written. -/
theorem intake_eq_none {around : Surroundings} {key digest recordedAt : String} {s : World}
    (h : around.intake rt lib w key digest recordedAt = (some (.ok none), s)) :
    around.reserveFault = .none ∧ ∃ records, readRecords rt lib w.journal = some records ∧
      recordsOf key records = [] ∧ ¬ HasOpenReservation records ∧
      w.journal.length + ((reservation records key digest recordedAt).payload rt).length ≤
        MAX_JOURNAL_BYTES := by
  unfold Surroundings.intake at h
  split_ifs at h with hunavailable
  · cases h
  · cases hreserve : reserveOrReplay rt lib w.journal key digest recordedAt with
    | error e => simp [hreserve] at h
    | ok intake =>
      rw [hreserve] at h
      cases intake with
      | replayed receiptJson => simp at h
      | reserved payload =>
        obtain ⟨records, hread, hunused, hopen, rfl, hwhole⟩ := reserveOrReplay_eq_reserved hreserve
        have hlength := (readRecords_eq_some.mp hwhole).1
        rw [List.length_append] at hlength
        refine ⟨?_, records, hread, hunused, hopen, hlength⟩
        cases hfault : around.reserveFault with
        | none => rfl
        | unavailable => exact absurd hfault hunavailable
        | broken n => simp [Surroundings.write, hfault] at h

theorem argumentsValid_of_replayIfKnown {journal : Bytes} {key digest : String}
    {known : Option String} (h : replayIfKnown rt lib journal key digest = .ok known) :
    ArgumentsValid key digest := by
  by_contra hinvalid
  rw [replayIfKnown, if_pos hinvalid] at h
  cases h

/-- What a program says of the entries holds behind the call. -/
theorem turn_entered {c : Call} {P : List String → Prop}
    (h : (c.service.handle rt lib crypto c.raw).wp
      (Prog.answering (c.around.answer rt lib) fun s => P s.entered) (fun _ s => P s.entered)
      (fun _ s => P s.entered) w) : P (turn rt lib crypto w c).after.entered := by
  have hend := Prog.exec_of_wp h
  unfold turn Call.run
  cases hrun : (c.service.handle rt lib crypto c.raw).exec (c.around.answer rt lib) w with
  | mk outcome s =>
    rw [hrun] at hend
    cases outcome with
    | returned text => exact hend
    | raised e => exact hend
    | stopped => exact hend

/-- The world in which the command of an admitted call is reserved. -/
def reservedWorld (rt : Runtime) (w : World) (t : Int) (command : Dict)
    (records : List JournalRecord) : World :=
  { w with journal := w.journal ++ (reservation records (textOf command "idempotency_key")
      (labMessageSha256 rt command) (rt.isoformat (Runtime.truncate t))).payload rt }

/-- A command comes with its call to an unused key, nothing is reserved, and its reservation is
written and left. -/
structure Reserves (rt : Runtime) (lib : JsonLibrary) (crypto : Primitives) (c : Call) (w : World)
    (t : Int) (command : Dict) (records : List JournalRecord) : Prop where
  clock : c.around.clock = some t
  authenticated : c.service.commandOf rt lib crypto (Runtime.truncate t) c.raw = .ok command
  current : ∃ v, validateLabMessageDict rt lib .command command (Runtime.truncate t) false = .ok v
  arguments : ArgumentsValid (textOf command "idempotency_key") (labMessageSha256 rt command)
  readable : readRecords rt lib w.journal = some records
  unused : recordsOf (textOf command "idempotency_key") records = []
  unreserved : ¬ HasOpenReservation records
  room : w.journal.length + ((reservation records (textOf command "idempotency_key")
    (labMessageSha256 rt command) (rt.isoformat (Runtime.truncate t))).payload rt).length ≤
      MAX_JOURNAL_BYTES
  uninterrupted : c.around.replayFault = false ∧ c.around.reserveFault = .none ∧
    c.around.stopsAt .afterReservation = false

/-- An admitted command is reserved. -/
theorem Admits.reserves {c : Call} {t : Int} {command : Dict} {records : List JournalRecord}
    {state : LabObservedState} (h : Admits rt lib crypto c w t command records state) :
    Reserves rt lib crypto c w t command records where
  clock := h.clock
  authenticated := h.authenticated
  current := h.current
  arguments := h.arguments
  readable := h.readable
  unused := h.unused
  unreserved := h.unreserved
  room := h.room
  uninterrupted := h.uninterrupted

/-- The handler of such a command goes on in the reserved world. -/
theorem handle_wp_of_reserves {c : Call} {t : Int} {command : Dict} {records : List JournalRecord}
    {Q R : String → World → Prop} {S : World → Prop}
    (h : Reserves rt lib crypto c w t command records)
    (hreserved : (c.service.performReserved rt lib crypto (Runtime.truncate t) command
      (labMessageSha256 rt command)).wp (Prog.answering (c.around.answer rt lib) S) Q R
        (reservedWorld rt w t command records)) :
    (c.service.handle rt lib crypto c.raw).wp (Prog.answering (c.around.answer rt lib) S) Q R w := by
  obtain ⟨hreplayed, hwritten, -⟩ := h.uninterrupted
  unfold LabExecutorService.handle
  refine ⟨fun s' hanswer => ?_, fun t' s' hanswer => ?_⟩
  · obtain ⟨hnone, -⟩ := Prod.mk.inj hanswer
    rw [h.clock] at hnone
    cases hnone
  obtain ⟨hclock, rfl⟩ := Prod.mk.inj hanswer
  obtain rfl : t = t' := Option.some.inj (h.clock.symm.trans hclock)
  refine Prog.wp_bind.mpr (Prog.wp_bind.mpr ?_)
  rw [h.authenticated]
  show (LabExecutorService.handleCommand _ _ _ _ _ command).wp _ _ _ w
  unfold LabExecutorService.handleCommand
  -- the journal does not know the key
  have hknown := replayIfKnown_eq_none h.arguments h.readable h.unused
  refine ⟨fun s' hanswer => ?_, fun known s' hanswer => ?_⟩
  · obtain ⟨hnone, -⟩ := Prod.mk.inj hanswer
    simp [hreplayed] at hnone
  obtain ⟨hsome, rfl⟩ := Prod.mk.inj hanswer
  obtain rfl : known = .ok none := by
    rw [hreplayed, hknown] at hsome
    exact (Option.some.inj hsome).symm
  show (LabExecutorService.handleUnknown _ _ _ _ _ command _).wp _ _ _ w
  unfold LabExecutorService.handleUnknown
  apply Prog.wp_bind.mpr
  obtain ⟨v, hv⟩ := h.current
  obtain rfl : v = command := validateLabMessageDict_eq_ok hv
  rw [hv]
  -- its reservation is written
  have hintake : c.around.intake rt lib w (textOf v "idempotency_key") (labMessageSha256 rt v)
      (rt.isoformat (Runtime.truncate t)) =
        (some (.ok none), reservedWorld rt w t v records) := by
    simp [Surroundings.intake, hwritten, reserveOrReplay_of_unused h.arguments h.readable h.unused
      h.unreserved h.room, Surroundings.write, reservedWorld]
  refine ⟨fun s' hanswer => ?_, fun intake s' hanswer => ?_⟩
  · cases hintake.symm.trans hanswer
  obtain ⟨hsome, rfl⟩ := Prod.mk.inj (hintake.symm.trans hanswer)
  obtain rfl : intake = .ok none := (Option.some.inj hsome).symm
  exact hreserved

/-- An admitted command enters the action. -/
theorem entered_of_admits {c : Call} {t : Int} {command : Dict} {records : List JournalRecord}
    {state : LabObservedState} (h : Admits rt lib crypto c w t command records state) :
    (turn rt lib crypto w c).after.entered = w.entered ++ [textOf command "idempotency_key"] := by
  generalize hP : (fun entered => entered = w.entered ++ [textOf command "idempotency_key"]) = P
  have hkey : P ((reservedWorld rt w t command records).entered ++
      [textOf command "idempotency_key"]) := by
    rw [← hP]
    rfl
  suffices hentered : P (turn rt lib crypto w c).after.entered by rwa [← hP] at hentered
  apply turn_entered
  apply handle_wp_of_reserves h.reserves
  -- the state that is read is the one that the command expects
  refine performReserved_entered (.inr ⟨h.uninterrupted.2.2, by simp [h.observed]⟩)
    fun _ observed hobserved => ?_
  obtain rfl : some state = observed := Option.some.inj (h.observed.symm.trans hobserved)
  have hattempts : c.service.Attempts command ((some state).filter fun s => s.Valid) :=
    ⟨state, by simp [h.valid], h.preconditions, h.enabled⟩
  exact attempt_entered (fun hquiet => absurd hattempts hquiet) fun _ => hkey

/-- A call whose command is not admitted does not enter the action. -/
theorem entered_of_not_admitted {c : Call} (h : ¬ c.Admitted rt lib crypto w) :
    (turn rt lib crypto w c).after.entered = w.entered := by
  suffices hwp : (c.service.handle rt lib crypto c.raw).wp
      (Prog.answering (c.around.answer rt lib) fun s => s.entered = w.entered)
      (fun _ s => s.entered = w.entered) (fun _ s => s.entered = w.entered) w from
    turn_entered (P := fun entered => entered = w.entered) hwp
  refine handle_wp rfl (fun _ => rfl) fun t command hclock hcommand => ?_
  refine handleCommand_wp rfl (fun _ => rfl) (fun _ _ => rfl) fun hreplayed hunknown => ?_
  unfold LabExecutorService.handleUnknown
  apply Prog.wp_bind.mpr
  refine Prog.wp_ofExcept.mpr ⟨fun v hv => ?_, fun _ _ => rfl⟩
  obtain rfl : v = command := validateLabMessageDict_eq_ok hv
  apply Prog.wp_bind.mpr
  have hentered := @answer_entered rt lib c.around (.reserveOrReplay
    (textOf v "idempotency_key") (labMessageSha256 rt v) (rt.isoformat (Runtime.truncate t)))
    (by simp) w
  refine ⟨fun s' hanswer => ?_, fun intake s' hanswer => ?_⟩
  · rw [hanswer] at hentered
    exact hentered
  replace hanswer : c.around.intake rt lib w (textOf v "idempotency_key") (labMessageSha256 rt v)
    (rt.isoformat (Runtime.truncate t)) = (some intake, s') := hanswer
  replace hentered : s'.entered = w.entered := by
    rw [← hentered]
    exact congrArg (fun x => x.2.entered) hanswer.symm
  cases intake with
  | error e => exact hentered
  | ok known =>
    cases known with
    | some receiptJson => exact Prog.wp_ofExcept.mpr ⟨fun _ _ => hentered, fun _ _ => hentered⟩
    | none =>
      obtain ⟨hfault, records, hread, hunused, hopen, hroom⟩ := intake_eq_none hanswer
      refine performReserved_entered (P := fun entered => entered = w.entered) (.inl hentered)
        fun hstop observed hobserved => ?_
      refine attempt_entered (P := fun entered => entered = w.entered) (fun _ => hentered)
        fun hattempts => absurd ?_ h
      -- everything that admits the command has been seen
      obtain ⟨state, hstate, hpreconditions, henabled⟩ := hattempts
      obtain ⟨rfl, hvalid⟩ := Option.filter_eq_some_iff.mp hstate
      exact ⟨t, v, records, state, {
        clock := hclock
        authenticated := hcommand
        current := ⟨v, hv⟩
        arguments := argumentsValid_of_replayIfKnown hunknown
        readable := hread
        unused := hunused
        unreserved := hopen
        room := hroom
        uninterrupted := ⟨hreplayed, hfault, hstop⟩
        observed := hobserved
        valid := of_decide_eq_true hvalid
        preconditions := hpreconditions
        enabled := henabled }⟩

/-- **A call enters the action exactly when it admits its command.** -/
theorem entered_eq_iff (rt : Runtime) (lib : JsonLibrary) (crypto : Primitives) (w : World)
    (c : Call) : (turn rt lib crypto w c).after.entered = w.entered ↔
      ¬ c.Admitted rt lib crypto w := by
  refine ⟨fun hentered hadmitted => ?_, entered_of_not_admitted⟩
  obtain ⟨t, command, records, state, h⟩ := hadmitted
  rw [entered_of_admits h] at hentered
  simp at hentered

/-! ## §2 Uncertain receipts -/

/-- The status of a stored receipt. -/
def receiptStatus (lib : JsonLibrary) (receiptJson : String) : Option String :=
  match strictJsonLoads lib receiptJson with
  | some (.obj receipt) => some (textOf receipt "status")
  | _ => none

/-- A receipt with the status `AMBIGUOUS` or `PARTIAL` is completed. -/
def HasUncertainReceipt (rt : Runtime) (lib : JsonLibrary) (journal : Bytes) : Prop :=
  ∃ records, readRecords rt lib journal = some records ∧ ∃ r ∈ records,
    r.recordType = .completion ∧
      ∃ status ∈ receiptStatus lib r.receiptJson, status = "AMBIGUOUS" ∨ status = "PARTIAL"

/-- Once a reservation is left unfinished or an uncertain receipt is completed, no later call
enters the action. -/
def FencesUncertain (rt : Runtime) (lib : JsonLibrary) (turns : List Turn) : Prop :=
  turns.Pairwise fun t t' =>
    Unfinished rt lib t.after.journal ∨ HasUncertainReceipt rt lib t.after.journal →
      t'.after.entered = t'.before.entered

/-- An unfinished reservation stays, since no call changes the journal any more. -/
theorem Unfinished.turn (crypto : Primitives) (h : Unfinished rt lib w.journal) (c : Call) :
    (turn rt lib crypto w c).after = w := by
  rcases turn_cases rt lib crypto w c with ⟨hsame, -⟩ | ⟨command, -, hsame | huses, -⟩
  · exact hsame
  · exact hsame
  · obtain ⟨records, hread, -, hopen⟩ := huses.fresh
    exact absurd (h records hread) hopen

/-- **Uncertain outcomes fence new action in exactly the runs in which no call behind a
completed receipt with an uncertain status admits its command.** -/
theorem history_fencesUncertain_iff (rt : Runtime) (lib : JsonLibrary) (crypto : Primitives)
    (journal : Bytes) (calls : List Call) :
    FencesUncertain rt lib (history rt lib crypto ⟨journal, []⟩ calls) ↔
      (history rt lib crypto ⟨journal, []⟩ calls).Pairwise fun t t' =>
        HasUncertainReceipt rt lib t.after.journal → ¬ t'.call.Admitted rt lib crypto t'.before := by
  have hentered : ∀ t ∈ history rt lib crypto ⟨journal, []⟩ calls,
      (t.after.entered = t.before.entered ↔ ¬ t.call.Admitted rt lib crypto t.before) := by
    intro t ht
    have heq := entered_eq_iff rt lib crypto t.before t.call
    rwa [← eq_turn_of_mem_history ht] at heq
  constructor
  · intro h
    refine h.imp_of_mem fun ht ht' hfences huncertain => ?_
    exact (hentered _ ht').mp (hfences (.inr huncertain))
  · intro h
    -- an unfinished reservation is still unfinished when the later call comes
    have hopen := history_pairwise (R := fun w s => Unfinished rt lib w.journal →
      Unfinished rt lib s.journal) (fun _ h => h) (fun _ _ _ h h' h'' => h' (h h''))
      (fun w c h => by rwa [Unfinished.turn crypto h c]) ⟨journal, []⟩ calls
    refine (h.and hopen).imp_of_mem fun {t t'} ht ht' hboth hfence => ?_
    rcases hfence with hunfinished | huncertain
    · have hsame := (hboth.2 hunfinished).turn crypto t'.call
      rw [← eq_turn_of_mem_history ht'] at hsame
      rw [hsame]
    · exact (hentered _ ht').mpr (hboth.1 huncertain)

/-! ## §3 Two commands -/

theorem failureHook_bind_wp {around : Surroundings} {α : Type} {stage : Stage}
    {f : Unit → ExecutorProg α} {Q : α → World → Prop} {R : String → World → Prop}
    {S : World → Prop} (hstops : around.stopsAt stage = false)
    (h : (f ()).wp (Prog.answering (around.answer rt lib) S) Q R s) :
    ((failureHook stage).bind f).wp (Prog.answering (around.answer rt lib) S) Q R s := by
  refine ⟨fun s' hanswer => ?_, fun u s' hanswer => ?_⟩
  · obtain ⟨hnone, -⟩ := Prod.mk.inj hanswer
    simp [hstops] at hnone
  · obtain ⟨-, rfl⟩ := Prod.mk.inj hanswer
    exact h

/-- What an admitted call leaves that nothing interrupts. -/
theorem turn_of_admits {c : Call} {t : Int} {command receipt : Dict} {records : List JournalRecord}
    {state : LabObservedState} {result : Option LabMutationResult} {payload : Bytes}
    (h : Admits rt lib crypto c w t command records state)
    (happly : c.around.applyAction command state = some result)
    (hstops : ∀ stage, c.around.stopsAt stage = false) (hfault : c.around.completeFault = .none)
    (hsign : signLabMessage rt lib crypto .receipt c.service.keyId c.service.key
      (Runtime.truncate t) (LabExecutorService.unsignedReceipt command (labMessageSha256 rt command)
        (rt.isoformat (Runtime.truncate t)) (LabExecutorService.postEffect lib command result)) =
          .ok receipt)
    (hcomplete : complete rt lib (reservedWorld rt w t command records).journal
      (textOf command "idempotency_key") (labMessageSha256 rt command)
      (canonicalJson (.obj receipt)) (rt.isoformat (Runtime.truncate t)) = .ok payload) :
    (turn rt lib crypto w c).after =
      ⟨(reservedWorld rt w t command records).journal ++ payload,
        w.entered ++ [textOf command "idempotency_key"]⟩ := by
  have hwp : (c.service.handle rt lib crypto c.raw).wp
      (Prog.answering (c.around.answer rt lib) fun _ => False)
      (fun _ s => s = ⟨(reservedWorld rt w t command records).journal ++ payload,
        w.entered ++ [textOf command "idempotency_key"]⟩) (fun _ _ => False) w := by
    apply handle_wp_of_reserves h.reserves
    unfold LabExecutorService.performReserved
    apply failureHook_bind_wp (hstops _)
    -- the state is read and the action is entered
    refine ⟨fun s' hanswer => ?_, fun observed s' hanswer => ?_⟩
    · obtain ⟨hnone, -⟩ := Prod.mk.inj hanswer
      rw [h.observed] at hnone
      cases hnone
    obtain ⟨hobserved, rfl⟩ := Prod.mk.inj hanswer
    obtain rfl : some state = observed := Option.some.inj (h.observed.symm.trans hobserved)
    refine Prog.wp_bind.mpr (Prog.wp_bind.mpr ?_)
    have hfilter : (some state).filter (fun s => s.Valid) = some state := by simp [h.valid]
    rw [hfilter]
    unfold LabExecutorService.attempt
    simp only [if_pos (And.intro h.preconditions h.enabled)]
    refine ⟨fun s' hanswer => ?_, fun result' s' hanswer => ?_⟩
    · obtain ⟨hnone, -⟩ := Prod.mk.inj hanswer
      rw [happly] at hnone
      cases hnone
    obtain ⟨hresult, rfl⟩ := Prod.mk.inj hanswer
    obtain rfl : result = result' := Option.some.inj (happly.symm.trans hresult)
    apply failureHook_bind_wp (hstops _)
    -- its receipt is signed and completed
    refine Prog.wp_bind.mpr ?_
    rw [hsign]
    have hwritten : c.around.answer rt lib ⟨(reservedWorld rt w t command records).journal,
        w.entered ++ [textOf command "idempotency_key"]⟩ (.complete
          (textOf command "idempotency_key") (labMessageSha256 rt command)
          (canonicalJson (.obj receipt)) (rt.isoformat (Runtime.truncate t))) =
        (some (.ok ()), ⟨(reservedWorld rt w t command records).journal ++ payload,
          w.entered ++ [textOf command "idempotency_key"]⟩) := by
      show Surroundings.transact _ _ (complete ..) = _
      rw [hcomplete, hfault]
      rfl
    refine ⟨fun s' hanswer => ?_, fun completed s' hanswer => ?_⟩
    · cases hwritten.symm.trans hanswer
    obtain ⟨hsome, rfl⟩ := Prod.mk.inj (hwritten.symm.trans hanswer)
    obtain rfl : completed = .ok () := (Option.some.inj hsome).symm
    exact failureHook_bind_wp (hstops _) rfl
  have hend := Prog.exec_of_wp hwp
  unfold turn Call.run
  cases hrun : (c.service.handle rt lib crypto c.raw).exec (c.around.answer rt lib) w with
  | mk outcome s =>
    rw [hrun] at hend
    cases outcome with
    | returned text => exact hend
    | raised e => exact hend.elim
    | stopped => exact hend.elim

/-- The time of the two calls. -/
def exampleTime : Int := 1767225600000000

def exampleCommand (key : String) : Dict :=
  [("schema_version", .str SCHEMA_VERSION),
    ("message_type", .str COMMAND),
    ("lab_session_id", .str "SESSION_1"),
    ("request_id", .str "REQUEST_1"),
    ("decision_id", .str "DECISION_1"),
    ("authorization_id", .str "GRANT_1"),
    ("policy_sha256", .str zeros),
    ("adapter_contract_sha256", .str zeros),
    ("target_id", .str TARGET_ID),
    ("target_boot_id", .str "BOOT_1"),
    ("action", .str "NETWORK_ISOLATE"),
    ("parameters", .obj [("duration_seconds", .int 600),
      ("preserve_management", .bool true),
      ("network_profile", .str "LAB_BEACON_BLOCK_MANAGEMENT_ALLOW_V1")]),
    ("prestate_sha256", .str zeros),
    ("idempotency_key", .str key),
    ("sequence", .int 1),
    ("nonce", .str "00000000000000000000000000000000"),
    ("issued_at", .str "2026-01-01T00:00:00+00:00"),
    ("expires_at", .str "2026-01-01T00:00:02+00:00"),
    ("authentication", .obj [("key_id", .str "KEY_1"), ("mac_sha256", .str zeros)])]

def exampleService : LabExecutorService where
  keyId := "KEY_1"
  key := List.replicate 32 1
  effectsEnabled := true
  keyIdValid := by simp [IsLabIdentifier]
  keyValid := by decide

def exampleState : LabObservedState := ⟨"BOOT_1", true, true, zeros⟩

/-- A call in which the action raises and nothing else goes wrong. -/
def exampleCall (key : String) : Call where
  service := exampleService
  raw := Json.encodeAscii (Json.obj (exampleCommand key)).text
  around := {
    clock := some exampleTime
    replayFault := false
    reserveFault := .none
    completeFault := .none
    stopsAt _ := false
    readState := some (some exampleState)
    applyAction _ _ := some none }

/-- The receipt of its command. -/
def exampleReceipt (key : String) : Dict :=
  [("schema_version", .str SCHEMA_VERSION),
    ("message_type", .str RECEIPT),
    ("lab_session_id", .str "SESSION_1"),
    ("request_id", .str "REQUEST_1"),
    ("decision_id", .str "DECISION_1"),
    ("authorization_id", .str "GRANT_1"),
    ("command_sha256", .str zeros),
    ("idempotency_key", .str key),
    ("target_id", .str TARGET_ID),
    ("target_boot_id", .str "BOOT_1"),
    ("sequence", .int 1),
    ("status", .str "AMBIGUOUS"),
    ("effect_possible", .bool true),
    ("reason_code", .str "EFFECT_UNCERTAIN"),
    ("prestate_sha256", .str zeros),
    ("poststate_sha256", .str zeros),
    ("executed_at", .str "2026-01-01T00:00:00+00:00"),
    ("recorded_at", .str "2026-01-01T00:00:00+00:00"),
    ("authentication", .obj [("key_id", .str "KEY_1"), ("mac_sha256", .str zeros)])]

theorem sha256_zeros : Schema.sha256 (.str zeros) = true := by
  simp [Schema.sha256, IsHexDigest, zeros]

theorem authentication_example :
    Schema.authentication (.obj [("key_id", .str "KEY_1"), ("mac_sha256", .str zeros)]) = true := by
  rw [Schema.authentication]
  apply Schema.object_of
  · simp
  · simp only [List.forall₂_cons, List.forall₂_nil_left_iff, true_and, and_true]
    exact ⟨by simp [Schema.identifier, IsSchemaIdentifier], sha256_zeros⟩

theorem identifier_example : ∀ s ∈ ["SESSION_1", "REQUEST_1", "DECISION_1", "GRANT_1", "BOOT_1"],
    Schema.identifier (.str s) = true := by
  simp [Schema.identifier, IsSchemaIdentifier]

/-- No member is named twice. -/
theorem names_example (key : String) :
    ((exampleCommand key).map Prod.fst).Nodup ∧ ((exampleReceipt key).map Prod.fst).Nodup := by
  show ((exampleCommand "").map Prod.fst).Nodup ∧ ((exampleReceipt "").map Prod.fst).Nodup
  decide

/-- Both messages have the form that their schemas ask for. -/
theorem schema_example {key : String} (h : Schema.identifier (.str key) = true) :
    MessageType.command.schema asciiLibrary (.obj (exampleCommand key)) = true ∧
      MessageType.receipt.schema asciiLibrary (.obj (exampleReceipt key)) = true := by
  have hid := identifier_example
  simp only [List.forall_mem_cons] at hid
  constructor
  · rw [MessageType.schema, Schema.command]
    apply Schema.object_of (names_example key).1
    simp only [exampleCommand, List.forall₂_cons, List.forall₂_nil_left_iff, true_and, and_true, h,
      hid, authentication_example, sha256_zeros]
    refine ⟨by decide +kernel, by decide +kernel, by decide +kernel, by decide +kernel, ?_,
      by decide +kernel, by decide +kernel, by decide +kernel, by decide +kernel⟩
    apply Schema.object_of
    · decide +kernel
    · simp only [List.forall₂_cons, List.forall₂_nil_left_iff, true_and, and_true]
      exact ⟨by decide +kernel, by decide +kernel, by decide +kernel⟩
  · rw [MessageType.schema, Schema.receipt]
    apply Schema.object_of (names_example key).2
    simp only [exampleReceipt, List.forall₂_cons, List.forall₂_nil_left_iff, true_and, and_true, h,
      hid, authentication_example, sha256_zeros]
    exact ⟨by decide +kernel, by decide +kernel, by decide +kernel, by decide +kernel,
      by decide +kernel, rfl, by decide +kernel, by decide +kernel, by decide +kernel⟩

/-- The two keys. -/
theorem key_example {key : String} (h : key = "C1" ∨ key = "C2") :
    Schema.identifier (.str key) = true ∧ IsLabIdentifier key ∧ key.length = 2 := by
  rcases h with rfl | rfl <;>
    exact ⟨by simp [Schema.identifier, IsSchemaIdentifier], by simp [IsLabIdentifier], by decide⟩

/-- What is evaluated of the messages. -/
theorem evaluate_example :
    (∀ key ∈ ["C1", "C2"], sizeBound (.obj (exampleCommand key)) ≤ MAX_MESSAGE_BYTES ∧
      sizeBound (.obj (exampleReceipt key)) ≤ MAX_MESSAGE_BYTES) ∧
    (∀ b, validateTimes newYearRuntime .command (exampleCommand "") exampleTime b = .ok ()) ∧
    validateTimes newYearRuntime .receipt (exampleReceipt "") exampleTime false = .ok () ∧
    validateReceiptOutcome (exampleReceipt "") = .ok () := by
  refine ⟨by decide +kernel, fun b => ?_, by decide +kernel, by decide +kernel⟩
  cases b <;> decide +kernel

theorem size_example {key : String} (h : key = "C1" ∨ key = "C2") :
    sizeBound (.obj (exampleCommand key)) ≤ MAX_MESSAGE_BYTES ∧
      sizeBound (.obj (exampleReceipt key)) ≤ MAX_MESSAGE_BYTES :=
  evaluate_example.1 key (by simpa using h)

theorem depth_exampleCommand (key : String) :
    jsonDepth (.obj (exampleCommand key)) ≤ MAX_JSON_DEPTH := by
  show jsonDepth (.obj (exampleCommand "")) ≤ MAX_JSON_DEPTH
  decide

/-- A message under the supported version. -/
theorem not_versionUnsupported {message : Dict}
    (h : message.lookup "schema_version" = some (.str SCHEMA_VERSION)) :
    ¬ VersionUnsupported message := by
  rintro ⟨v, hv, hconst⟩
  obtain rfl : .str SCHEMA_VERSION = v := Option.some.inj (h.symm.trans hv)
  simp [Schema.const] at hconst

theorem validate_exampleCommand {key : String} (h : key = "C1" ∨ key = "C2") (b : Bool) :
    validateLabMessageDict newYearRuntime asciiLibrary .command (exampleCommand key) exampleTime b =
      .ok (exampleCommand key) :=
  validateLabMessageDict_of ((encodedSize_le _).trans (size_example h).1)
    (depth_exampleCommand key) (not_versionUnsupported rfl) (schema_example (key_example h).1).1
    (fun _ => .inl rfl) (evaluate_example.2.1 b) rfl

theorem validate_exampleReceipt {key : String} (h : key = "C1" ∨ key = "C2") :
    validateLabMessageDict newYearRuntime asciiLibrary .receipt (exampleReceipt key) exampleTime
      false = .ok (exampleReceipt key) := by
  have hdepth : jsonDepth (.obj (exampleReceipt "")) ≤ MAX_JSON_DEPTH := by decide
  exact validateLabMessageDict_of ((encodedSize_le _).trans (size_example h).2) hdepth
    (not_versionUnsupported rfl) (schema_example (key_example h).1).2
    (fun hmode => by cases hmode) evaluate_example.2.2.1 evaluate_example.2.2.2

/-- The receipt is the one that the service signs. -/
theorem sign_exampleReceipt {key : String} (h : key = "C1" ∨ key = "C2") :
    signLabMessage newYearRuntime asciiLibrary plainPrimitives .receipt "KEY_1"
      (List.replicate 32 1) exampleTime (LabExecutorService.unsignedReceipt (exampleCommand key)
        zeros "2026-01-01T00:00:00+00:00" (LabExecutorService.postEffect asciiLibrary (exampleCommand key) none)) =
      .ok (exampleReceipt key) := by
  have hvalid := validate_exampleReceipt h
  unfold signLabMessage
  exact Lib.bind_eq_ok.mpr ⟨_, hvalid, rfl⟩

theorem readable_exampleCommand (key : String) :
    (Json.obj (exampleCommand key)).Readable asciiLibrary :=
  ⟨(names_example key).1, by simp [exampleCommand, Json.ReadableFields, Json.Readable]⟩

theorem readable_exampleReceipt (key : String) :
    (Json.obj (exampleReceipt key)).Readable asciiLibrary :=
  ⟨(names_example key).2, by simp [exampleReceipt, Json.ReadableFields, Json.Readable]⟩

/-- The text of a valid command with the code of the example is authenticated. -/
theorem commandOf_of_signed {command : Dict} (hreadable : (Json.obj command).Readable asciiLibrary)
    (hsize : (Json.obj command).text.length ≤ MAX_MESSAGE_BYTES)
    (hdepth : jsonDepth (.obj command) ≤ MAX_JSON_DEPTH)
    (henvelope : envelope command = some [("key_id", .str "KEY_1"), ("mac_sha256", .str zeros)])
    (hvalid : validateLabMessageDict newYearRuntime asciiLibrary .command command exampleTime true =
      .ok command) :
    exampleService.commandOf newYearRuntime asciiLibrary plainPrimitives exampleTime
      (Json.encodeAscii (Json.obj command).text) = .ok command := by
  have hdecode : strictDecode (Json.encodeAscii (Json.obj command).text).length
      (some (.obj command)) = .ok command := by
    rw [strictDecode, Json.length_encodeAscii, if_neg (not_lt.mpr hsize)]
    exact if_neg (not_lt.mpr hdepth)
  have hverify : verifyLabMessageHmac plainPrimitives .command "KEY_1" (List.replicate 32 1)
      command = .ok () := by
    have hkey : compareDigest "KEY_1" "KEY_1" = .ok true := by decide
    have hmac : compareDigest zeros zeros = .ok true := by decide
    unfold verifyLabMessageHmac
    simp only [henvelope]
    refine Lib.bind_eq_ok.mpr ⟨true, hkey, ?_⟩
    rw [if_neg (by simp)]
    exact Lib.bind_eq_ok.mpr ⟨true, hmac, rfl⟩
  unfold LabExecutorService.commandOf loadAuthenticatedLabMessage
  rw [Json.strictJsonLoadsBytes_text hreadable]
  exact Lib.bind_eq_ok.mpr ⟨_, hdecode, Lib.bind_eq_ok.mpr ⟨(), hverify, hvalid⟩⟩

/-- The bytes of the command are authenticated. -/
theorem commandOf_example {key : String} (h : key = "C1" ∨ key = "C2") :
    exampleService.commandOf newYearRuntime asciiLibrary plainPrimitives exampleTime
      (exampleCall key).raw = .ok (exampleCommand key) :=
  commandOf_of_signed (readable_exampleCommand key)
    ((length_text_le _).trans (size_example h).1) (depth_exampleCommand key) rfl
    (validate_exampleCommand h true)

/-- The second record at most, with zeros for the digests. -/
theorem length_payload_example {r : UnsignedRecord}
    (hkey : r.idempotencyKey = "C1" ∨ r.idempotencyKey = "C2") (hcommand : r.commandSha256 = zeros)
    (htime : r.recordedAt = "2026-01-01T00:00:00+00:00") (hlast : r.previousSha256 = zeros)
    (hsequence : r.sequence = 1 ∨ r.sequence = 2 ∨ r.sequence = 3)
    (hreceipt : r.receiptJson.length ≤ MAX_MESSAGE_BYTES) :
    (r.payload newYearRuntime).length ≤ 300000 := by
  have hlength := @UnsignedRecord.length_payload_le newYearRuntime r
  have hdigits : (toString (r.sequence : Int)).length = 1 := by
    rcases hsequence with h | h | h <;> rw [h] <;> decide
  have hkey : r.idempotencyKey.length = 2 := (key_example hkey).2.2
  have hzeros : zeros.length = 64 := by decide
  have htimes : "2026-01-01T00:00:00+00:00".length = 25 := by decide
  rw [hdigits, hkey, hcommand, hlast, htime, hzeros, htimes] at hlength
  rw [MAX_MESSAGE_BYTES] at hreceipt
  omega

theorem admits_example {key : String} {records : List JournalRecord} (h : key = "C1" ∨ key = "C2")
    (hread : readRecords newYearRuntime asciiLibrary w.journal = some records)
    (hunused : recordsOf key records = []) (hopen : ¬ HasOpenReservation records)
    (hlast : lastDigest records = zeros) (hlength : records.length = 0 ∨ records.length = 2)
    (hsize : w.journal.length ≤ 1000000) :
    Admits newYearRuntime asciiLibrary plainPrimitives (exampleCall key) w exampleTime
      (exampleCommand key) records exampleState where
  clock := rfl
  authenticated := commandOf_example h
  current := ⟨_, validate_exampleCommand h false⟩
  arguments := ⟨(key_example h).2.1, newYearRuntime.sha256_isSha256 _⟩
  readable := hread
  unused := hunused
  unreserved := hopen
  room := by
    have hreservation := length_payload_example (r := reservation records key zeros
      "2026-01-01T00:00:00+00:00") h rfl rfl hlast (by rcases hlength with h | h <;> simp [h, reservation])
      (Nat.zero_le _)
    show w.journal.length + ((reservation records key zeros
      "2026-01-01T00:00:00+00:00").payload newYearRuntime).length ≤ MAX_JOURNAL_BYTES
    rw [MAX_JOURNAL_BYTES]
    omega
  uninterrupted := ⟨rfl, rfl, rfl⟩
  observed := rfl
  valid := by decide +kernel
  preconditions := ⟨rfl, rfl, rfl, rfl⟩
  enabled := rfl

/-- The records that the first call leaves. -/
def exampleRecords : List JournalRecord :=
  [⟨.reservation, "C1", zeros, "", zeros⟩,
    ⟨.completion, "C1", zeros, canonicalJson (.obj (exampleReceipt "C1")), zeros⟩]

theorem readRecords_nil : readRecords rt lib [] = some [] := by
  simp [readRecords, EndsLine, splitLines, splitLinesFrom, readLines, checkStates]

/-- The first call reserves its key. -/
theorem reserve_example : readRecords newYearRuntime asciiLibrary
    (reservedWorld newYearRuntime ⟨[], []⟩ exampleTime (exampleCommand "C1") []).journal =
      some [⟨.reservation, "C1", zeros, "", zeros⟩] := by
  have hadmits := admits_example (w := ⟨[], []⟩) (Or.inl (Eq.refl "C1")) readRecords_nil rfl
    (by simp [HasOpenReservation]) rfl (.inl rfl) (Nat.zero_le _)
  obtain ⟨records, hread, -, -, -, hwhole⟩ := reserveOrReplay_eq_reserved
    (reserveOrReplay_of_unused hadmits.arguments hadmits.readable hadmits.unused hadmits.unreserved
      hadmits.room)
  obtain rfl : [] = records := Option.some.inj (readRecords_nil.symm.trans hread)
  exact hwhole

/-- The completion that the first call writes. -/
theorem completion_example (receiptJson : String) :
    (completion [⟨.reservation, "C1", zeros, "", zeros⟩] "C1" zeros receiptJson
      "2026-01-01T00:00:00+00:00").record newYearRuntime =
      ⟨.completion, "C1", zeros, receiptJson, zeros⟩ := rfl

/-- The first call completes its receipt. -/
theorem first_example : ∃ journal,
    (turn newYearRuntime asciiLibrary plainPrimitives ⟨[], []⟩ (exampleCall "C1")).after =
      ⟨journal, ["C1"]⟩ ∧ journal.length ≤ 600000 ∧
        readRecords newYearRuntime asciiLibrary journal = some exampleRecords := by
  have hadmits := admits_example (w := ⟨[], []⟩) (Or.inl (Eq.refl "C1")) readRecords_nil rfl
    (by simp [HasOpenReservation]) rfl (.inl rfl) (Nat.zero_le _)
  have hreserved : (reservedWorld newYearRuntime ⟨[], []⟩ exampleTime (exampleCommand "C1")
      []).journal.length ≤ 300000 :=
    length_payload_example (.inl rfl) rfl rfl rfl (.inl rfl) (Nat.zero_le _)
  have hreceipt : (canonicalJson (.obj (exampleReceipt "C1"))).length ≤ MAX_MESSAGE_BYTES :=
    (encodedSize_le _).trans (size_example (.inl rfl)).2
  have hpayload := length_payload_example (r := completion [⟨.reservation, "C1", zeros, "", zeros⟩]
    "C1" zeros (canonicalJson (.obj (exampleReceipt "C1"))) "2026-01-01T00:00:00+00:00") (.inl rfl)
    rfl rfl rfl (.inr (.inl rfl)) hreceipt
  have hcomplete : complete newYearRuntime asciiLibrary (reservedWorld newYearRuntime ⟨[], []⟩
      exampleTime (exampleCommand "C1") []).journal "C1" zeros
      (canonicalJson (.obj (exampleReceipt "C1"))) "2026-01-01T00:00:00+00:00" =
      .ok ((completion [⟨.reservation, "C1", zeros, "", zeros⟩] "C1" zeros
        (canonicalJson (.obj (exampleReceipt "C1"))) "2026-01-01T00:00:00+00:00").payload
          newYearRuntime) := by
    rw [complete, reserve_example]
    simp only [recordsOf, List.filter_cons, List.filter_nil, decide_true, if_true, ne_eq,
      not_true_eq_false, if_false]
    rw [append, if_neg]
    rw [MAX_JOURNAL_BYTES]
    omega
  have hturn := turn_of_admits hadmits rfl (fun _ => rfl) rfl (sign_exampleReceipt (.inl rfl)) hcomplete
  refine ⟨_, hturn, ?_, ?_⟩
  · rw [List.length_append]
    omega
  · obtain ⟨records, hread, -, hwhole⟩ := complete_eq_ok (canonicalJson_obj_ne _) hcomplete
    obtain rfl := Option.some.inj (reserve_example.symm.trans hread)
    rw [hwhole, completion_example]
    rfl

theorem uncertain_example : HasUncertainReceipt newYearRuntime asciiLibrary
    (turn newYearRuntime asciiLibrary plainPrimitives ⟨[], []⟩ (exampleCall "C1")).after.journal := by
  obtain ⟨journal, hafter, -, hread⟩ := first_example
  rw [hafter]
  refine ⟨exampleRecords, hread, _, List.mem_cons_of_mem _ List.mem_cons_self, rfl, "AMBIGUOUS", ?_,
    .inl rfl⟩
  -- the receipt is read back with its status
  have hread : strictJsonLoads asciiLibrary (canonicalJson (.obj (exampleReceipt "C1"))) =
      some (.obj ((Json.sortedFields (exampleReceipt "C1")).mergeSort
        fun a b => decide (a.1 ≤ b.1))) :=
    Json.strictJsonLoads_canonicalJson (readable_exampleReceipt "C1")
  have hperm := List.mergeSort_perm (Json.sortedFields (exampleReceipt "C1"))
    fun a b => decide (a.1 ≤ b.1)
  have hnames : ((Json.sortedFields (exampleReceipt "C1")).map Prod.fst).Nodup :=
    (names_example "C1").2
  have hstatus : (Json.sortedFields (exampleReceipt "C1")).lookup "status" =
      some (.str "AMBIGUOUS") := rfl
  show receiptStatus asciiLibrary (canonicalJson (.obj (exampleReceipt "C1"))) = some "AMBIGUOUS"
  rw [receiptStatus, hread]
  simp only [textOf, Dict.get]
  rw [Json.lookup_eq_of_perm hperm ((hperm.map Prod.fst).nodup_iff.mpr hnames), hstatus]
  rfl

/-- What the fence says of two calls. -/
theorem FencesUncertain.second {c c' : Call}
    (h : FencesUncertain rt lib (history rt lib crypto w [c, c']))
    (huncertain : HasUncertainReceipt rt lib (turn rt lib crypto w c).after.journal) :
    (turn rt lib crypto (turn rt lib crypto w c).after c').after.entered =
      (turn rt lib crypto w c).after.entered :=
  List.rel_of_pairwise_cons h List.mem_cons_self (.inr huncertain)

/-- A receipt with the status `AMBIGUOUS` does not keep the next command from the action. -/
theorem ambiguous_receipt_does_not_fence :
    ¬ ∀ rt lib crypto journal calls,
      FencesUncertain rt lib (history rt lib crypto ⟨journal, []⟩ calls) := by
  intro hall
  have hsame := (hall newYearRuntime asciiLibrary plainPrimitives []
    [exampleCall "C1", exampleCall "C2"]).second uncertain_example
  obtain ⟨journal, hafter, hlength, hread⟩ := first_example
  rw [hafter] at hsame
  have hadmits := admits_example (w := ⟨journal, ["C1"]⟩) (.inr rfl) hread
    (by simp [recordsOf, exampleRecords]) (by simp [HasOpenReservation, recordsOf, exampleRecords])
    rfl (.inr rfl) (hlength.trans (by omega))
  have hentered := (entered_of_admits hadmits).symm.trans hsame
  simp at hentered

end DecisionFirewall.Lab
