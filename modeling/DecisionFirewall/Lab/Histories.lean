import DecisionFirewall.Lab.Replay

/-!
# Histories of the Lab Executor

What holds over any calls on one journal, whoever serves them and wherever each is cut short.

- §1 one call
- §2 runs
- §3 at most one effect, one receipt
-/

namespace DecisionFirewall.Lab

open Lib
open Phase3 (Primitives Bytes)

variable {rt : Runtime} {lib : JsonLibrary} {crypto : Primitives} {w : World}

/-! ## §1 One call -/

section Call

variable {around : Surroundings} {service : LabExecutorService} {raw : Bytes}
  {Q : String → World → Prop} {R : String → World → Prop} {S : World → Prop}

/-- A call without a command changes nothing. -/
theorem handle_wp (hS : S w) (hR : ∀ e, R e w)
    (h : ∀ t command, around.clock = some t →
      service.commandOf rt lib crypto (Runtime.truncate t) raw = .ok command →
      (service.handleCommand rt lib crypto (Runtime.truncate t) command).wp
        (Prog.answering (around.answer rt lib) S) Q R w) :
    (service.handle rt lib crypto raw).wp (Prog.answering (around.answer rt lib) S) Q R w := by
  unfold LabExecutorService.handle
  refine ⟨fun s' hanswer => ?_, fun t s' hanswer => ?_⟩
  · obtain ⟨-, rfl⟩ := Prod.mk.inj hanswer
    exact hS
  · obtain ⟨hclock, rfl⟩ := Prod.mk.inj hanswer
    refine Prog.wp_bind.mpr (Prog.wp_bind.mpr ?_)
    exact Prog.wp_ofExcept.mpr ⟨fun command hcommand => h t command hclock hcommand, fun e _ => hR e⟩

/-- The journal is asked for the command first. -/
theorem handleCommand_wp {now : Int} {command : Dict} (hS : S w) (hR : ∀ e, R e w)
    (hstored : ∀ receiptJson, replayIfKnown rt lib w.journal (textOf command "idempotency_key")
      (labMessageSha256 rt command) = .ok (some receiptJson) → Q receiptJson w)
    (hunknown : around.replayFault = false → replayIfKnown rt lib w.journal
      (textOf command "idempotency_key") (labMessageSha256 rt command) = .ok none →
      (service.handleUnknown rt lib crypto now command (labMessageSha256 rt command)).wp
        (Prog.answering (around.answer rt lib) S) Q R w) :
    (service.handleCommand rt lib crypto now command).wp (Prog.answering (around.answer rt lib) S)
      Q R w := by
  unfold LabExecutorService.handleCommand
  refine ⟨fun s' hanswer => ?_, fun known s' hanswer => ?_⟩
  · obtain ⟨-, rfl⟩ := Prod.mk.inj hanswer
    exact hS
  · obtain ⟨hknown, rfl⟩ := Prod.mk.inj hanswer
    obtain ⟨hfault, hknown⟩ := Option.ite_none_left_eq_some.mp hknown
    obtain rfl := Option.some.inj hknown
    cases hreplay : replayIfKnown rt lib w.journal (textOf command "idempotency_key")
        (labMessageSha256 rt command) with
    | error e => exact hR e
    | ok known =>
      cases known with
      | none => exact hunknown (by simpa using hfault) hreplay
      | some receiptJson =>
        refine Prog.wp_ofExcept.mpr ⟨fun text htext => ?_, fun e _ => hR e⟩
        rw [answerStored_eq_ok htext]
        exact hstored receiptJson hreplay

end Call

/-- What a call comes to: nothing, or its command goes on. -/
theorem turn_cases (rt : Runtime) (lib : JsonLibrary) (crypto : Primitives) (w : World) (c : Call) :
    ((turn rt lib crypto w c).after = w ∧
      ∀ text, (turn rt lib crypto w c).outcome ≠ .returned text) ∨
    ∃ command, c.command? rt lib crypto = some command ∧
      Advances rt lib (textOf command "idempotency_key") (labMessageSha256 rt command) w
        (turn rt lib crypto w c).after ∧
      ∀ text, (turn rt lib crypto w c).outcome = .returned text →
        Returns rt lib (textOf command "idempotency_key") (labMessageSha256 rt command) w text
          (turn rt lib crypto w c).after := by
  -- the three ways in which the call can end
  have hall : (c.service.handle rt lib crypto c.raw).wp
      (Prog.answering (c.around.answer rt lib) fun s => s = w ∨ ∃ command,
        c.command? rt lib crypto = some command ∧
          Advances rt lib (textOf command "idempotency_key") (labMessageSha256 rt command) w s)
      (fun text s => ∃ command, c.command? rt lib crypto = some command ∧
        Returns rt lib (textOf command "idempotency_key") (labMessageSha256 rt command) w text s)
      (fun _ s => s = w ∨ ∃ command, c.command? rt lib crypto = some command ∧
        Advances rt lib (textOf command "idempotency_key") (labMessageSha256 rt command) w s) w := by
    refine handle_wp (.inl rfl) (fun _ => .inl rfl) fun t command hclock hcommand => ?_
    have hcommand? : c.command? rt lib crypto = some command := by
      simp [Call.command?, hclock, hcommand, Except.toOption]
    refine handleCommand_wp (.inl rfl) (fun _ => .inl rfl) (fun text hstored => ?_) fun _ _ => ?_
    · obtain ⟨records, hread, hreplay⟩ := replayIfKnown_eq_some hstored
      exact ⟨command, hcommand?, returns_of_replay hread hreplay⟩
    · exact Prog.wp_mono (fun text s h => ⟨command, hcommand?, h⟩)
        (fun _ s h => .inr ⟨command, hcommand?, h⟩)
        (handleUnknown_wp rfl fun s h => .inr ⟨command, hcommand?, h⟩)
  have hend := Prog.exec_of_wp hall
  unfold turn Call.run
  cases hrun : (c.service.handle rt lib crypto c.raw).exec (c.around.answer rt lib) w with
  | mk outcome s =>
    rw [hrun] at hend
    cases outcome with
    | returned text =>
      obtain ⟨command, hcommand, h⟩ := hend
      refine .inr ⟨command, hcommand, h.advances, fun text' htext' => ?_⟩
      cases htext'
      exact h
    | raised e =>
      refine hend.imp (fun h => ⟨h, by simp⟩) fun ⟨command, hcommand, h⟩ => ?_
      exact ⟨command, hcommand, h, by simp⟩
    | stopped =>
      refine hend.imp (fun h => ⟨h, by simp⟩) fun ⟨command, hcommand, h⟩ => ?_
      exact ⟨command, hcommand, h, by simp⟩

/-- A key with a record of another digest refuses the command. -/
theorem turn_conflict {c : Call} {command : Dict} (hcommand : c.command? rt lib crypto = some command)
    (h : ∀ records, readRecords rt lib w.journal = some records →
      ∃ r ∈ recordsOf (textOf command "idempotency_key") records,
        r.commandSha256 ≠ labMessageSha256 rt command) :
    (turn rt lib crypto w c).after = w ∧
      ∀ text, (turn rt lib crypto w c).outcome ≠ .returned text := by
  have hrefused : ∀ known, replayIfKnown rt lib w.journal (textOf command "idempotency_key")
      (labMessageSha256 rt command) ≠ .ok known := by
    intro known hknown
    unfold replayIfKnown at hknown
    split_ifs at hknown
    cases hread : readRecords rt lib w.journal with
    | none => simp [hread] at hknown
    | some records =>
      obtain ⟨r, hr, hdigest⟩ := h records hread
      simp only [hread] at hknown
      unfold replay at hknown
      cases hlast : (recordsOf (textOf command "idempotency_key") records).getLast? with
      | none =>
        rw [List.getLast?_eq_none_iff.mp hlast] at hr
        cases hr
      | some last =>
        simp only [hlast] at hknown
        rw [if_pos (List.any_eq_true.mpr ⟨r, hr, by simpa using hdigest⟩)] at hknown
        cases hknown
  have hwp : (c.service.handle rt lib crypto c.raw).wp
      (Prog.answering (c.around.answer rt lib) fun s => s = w) (fun _ _ => False)
      (fun _ s => s = w) w := by
    refine handle_wp rfl (fun _ => rfl) fun t command' hclock hcommand' => ?_
    obtain rfl : command' = command := by
      simpa [Call.command?, hclock, hcommand', Except.toOption] using hcommand
    exact handleCommand_wp rfl (fun _ => rfl) (fun _ hstored => hrefused _ hstored)
      fun _ hunknown => absurd hunknown (hrefused none)
  have hend := Prog.exec_of_wp hwp
  unfold turn Call.run
  cases hrun : (c.service.handle rt lib crypto c.raw).exec (c.around.answer rt lib) w with
  | mk outcome s =>
    rw [hrun] at hend
    cases outcome with
    | returned text => exact hend.elim
    | raised e => exact ⟨hend, by simp⟩
    | stopped => exact ⟨hend, by simp⟩

/-! ## §2 Runs -/

section Runs

variable {I : World → Prop} {R : World → World → Prop}

/-- What every call keeps holds throughout a history. -/
theorem history_invariant (hstep : ∀ w c, I w → I (turn rt lib crypto w c).after) (h : I w)
    (calls : List Call) : ∀ t ∈ history rt lib crypto w calls, I t.before ∧ I t.after := by
  induction calls generalizing w with
  | nil => simp [history]
  | cons c calls ih =>
    exact List.forall_mem_cons.mpr ⟨⟨h, hstep w c h⟩, ih (hstep w c h)⟩

/-- The turns of a history are turns. -/
theorem eq_turn_of_mem_history {calls : List Call} {t : Turn}
    (h : t ∈ history rt lib crypto w calls) : t = turn rt lib crypto t.before t.call := by
  induction calls generalizing w with
  | nil => simp [history] at h
  | cons c calls ih =>
    rcases List.mem_cons.mp h with rfl | h
    · rfl
    · exact ih h

/-- What every call leads to, all the calls behind it find. -/
theorem history_pairwise (hrefl : ∀ w, R w w) (htrans : ∀ u v w, R u v → R v w → R u w)
    (hstep : ∀ w c, R w (turn rt lib crypto w c).after) (w : World) (calls : List Call) :
    (history rt lib crypto w calls).Pairwise fun t t' => R t.after t'.before := by
  -- the states that the calls find come from the first one
  have hfrom : ∀ calls w, ∀ t ∈ history rt lib crypto w calls, R w t.before := by
    intro calls
    induction calls with
    | nil => simp [history]
    | cons c calls ih =>
      exact fun w => List.forall_mem_cons.mpr
        ⟨hrefl w, fun t ht => htrans _ _ _ (hstep w c) (ih _ t ht)⟩
  induction calls generalizing w with
  | nil => exact .nil
  | cons c calls ih => exact List.pairwise_cons.mpr ⟨hfrom calls _, ih _⟩

end Runs

/-! ## §3 At most one effect, one receipt -/

/-- Records only come in behind the others, as long as the journal reads. -/
def Grows (rt : Runtime) (lib : JsonLibrary) (w s : World) : Prop :=
  ∀ records', readRecords rt lib s.journal = some records' →
    ∃ records, readRecords rt lib w.journal = some records ∧ records <+: records'

theorem Grows.refl (w : World) : Grows rt lib w w := fun records h => ⟨records, h, List.prefix_rfl⟩

theorem Grows.trans {u v w : World} (h : Grows rt lib u v) (h' : Grows rt lib v w) :
    Grows rt lib u w := by
  intro records'' h''
  obtain ⟨records', hv, hprefix'⟩ := h' records'' h''
  obtain ⟨records, hu, hprefix⟩ := h records' hv
  exact ⟨records, hu, hprefix.trans hprefix'⟩

theorem Advances.grows {key digest : String} {s : World} (h : Advances rt lib key digest w s) :
    Grows rt lib w s := by
  rcases h with rfl | h
  · exact Grows.refl _
  · intro records' hread'
    obtain ⟨records, hread, -⟩ := h.fresh
    obtain ⟨r, added, rfl, -⟩ := h.journal records hread records' hread'
    exact ⟨records, hread, List.prefix_append ..⟩

theorem turn_grows (rt : Runtime) (lib : JsonLibrary) (crypto : Primitives) (w : World) (c : Call) :
    Grows rt lib w (turn rt lib crypto w c).after := by
  rcases turn_cases rt lib crypto w c with ⟨hsame, -⟩ | ⟨command, -, hadvances, -⟩
  · rw [hsame]
    exact Grows.refl w
  · exact hadvances.grows

theorem recordsOf_subset {key : String} {records records' : List JournalRecord}
    (h : records <+: records') {r : JournalRecord} (hr : r ∈ recordsOf key records) :
    r ∈ recordsOf key records' :=
  List.mem_filter.mpr ((List.mem_filter.mp hr).imp_left fun hmem => h.subset hmem)

theorem recordsOf_ne_nil {r : JournalRecord} {records : List JournalRecord} (h : r ∈ records) :
    recordsOf r.idempotencyKey records ≠ [] :=
  List.ne_nil_of_mem (List.mem_filter.mpr ⟨h, by simp⟩)

/-- The action was entered with different keys, and each has a record if the journal reads. -/
structure EnteredOnce (rt : Runtime) (lib : JsonLibrary) (w : World) : Prop where
  nodup : w.entered.Nodup
  recorded : ∀ key ∈ w.entered, ∀ records, readRecords rt lib w.journal = some records →
    recordsOf key records ≠ []

theorem EnteredOnce.advances {key digest : String} {s : World} (h : EnteredOnce rt lib w)
    (hadvances : Advances rt lib key digest w s) : EnteredOnce rt lib s := by
  rcases hadvances with rfl | huses
  · exact h
  obtain ⟨records, hread, hunused, -⟩ := huses.fresh
  -- what was recorded is recorded, and the key of the command is as well
  have hold : ∀ key' ∈ w.entered, ∀ records', readRecords rt lib s.journal = some records' →
      recordsOf key' records' ≠ [] := by
    intro key' hmem records' hread'
    obtain ⟨r, added, rfl, -⟩ := huses.journal records hread records' hread'
    rw [recordsOf_append]
    exact List.append_ne_nil_of_left_ne_nil (h.recorded key' hmem records hread) _
  rcases huses.entered with hentered | hentered
  · exact ⟨hentered ▸ h.nodup, fun key' hmem => hold key' (hentered ▸ hmem)⟩
  · refine ⟨?_, fun key' hmem records' hread' => ?_⟩
    · rw [hentered]
      exact List.nodup_append_comm.mp
        (h.nodup.cons fun hmem => h.recorded key hmem records hread hunused)
    · rw [hentered] at hmem
      rcases List.mem_append.mp hmem with hmem | hmem
      · exact hold key' hmem records' hread'
      · obtain ⟨r, added, rfl, hadded⟩ := huses.journal records hread records' hread'
        obtain rfl : key' = key := by simpa using hmem
        rw [← (hadded r (by simp)).1]
        exact recordsOf_ne_nil (by simp)

/-- A key has one completion. -/
theorem WellPaired.completion_unique {records : List JournalRecord} (h : WellPaired records)
    {key : String} {c c' : JournalRecord} (hc : c ∈ recordsOf key records)
    (hc' : c' ∈ recordsOf key records) (htype : c.recordType = .completion)
    (htype' : c'.recordType = .completion) : c = c' := by
  rcases h key with hnil | ⟨r, hhead, hr, htail⟩
  · rw [hnil] at hc
    cases hc
  obtain ⟨rest, hrest⟩ : ∃ rest, recordsOf key records = r :: rest :=
    ⟨_, (List.cons_head?_tail hhead).symm⟩
  rw [hrest] at hc hc' htail
  -- the head is the reservation
  have hne : ∀ q : JournalRecord, q.recordType = .completion → q ∈ r :: rest → q ∈ rest := by
    intro q hq hmem
    refine (List.mem_cons.mp hmem).resolve_left ?_
    rintro rfl
    rw [hr] at hq
    cases hq
  have hmem := hne c htype hc
  have hmem' := hne c' htype' hc'
  rcases htail with htail | ⟨d, htail, -⟩
  · simp only [List.tail_cons] at htail
    rw [htail] at hmem
    cases hmem
  · simp only [List.tail_cons] at htail
    rw [htail] at hmem hmem'
    rw [List.mem_singleton.mp hmem, List.mem_singleton.mp hmem']

/-- The journal holds an unfinished reservation, whole or torn. -/
def Unfinished (rt : Runtime) (lib : JsonLibrary) (journal : Bytes) : Prop :=
  ∀ records, readRecords rt lib journal = some records → HasOpenReservation records

/-- The call has used the key of its command: it has changed something, or it was answered. -/
def Turn.Serves (t : Turn) : Prop := t.after ≠ t.before ∨ ∃ text, t.outcome = .returned text

/-- Two calls on one key. -/
structure SameKey (rt : Runtime) (lib : JsonLibrary) (crypto : Primitives) (t t' : Turn)
    (command command' : Dict) : Prop where
  first : t.call.command? rt lib crypto = some command
  second : t'.call.command? rt lib crypto = some command'
  key : textOf command' "idempotency_key" = textOf command "idempotency_key"

/-- The digest tells the two texts apart, if they are different. -/
def NoCollision (rt : Runtime) (text text' : String) : Prop :=
  rt.sha256 text = rt.sha256 text' → text = text'

/-- At most one effect for a key, and one receipt. The bytes of a command are the canonical
ones that its digest is taken of. -/
structure AtMostOneEffect (rt : Runtime) (lib : JsonLibrary) (crypto : Primitives)
    (turns : List Turn) : Prop where
  /-- the action is entered at most once for each key -/
  entered : ∀ t ∈ turns, t.after.entered.Nodup
  /-- the receipts that are returned for a key are one text -/
  replayed : turns.Pairwise fun t t' => ∀ command command', SameKey rt lib crypto t t' command
    command' → ∀ text text', t.outcome = .returned text → t'.outcome = .returned text' → text' = text
  /-- an unfinished reservation keeps every call from the action -/
  fenced : ∀ t ∈ turns, Unfinished rt lib t.before.journal → t.after.entered = t.before.entered
  /-- other command bytes under a used key are refused and change nothing -/
  conflicting : turns.Pairwise fun t t' => ∀ command command', SameKey rt lib crypto t t' command
    command' → t.Serves → canonicalJson (.obj command') ≠ canonicalJson (.obj command) →
      NoCollision rt (canonicalJson (.obj command')) (canonicalJson (.obj command)) →
        t'.after = t'.before ∧ ∀ text, t'.outcome ≠ .returned text

/-- A call that has served a key leaves a record of its command, if the journal reads. -/
theorem recorded_of_serves {t : Turn} {calls : List Call} {command : Dict}
    (hmem : t ∈ history rt lib crypto w calls) (hserves : t.Serves)
    (hcommand : t.call.command? rt lib crypto = some command) {records' : List JournalRecord}
    (hread' : readRecords rt lib t.after.journal = some records') :
    ∃ r ∈ recordsOf (textOf command "idempotency_key") records',
      r.commandSha256 = labMessageSha256 rt command := by
  have hturn := eq_turn_of_mem_history hmem
  rcases turn_cases rt lib crypto t.before t.call with
    ⟨hsame, hunanswered⟩ | ⟨command', hcommand', hadvances, hreturns⟩
  · rw [← hturn] at hsame hunanswered
    rcases hserves with hchanged | ⟨text, htext⟩
    · exact absurd hsame hchanged
    · exact absurd htext (hunanswered text)
  rw [← hturn] at hadvances hreturns
  obtain rfl : command' = command := Option.some.inj (hcommand'.symm.trans hcommand)
  rcases hserves with hchanged | ⟨text, htext⟩
  · have huses := hadvances.resolve_left hchanged
    obtain ⟨records, hread, -⟩ := huses.fresh
    obtain ⟨r, added, rfl, hadded⟩ := huses.journal records hread records' hread'
    obtain ⟨hkey, hdigest⟩ := hadded r (by simp)
    exact ⟨r, by simp [recordsOf, hkey], hdigest⟩
  · obtain ⟨records, hread, r, hr, -, -, hdigest⟩ := (hreturns text htext).completed
    obtain rfl : records = records' := Option.some.inj (hread.symm.trans hread')
    exact ⟨r, hr, hdigest⟩

theorem history_entered (journal : Bytes) (calls : List Call) :
    ∀ t ∈ history rt lib crypto ⟨journal, []⟩ calls, t.after.entered.Nodup := by
  have hstart : EnteredOnce rt lib ⟨journal, []⟩ := ⟨.nil, by simp⟩
  intro t ht
  refine (history_invariant (fun w c h => ?_) hstart calls t ht).2.nodup
  rcases turn_cases rt lib crypto w c with ⟨hsame, -⟩ | ⟨command, -, hadvances, -⟩
  · rw [hsame]
    exact h
  · exact h.advances hadvances

/-- A receipt that a history has returned is a completion in the journal behind it. -/
theorem returns_of_mem_history {t : Turn} {calls : List Call} {command : Dict} {text : String}
    (hmem : t ∈ history rt lib crypto w calls)
    (hcommand : t.call.command? rt lib crypto = some command) (htext : t.outcome = .returned text) :
    Returns rt lib (textOf command "idempotency_key") (labMessageSha256 rt command) t.before text
      t.after := by
  have hturn := eq_turn_of_mem_history hmem
  rcases turn_cases rt lib crypto t.before t.call with
    ⟨-, hunanswered⟩ | ⟨command', hcommand', -, hreturns⟩
  · exact absurd htext (hturn ▸ hunanswered text)
  · obtain rfl : command' = command := Option.some.inj (hcommand'.symm.trans hcommand)
    rw [← hturn] at hreturns
    exact hreturns text htext

/-- The receipts of one key are one text. -/
theorem receipt_unique {t t' : Turn} {key digest digest' text text' : String}
    (h : Returns rt lib key digest t.before text t.after)
    (h' : Returns rt lib key digest' t'.before text' t'.after)
    (hgrows : Grows rt lib t.after t'.before) : text' = text := by
  obtain ⟨records, hread, c, hc, htype, hreceipt, -⟩ := h.completed
  obtain ⟨records', hread', c', hc', htype', hreceipt', -⟩ := h'.completed
  -- the first completion is still there
  obtain ⟨records₀, hread₀, hprefix⟩ := hgrows.trans h'.advances.grows records' hread'
  obtain rfl : records = records₀ := Option.some.inj (hread.symm.trans hread₀)
  have hc₀ := recordsOf_subset hprefix hc
  have heq := (wellPaired_of_readRecords hread').completion_unique hc₀ hc' htype htype'
  rw [← hreceipt, ← hreceipt', heq]

/-- **Over any calls on one journal, each cut short wherever it may be: the action is entered
at most once for each key, the receipts for a key are one text, an unfinished reservation keeps
every call from the action, and other command bytes under a used key change nothing.** -/
theorem history_atMostOneEffect (rt : Runtime) (lib : JsonLibrary) (crypto : Primitives)
    (journal : Bytes) (calls : List Call) :
    AtMostOneEffect rt lib crypto (history rt lib crypto ⟨journal, []⟩ calls) := by
  have hgrows := history_pairwise Grows.refl (fun _ _ _ => Grows.trans)
    (turn_grows rt lib crypto) ⟨journal, []⟩ calls
  refine ⟨history_entered journal calls, ?_, fun t ht hunfinished => ?_, ?_⟩
  · refine hgrows.imp_of_mem fun ht ht' hgrow command command' hsame text text' htext htext' => ?_
    have hreturns := returns_of_mem_history ht hsame.first htext
    have hreturns' := returns_of_mem_history ht' hsame.second htext'
    rw [hsame.key] at hreturns'
    exact receipt_unique hreturns hreturns' hgrow
  · -- a key is only used where no reservation is open
    have hturn := eq_turn_of_mem_history ht
    rcases turn_cases rt lib crypto t.before t.call with
      ⟨hsame, -⟩ | ⟨command, -, hsame | huses, -⟩
    · rw [hturn, hsame]
      rfl
    · rw [hturn, hsame]
      rfl
    · obtain ⟨records, hread, -, hopen⟩ := huses.fresh
      exact absurd (hunfinished records hread) hopen
  · refine hgrows.imp_of_mem fun {t t'} ht ht' hgrow command command' hsame hserves hbytes hsha => ?_
    have hturn' := eq_turn_of_mem_history ht'
    rw [hturn']
    refine turn_conflict hsame.second fun records hread => ?_
    -- the record of the first command is still there
    obtain ⟨records₀, hread₀, hprefix⟩ := hgrow records hread
    obtain ⟨r, hr, hdigest⟩ := recorded_of_serves ht hserves hsame.first hread₀
    refine ⟨r, hsame.key ▸ recordsOf_subset hprefix hr, fun heq => hbytes (hsha ?_)⟩
    exact heq.symm.trans hdigest

end DecisionFirewall.Lab
