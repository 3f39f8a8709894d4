import DecisionFirewall.Lab.Journal

/-!
# Appending to the Executor Journal

A record that is appended to a journal that reads is read back behind the others, and a
write that stops in between leaves a journal that is not read any more.

- §1 one line
- §2 the chain
- §3 the states of the keys
- §4 whole and torn writes
-/

namespace DecisionFirewall.Lab

open Phase3 (Bytes sizeBound sizeBoundFields length_render_le)

variable {rt : Runtime} {lib : JsonLibrary}

/-! ## §1 One line -/

namespace UnsignedRecord

/-- What the reader requires of a record apart from its place. -/
structure WellFormed (r : UnsignedRecord) : Prop where
  key : r.idempotencyKey ≠ ""
  command : IsSha256 r.commandSha256
  receipt : r.recordType = .reservation ↔ r.receiptJson = ""

theorem nodup_signed (r : UnsignedRecord) : ((r.signed rt).map Prod.fst).Nodup := by
  have hkeys : (r.signed rt).map Prod.fst = recordNames := rfl
  rw [hkeys]
  decide

theorem readable_signed (r : UnsignedRecord) : (Json.obj (r.signed rt)).Readable lib :=
  ⟨r.nodup_signed, by simp [signed, toDict, Json.ReadableFields, Json.Readable]⟩

theorem sortedFields_signed (r : UnsignedRecord) :
    Json.sortedFields (r.signed rt) = r.signed rt := rfl

/-- The digest of a record is that of its unsigned part. -/
theorem recordDigest_signed (r : UnsignedRecord) :
    recordDigest rt (r.signed rt) = recordDigest rt r.toDict := by
  unfold recordDigest signed toDict
  rfl

theorem recordDigest_eq_of_perm {d e : Dict} (hperm : d.Perm e) (h : (d.map Prod.fst).Nodup) :
    recordDigest rt d = recordDigest rt e := by
  unfold recordDigest
  rw [Json.canonicalJson_eq_of_perm (hperm.filter _)
    (h.sublist ((List.filter_sublist).map Prod.fst))]

/-- Reading the members of a record does not see their order. -/
theorem recordOfDict_eq_of_perm {d e : Dict} (hperm : d.Perm e) (h : (d.map Prod.fst).Nodup)
    (sequence : Nat) (previous : String) :
    recordOfDict rt sequence previous d = recordOfDict rt sequence previous e := by
  have hnames : ((∀ f ∈ d, f.1 ∈ recordNames) ∧ ∀ name ∈ recordNames, name ∈ d.map Prod.fst) ↔
      ((∀ f ∈ e, f.1 ∈ recordNames) ∧ ∀ name ∈ recordNames, name ∈ e.map Prod.fst) := by
    simp only [hperm.mem_iff, (hperm.map Prod.fst).mem_iff]
  have hget : ∀ name, d.get name = e.get name := fun name => by
    rw [Dict.get, Dict.get, Json.lookup_eq_of_perm hperm h]
  unfold recordOfDict
  simp only [hnames, hget, recordDigest_eq_of_perm hperm h]

/-- The members of a well-formed record make the record. -/
theorem recordOfDict_signed {r : UnsignedRecord} (h : r.WellFormed) :
    recordOfDict rt r.sequence r.previousSha256 (r.signed rt) = some (r.record rt) := by
  have hnames : (∀ f ∈ r.signed rt, f.1 ∈ recordNames) ∧
      ∀ name ∈ recordNames, name ∈ (r.signed rt).map Prod.fst := by
    have hkeys : (r.signed rt).map Prod.fst = recordNames := rfl
    exact ⟨fun f hf => hkeys ▸ List.mem_map_of_mem hf, fun name hname => hkeys ▸ hname⟩
  have htype : (if r.recordType.text = "RESERVATION" then RecordType.reservation
      else .completion) = r.recordType := by
    cases r.recordType <;> rfl
  have hmember : r.recordType.text ∈ ["RESERVATION", "COMPLETION"] := by
    cases r.recordType <;> simp [RecordType.text]
  unfold recordOfDict
  rw [if_neg (not_not_intro hnames)]
  have hdigest : recordDigest rt (r.signed rt) = recordDigest rt r.toDict := r.recordDigest_signed
  have hsequence : (r.signed rt).get "sequence" = .int r.sequence := rfl
  have hrecordType : (r.signed rt).get "record_type" = .str r.recordType.text := rfl
  have hkey : (r.signed rt).get "idempotency_key" = .str r.idempotencyKey := rfl
  have hcommand : (r.signed rt).get "command_sha256" = .str r.commandSha256 := rfl
  have hreceipt : (r.signed rt).get "receipt_json" = .str r.receiptJson := rfl
  have hprevious : (r.signed rt).get "previous_sha256" = .str r.previousSha256 := rfl
  have hrecord : (r.signed rt).get "record_sha256" = .str (recordDigest rt r.toDict) := rfl
  simp only [hsequence, hrecordType, hkey, hcommand, hreceipt, hprevious, hrecord, htype, hdigest]
  rw [if_pos ⟨trivial, hmember, h.key, h.command, h.receipt, trivial, trivial⟩]
  rfl

/-- The line that is appended is read back. -/
theorem readLine_payload {r : UnsignedRecord} (h : r.WellFormed) :
    readLine rt lib r.sequence r.previousSha256
      (Json.encodeAscii (Json.obj (r.signed rt)).render) = some (r.record rt) := by
  obtain ⟨fields, hsorted, hperm⟩ : ∃ fields, (Json.obj (r.signed rt)).sorted = .obj fields ∧
      fields.Perm (r.signed rt) :=
    ⟨_, rfl, @sortedFields_signed rt r ▸ List.mergeSort_perm _ _⟩
  have hnodup : (fields.map Prod.fst).Nodup :=
    (hperm.map Prod.fst).nodup_iff.mpr r.nodup_signed
  have hreadable : (Json.obj fields).Readable lib := hsorted ▸ r.readable_signed.sorted
  have htext : (Json.obj (r.signed rt)).render = (Json.obj fields).text := by
    rw [Json.render_eq_text, hsorted]
  have hrender : (Json.obj fields).render = (Json.obj (r.signed rt)).render :=
    Json.render_eq_of_perm hperm hnodup
  rw [readLine, htext, Json.strictJsonLoadsBytes_text hreadable, ← htext]
  simp only
  rw [recordOfDict_eq_of_perm hperm hnodup, recordOfDict_signed h, Option.bind_some, hrender,
    if_pos rfl]

/-- No byte of a line ends it. -/
theorem line_ne (r : UnsignedRecord) :
    ∀ b ∈ Json.encodeAscii (Json.obj (r.signed rt)).render, b ≠ 10 ∧ b ≠ 13 := by
  apply Json.encodeAscii_ne
  rw [Json.render_eq_text]
  have hnumbers : (Json.obj (r.signed rt)).NumbersOk := by
    simp [signed, toDict, Json.NumbersOk, Json.NumbersOkFields]
  exact Json.isPrintable_text _ hnumbers.sorted

/-- The payload is one line. -/
theorem splitLines_payload (r : UnsignedRecord) :
    splitLines (r.payload rt) = [Json.encodeAscii (Json.obj (r.signed rt)).render] :=
  splitLines_line r.line_ne

end UnsignedRecord

/-! ## §2 The chain -/

/-- What every record that is read has passed. -/
theorem recordOfDict_eq_some {sequence : Nat} {previous : String} {fields : Dict}
    {record : JournalRecord} (h : recordOfDict rt sequence previous fields = some record) :
    record.idempotencyKey ≠ "" ∧ IsSha256 record.commandSha256 ∧ IsSha256 record.recordSha256 := by
  unfold recordOfDict at h
  split_ifs at h
  split at h
  · obtain ⟨hvalid, h⟩ := Option.ite_none_right_eq_some.mp h
    cases h
    refine ⟨hvalid.2.2.1, hvalid.2.2.2.1, ?_⟩
    rw [hvalid.2.2.2.2.2.2]
    exact rt.sha256_isSha256 _
  · cases h

theorem readLines_forall {sequence : Nat} {previous : String} {lines : List Bytes}
    {records : List JournalRecord} (h : readLines rt lib sequence previous lines = some records) :
    ∀ r ∈ records, r.idempotencyKey ≠ "" ∧ IsSha256 r.commandSha256 ∧ IsSha256 r.recordSha256 := by
  induction lines generalizing sequence previous records with
  | nil =>
    cases h
    simp
  | cons line lines ih =>
    obtain ⟨record, hrecord, h⟩ := Option.bind_eq_some_iff.mp h
    obtain ⟨rest, hrest, rfl⟩ := Option.map_eq_some_iff.mp h
    refine List.forall_mem_cons.mpr ⟨?_, ih hrest⟩
    unfold readLine at hrecord
    split at hrecord
    · obtain ⟨r, hr, heq⟩ := Option.bind_eq_some_iff.mp hrecord
      split_ifs at heq
      cases heq
      exact recordOfDict_eq_some hr
    · cases hrecord

/-- Reading goes on where the first lines end. -/
theorem readLines_append (sequence : Nat) (previous : String) (lines more : List Bytes) :
    readLines rt lib sequence previous (lines ++ more) =
      (readLines rt lib sequence previous lines).bind fun records =>
        (readLines rt lib (sequence + records.length)
          ((records.getLast?.map JournalRecord.recordSha256).getD previous) more).map
            fun rest => records ++ rest := by
  induction lines generalizing sequence previous with
  | nil =>
    cases hmore : readLines rt lib sequence previous more <;> simp [readLines, hmore]
  | cons line lines ih =>
    rw [List.cons_append, readLines, readLines]
    cases hline : readLine rt lib sequence previous line with
    | none => rfl
    | some record =>
      rw [Option.bind_some, Option.bind_some, ih]
      cases hlines : readLines rt lib (sequence + 1) record.recordSha256 lines with
      | none => rfl
      | some records =>
        -- the last digest of the longer list is that of the shorter one, if it has any
        have hlast : ((record :: records).getLast?.map JournalRecord.recordSha256).getD previous =
            (records.getLast?.map JournalRecord.recordSha256).getD record.recordSha256 := by
          cases records with
          | nil => rfl
          | cons r rs => simp [List.getLast?_cons]
        have hsequence : sequence + 1 + records.length = sequence + (record :: records).length := by
          simp only [List.length_cons]
          omega
        simp only [Option.bind_some, Option.map_some, hlast, hsequence]
        cases readLines rt lib (sequence + (record :: records).length)
          ((records.getLast?.map JournalRecord.recordSha256).getD record.recordSha256) more <;> rfl

/-! ## §3 The states of the keys -/

/-- What may follow the records that have brought a key to a state. -/
def Continues (state : Option (String × RecordType)) (records : List JournalRecord) : Prop :=
  match state with
  | none => records = [] ∨ ∃ r ∈ records.head?, r.recordType = .reservation ∧
      (records.tail = [] ∨ ∃ c, records.tail = [c] ∧ c.recordType = .completion ∧
        c.commandSha256 = r.commandSha256)
  | some (digest, .reservation) => records = [] ∨ ∃ c, records = [c] ∧
      c.recordType = .completion ∧ c.commandSha256 = digest
  | some (_, .completion) => records = []

/-- The second pass, key by key. -/
theorem checkStates_iff (records : List JournalRecord) (states : String → Option (String × RecordType)) :
    checkStates states records = true ↔ ∀ key, Continues (states key) (recordsOf key records) := by
  induction records generalizing states with
  | nil =>
    simp only [checkStates, recordsOf, List.filter_nil, true_iff]
    intro key
    cases states key with
    | none => exact .inl rfl
    | some s =>
      obtain ⟨digest, type⟩ := s
      cases type with
      | reservation => exact .inl rfl
      | completion => exact rfl
  | cons r rs ih =>
    have hother : ∀ key, key ≠ r.idempotencyKey → recordsOf key (r :: rs) = recordsOf key rs :=
      fun key hne => List.filter_cons_of_neg (by simpa using fun h => hne h.symm)
    have hsame : recordsOf r.idempotencyKey (r :: rs) = r :: recordsOf r.idempotencyKey rs :=
      List.filter_cons_of_pos (by simp)
    -- the other keys keep their states
    have hsplit : ∀ state, (∀ key, Continues (Function.update states r.idempotencyKey state key)
        (recordsOf key rs)) ↔ Continues state (recordsOf r.idempotencyKey rs) ∧
          ∀ key, key ≠ r.idempotencyKey → Continues (states key) (recordsOf key rs) := by
      intro state
      constructor
      · intro h
        refine ⟨by simpa using h r.idempotencyKey, fun key hne => ?_⟩
        simpa [Function.update_of_ne hne] using h key
      · rintro ⟨hstate, hothers⟩ key
        by_cases hkey : key = r.idempotencyKey
        · subst hkey
          simpa using hstate
        · simpa [Function.update_of_ne hkey] using hothers key hkey
    have hgoal : (∀ key, Continues (states key) (recordsOf key (r :: rs))) ↔
        Continues (states r.idempotencyKey) (r :: recordsOf r.idempotencyKey rs) ∧
          ∀ key, key ≠ r.idempotencyKey → Continues (states key) (recordsOf key rs) := by
      constructor
      · intro h
        exact ⟨hsame ▸ h r.idempotencyKey, fun key hne => hother key hne ▸ h key⟩
      · rintro ⟨hstate, hothers⟩ key
        by_cases hkey : key = r.idempotencyKey
        · subst hkey
          rw [hsame]
          exact hstate
        · rw [hother key hkey]
          exact hothers key hkey
    rw [hgoal]
    cases htype : r.recordType with
    | reservation =>
      simp only [checkStates, htype, Bool.and_eq_true, ih, hsplit, ← and_assoc]
      apply and_congr_left'
      cases states r.idempotencyKey with
      | none => simp [Continues, htype]
      | some s =>
        obtain ⟨digest, type⟩ := s
        cases type <;> simp [Continues, htype]
    | completion =>
      simp only [checkStates, htype, Bool.and_eq_true, ih, hsplit, ← and_assoc]
      apply and_congr_left'
      cases states r.idempotencyKey with
      | none => simp [Continues, htype]
      | some s =>
        obtain ⟨digest, type⟩ := s
        cases type with
        | reservation =>
          simp only [Continues, decide_eq_true_eq, Option.some.injEq, Prod.mk.injEq, and_true,
            reduceCtorEq, false_or, List.cons.injEq]
          constructor
          · rintro ⟨rfl, hnil⟩
            exact ⟨r, ⟨rfl, hnil⟩, htype, rfl⟩
          · rintro ⟨c, ⟨rfl, hnil⟩, -, rfl⟩
            exact ⟨rfl, hnil⟩
        | completion => simp [Continues]

/-- Every key is unused, reserved, or reserved and then completed under one digest. -/
def WellPaired (records : List JournalRecord) : Prop :=
  ∀ key, Continues none (recordsOf key records)

theorem recordsOf_append (key : String) (records more : List JournalRecord) :
    recordsOf key (records ++ more) = recordsOf key records ++ recordsOf key more :=
  List.filter_append ..

theorem recordsOf_singleton (key : String) (r : JournalRecord) :
    recordsOf key [r] = if r.idempotencyKey = key then [r] else [] := by
  by_cases h : r.idempotencyKey = key <;> simp [recordsOf, h]

/-- An unused key is reserved. -/
theorem WellPaired.reserve {records : List JournalRecord} (h : WellPaired records)
    {r : JournalRecord} (htype : r.recordType = .reservation)
    (hunused : recordsOf r.idempotencyKey records = []) : WellPaired (records ++ [r]) := by
  intro key
  rw [recordsOf_append, recordsOf_singleton]
  by_cases hkey : r.idempotencyKey = key
  · subst hkey
    rw [hunused, if_pos rfl]
    exact .inr ⟨r, rfl, htype, .inl rfl⟩
  · rw [if_neg hkey, List.append_nil]
    exact h key

/-- A reserved key is completed. -/
theorem WellPaired.complete {records : List JournalRecord} (h : WellPaired records)
    {r c : JournalRecord} (hr : r.recordType = .reservation) (hc : c.recordType = .completion)
    (hdigest : c.commandSha256 = r.commandSha256)
    (hopen : recordsOf c.idempotencyKey records = [r]) : WellPaired (records ++ [c]) := by
  intro key
  rw [recordsOf_append, recordsOf_singleton]
  by_cases hkey : c.idempotencyKey = key
  · subst hkey
    rw [hopen, if_pos rfl]
    exact .inr ⟨r, rfl, hr, .inr ⟨c, rfl, hc, hdigest⟩⟩
  · rw [if_neg hkey, List.append_nil]
    exact h key

/-! ## §4 Whole and torn writes -/

theorem readRecords_eq_some {journal : Bytes} {records : List JournalRecord} :
    readRecords rt lib journal = some records ↔ journal.length ≤ MAX_JOURNAL_BYTES ∧
      EndsLine journal ∧ readLines rt lib 1 ZERO_DIGEST (splitLines journal) = some records ∧
        WellPaired records := by
  unfold readRecords
  by_cases hbad : MAX_JOURNAL_BYTES < journal.length ∨ ¬ EndsLine journal
  · rw [if_pos hbad]
    simp only [reduceCtorEq, false_iff]
    rintro ⟨hsize, hends, -, -⟩
    exact hbad.elim (fun h => absurd hsize (not_le.mpr h)) fun h => h hends
  · rw [if_neg hbad]
    simp only [not_or, not_lt, not_not] at hbad
    simp only [hbad, true_and, Option.bind_eq_some_iff]
    constructor
    · rintro ⟨records', hlines, hstates⟩
      split_ifs at hstates with hcheck
      cases hstates
      exact ⟨hlines, (checkStates_iff _ _).mp hcheck⟩
    · rintro ⟨hlines, hpaired⟩
      refine ⟨records, hlines, ?_⟩
      rw [if_pos ((checkStates_iff _ _).mpr hpaired)]

/-- A line is not much longer than the texts in it. -/
theorem UnsignedRecord.length_payload_le (r : UnsignedRecord) : (r.payload rt).length ≤
    12 * (r.idempotencyKey.length + r.commandSha256.length + r.receiptJson.length +
      r.recordedAt.length + r.previousSha256.length) + (toString (r.sequence : Int)).length +
      12 * 300 := by
  have hrender := length_render_le (.obj (r.signed rt))
  have hdigest : (recordDigest rt r.toDict).length = 64 := (rt.sha256_isSha256 _).1
  have htype : r.recordType.text.length ≤ 11 := by
    cases r.recordType <;> decide
  have hnames : ∀ name ∈ recordNames, name.length ≤ 15 := by decide
  simp only [recordNames, List.forall_mem_cons] at hnames
  rw [payload, List.length_append, Json.length_encodeAscii]
  rw [signed] at hrender ⊢
  generalize recordDigest rt r.toDict = digest at hrender hdigest ⊢
  simp only [toDict, List.cons_append, List.nil_append, sizeBound, sizeBoundFields,
    List.length_cons, List.length_nil] at hrender ⊢
  omega

theorem payload_ne_nil (r : UnsignedRecord) : r.payload rt ≠ [] := by
  simp [UnsignedRecord.payload]

/-- A whole write adds its record. -/
theorem readRecords_append {journal : Bytes} {records : List JournalRecord} {r : UnsignedRecord}
    (h : readRecords rt lib journal = some records) (hr : r.WellFormed)
    (hsequence : r.sequence = records.length + 1) (hprevious : r.previousSha256 = lastDigest records)
    (hpaired : WellPaired (records ++ [r.record rt]))
    (hsize : journal.length + (r.payload rt).length ≤ MAX_JOURNAL_BYTES) :
    readRecords rt lib (journal ++ r.payload rt) = some (records ++ [r.record rt]) := by
  obtain ⟨-, hends, hlines, -⟩ := readRecords_eq_some.mp h
  refine readRecords_eq_some.mpr ⟨by rw [List.length_append]; exact hsize, ?_, ?_, hpaired⟩
  · refine .inr ?_
    rw [List.getLast?_append_of_ne_nil _ (payload_ne_nil r)]
    simp [UnsignedRecord.payload]
  · have hline : readLine rt lib r.sequence r.previousSha256
        (Json.encodeAscii (Json.obj (r.signed rt)).render) = some (r.record rt) :=
      UnsignedRecord.readLine_payload hr
    rw [hsequence, hprevious] at hline
    rw [splitLines_append hends, r.splitLines_payload, readLines_append, hlines, Option.bind_some,
      Nat.add_comm 1]
    simp only [readLines]
    rw [show (records.getLast?.map JournalRecord.recordSha256).getD ZERO_DIGEST =
      lastDigest records from rfl, hline]
    rfl

/-- A torn write leaves a journal that is not read. -/
theorem readRecords_torn (journal : Bytes) (r : UnsignedRecord) {n : Nat} (hpos : 0 < n)
    (hn : n < (r.payload rt).length) :
    readRecords rt lib (journal ++ (r.payload rt).take n) = none := by
  unfold readRecords
  refine if_pos (.inr ?_)
  -- the last byte that is written is one of the line
  have hlength : n ≤ (Json.encodeAscii (Json.obj (r.signed rt)).render).length := by
    simp only [UnsignedRecord.payload, List.length_append, List.length_cons, List.length_nil] at hn
    omega
  have htake : (r.payload rt).take n =
      (Json.encodeAscii (Json.obj (r.signed rt)).render).take n :=
    List.take_append_of_le_length hlength
  have hne : (Json.encodeAscii (Json.obj (r.signed rt)).render).take n ≠ [] := by
    intro hnil
    have := congrArg List.length hnil
    simp only [List.length_take, List.length_nil] at this
    omega
  rw [htake]
  rintro (hnil | hlast)
  · exact hne (List.append_eq_nil_iff.mp hnil).2
  · rw [List.getLast?_append_of_ne_nil _ hne] at hlast
    exact (r.line_ne 10 (List.mem_of_mem_take (List.mem_of_getLast? hlast))).1 rfl

end DecisionFirewall.Lab
