import DecisionFirewall.Lab.Outcomes

/-!
# Room for a Completion

A reservation is taken without room for its completion. What a record adds to the journal,
and when the receipt of a reserved command can still be recorded.

- §1 the length of a record
- §2 completions that are recorded
- §3 a journal that is nearly full
-/

namespace DecisionFirewall.Lab

open Phase3 (Primitives Bytes IsSchemaIdentifier newYearRuntime plainPrimitives zeros weight_render_obj
  length_render_obj)

variable {rt : Runtime} {lib : JsonLibrary} {crypto : Primitives}

/-! ## §1 The length of a record -/

/-- The length of the line of a record. Its names, digests and punctuation are 333 characters. -/
def recordSize (type : RecordType) (sequence : Nat) (key receiptJson recordedAt : String) : Nat :=
  333 + type.text.length + (toString (sequence : Int)).length + (Json.renderString key).length +
    (Json.renderString receiptJson).length + (Json.renderString recordedAt).length

theorem length_payload {r : UnsignedRecord} (hcommand : IsSha256 r.commandSha256)
    (hprevious : IsSha256 r.previousSha256) : (r.payload rt).length =
      recordSize r.recordType r.sequence r.idempotencyKey r.receiptJson r.recordedAt := by
  have hne : r.signed rt ≠ [] := by simp [UnsignedRecord.signed]
  have hrender := length_render_obj hne
  have hnames : (Json.renderString "sequence").length = 10 ∧
    (Json.renderString "record_type").length = 13 ∧
    (Json.renderString "idempotency_key").length = 17 ∧
    (Json.renderString "command_sha256").length = 16 ∧
    (Json.renderString "receipt_json").length = 14 ∧
    (Json.renderString "recorded_at").length = 13 ∧
    (Json.renderString "previous_sha256").length = 17 ∧
    (Json.renderString "record_sha256").length = 15 := by decide
  have htype : (Json.renderString r.recordType.text).length = r.recordType.text.length + 2 := by
    cases r.recordType <;> decide
  have hdigest : (Json.renderString (recordDigest rt r.toDict)).length = 66 :=
    (rt.sha256_isSha256 _).length_renderString
  rw [UnsignedRecord.payload, List.length_append, Json.length_encodeAscii, hrender,
    UnsignedRecord.signed]
  generalize recordDigest rt r.toDict = digest at hdigest ⊢
  simp only [UnsignedRecord.toDict, List.cons_append, List.nil_append, List.map_cons, List.map_nil,
    List.sum_cons, List.sum_nil, Json.render, hnames, htype, hdigest, hcommand.length_renderString,
    hprevious.length_renderString, recordSize, String.length_toList, List.length_cons,
    List.length_nil]
  omega

/-- What a command adds to a journal of some records, with its receipt. -/
def pairSize (records : Nat) (key recordedAt receiptJson : String) : Nat :=
  recordSize .reservation (records + 1) key "" recordedAt +
    recordSize .completion (records + 2) key receiptJson recordedAt

theorem isSha256_lastDigest {journal : Bytes} {records : List JournalRecord}
    (h : readRecords rt lib journal = some records) : IsSha256 (lastDigest records) := by
  rw [lastDigest]
  cases hlast : records.getLast? with
  | none => exact isSha256_zeroDigest
  | some r =>
    exact (readLines_forall (readRecords_eq_some.mp h).2.2.1 r (List.mem_of_getLast? hlast)).2.2

section Reserves

variable {c : Call} {w : World} {t : Int} {command : Dict} {records : List JournalRecord}

theorem Reserves.length_reserved (h : Reserves rt lib crypto c w t command records) :
    (reservedWorld rt w t command records).journal.length = w.journal.length +
      recordSize .reservation (records.length + 1) (textOf command "idempotency_key") ""
        (rt.isoformat (Runtime.truncate t)) := by
  have hlength := @length_payload rt (reservation records (textOf command "idempotency_key")
    (labMessageSha256 rt command) (rt.isoformat (Runtime.truncate t))) h.arguments.2
    (isSha256_lastDigest h.readable)
  rw [reservedWorld, List.length_append, hlength]
  rfl

theorem Reserves.length_completion (h : Reserves rt lib crypto c w t command records)
    (receiptJson : String) : ((completionOf rt t command records receiptJson).payload rt).length =
      recordSize .completion (records.length + 2) (textOf command "idempotency_key") receiptJson
        (rt.isoformat (Runtime.truncate t)) := by
  have hlast : ∀ r : UnsignedRecord, IsSha256 (lastDigest (records ++ [r.record rt])) := by
    intro r
    rw [lastDigest, List.getLast?_append_of_ne_nil _ (List.cons_ne_nil _ _)]
    exact rt.sha256_isSha256 _
  have hlength := @length_payload rt (completionOf rt t command records receiptJson) h.arguments.2
    (hlast _)
  rw [hlength, completionOf, completion, reservation, List.length_append, List.length_singleton]

/-- Both records have their room, or they do not. -/
theorem Reserves.hasRoom_iff (h : Reserves rt lib crypto c w t command records)
    (receiptJson : String) : HasRoom rt w t command records receiptJson ↔
      w.journal.length + pairSize records.length (textOf command "idempotency_key")
        (rt.isoformat (Runtime.truncate t)) receiptJson ≤ MAX_JOURNAL_BYTES := by
  rw [HasRoom, h.length_reserved, h.length_completion, pairSize, Nat.add_assoc]

/-- A completion is refused only where the journal is full. -/
theorem Reserves.complete_eq (h : Reserves rt lib crypto c w t command records)
    (receiptJson : String) :
    complete rt lib (reservedWorld rt w t command records).journal
      (textOf command "idempotency_key") (labMessageSha256 rt command) receiptJson
      (rt.isoformat (Runtime.truncate t)) =
    if w.journal.length + pairSize records.length (textOf command "idempotency_key")
        (rt.isoformat (Runtime.truncate t)) receiptJson ≤ MAX_JOURNAL_BYTES then
      .ok ((completionOf rt t command records receiptJson).payload rt)
    else .error "LAB_JOURNAL_FULL" := by
  rw [complete_of_reserves h, append]
  by_cases hroom : HasRoom rt w t command records receiptJson
  · rw [if_neg (not_lt.mpr hroom), if_pos ((h.hasRoom_iff receiptJson).mp hroom)]
  · rw [if_pos (not_le.mp hroom), if_neg (mt (h.hasRoom_iff receiptJson).mpr hroom)]

end Reserves

/-! ## §2 Completions that are recorded -/

/-- Wherever a call has reserved its command, the receipt that it makes is completed. -/
def RecordsReserved (rt : Runtime) (lib : JsonLibrary) (crypto : Primitives) (turns : List Turn) :
    Prop :=
  ∀ T ∈ turns, ∀ t command records prestate outcome receipt,
    Reserves rt lib crypto T.call T.before t command records →
    T.call.Makes rt lib crypto t command prestate outcome receipt →
      complete rt lib (reservedWorld rt T.before t command records).journal
        (textOf command "idempotency_key") (labMessageSha256 rt command)
        (canonicalJson (.obj receipt)) (rt.isoformat (Runtime.truncate t)) ≠
          .error "LAB_JOURNAL_FULL"

/-- Wherever a call reserves its command, there is room for its receipt as well. -/
def ReservesWithRoom (rt : Runtime) (lib : JsonLibrary) (crypto : Primitives)
    (turns : List Turn) : Prop :=
  ∀ T ∈ turns, ∀ t command records prestate outcome receipt,
    Reserves rt lib crypto T.call T.before t command records →
    T.call.Makes rt lib crypto t command prestate outcome receipt →
      T.before.journal.length + pairSize records.length (textOf command "idempotency_key")
        (rt.isoformat (Runtime.truncate t)) (canonicalJson (.obj receipt)) ≤ MAX_JOURNAL_BYTES

/-- **Over any calls on a new journal, every reserved command is completed exactly if each had
room for both of its records when it was reserved.** -/
theorem history_recordsReserved_iff (rt : Runtime) (lib : JsonLibrary) (crypto : Primitives)
    (calls : List Call) : RecordsReserved rt lib crypto (history rt lib crypto ⟨[], []⟩ calls) ↔
      ReservesWithRoom rt lib crypto (history rt lib crypto ⟨[], []⟩ calls) := by
  have hiff : ∀ {T : Turn} {t command records} (receiptJson : String),
      Reserves rt lib crypto T.call T.before t command records →
      (complete rt lib (reservedWorld rt T.before t command records).journal
        (textOf command "idempotency_key") (labMessageSha256 rt command) receiptJson
        (rt.isoformat (Runtime.truncate t)) ≠ .error "LAB_JOURNAL_FULL" ↔
      T.before.journal.length + pairSize records.length (textOf command "idempotency_key")
        (rt.isoformat (Runtime.truncate t)) receiptJson ≤ MAX_JOURNAL_BYTES) := by
    intro T t command records receiptJson h
    rw [h.complete_eq receiptJson]
    split_ifs with hroom <;> simp [hroom]
  constructor
  · intro h T hT t command records prestate outcome receipt hreserves hmakes
    exact (hiff _ hreserves).mp (h T hT t command records prestate outcome receipt hreserves hmakes)
  · intro h T hT t command records prestate outcome receipt hreserves hmakes
    exact (hiff _ hreserves).mpr (h T hT t command records prestate outcome receipt hreserves hmakes)

/-! ## §3 A journal that is nearly full -/

/-- A call whose action raises, so that its outcome is uncertain. -/
def fillingCall (identifier key : String) : Call :=
  plainCall identifier key zeros (some ⟨identifier, true, true, zeros⟩) none

def fillingReceipt (identifier key : String) : Dict :=
  plainReceipt identifier key zeros (.of "AMBIGUOUS" true "EFFECT_UNCERTAIN" ZERO_DIGEST)

/-- What such a call adds behind `n` records. -/
def fillingSize (n : Nat) (identifier key : String) : Nat :=
  pairSize n key "2026-01-01T00:00:00+00:00" (canonicalJson (.obj (fillingReceipt identifier key)))

section Filling

variable {identifier key : String} {w : World} {records : List JournalRecord}

theorem makes_filling (h : IsPlain identifier key zeros) (hne : identifier ≠ "") :
    (fillingCall identifier key).Makes newYearRuntime asciiLibrary plainPrimitives exampleTime
      (plainCommand identifier key zeros)
      ((some ⟨identifier, true, true, zeros⟩ : Option LabObservedState).filter fun s => s.Valid)
      (.of "AMBIGUOUS" true "EFFECT_UNCERTAIN" ZERO_DIGEST) (fillingReceipt identifier key) := by
  have hvalid : (⟨identifier, true, true, zeros⟩ : LabObservedState).Valid :=
    ⟨hne, h.short.1.trans (by omega), newYearRuntime.sha256_isSha256 ""⟩
  have hfilter : (some ⟨identifier, true, true, zeros⟩ : Option LabObservedState).filter
      (fun s => s.Valid) = some ⟨identifier, true, true, zeros⟩ := by simp [hvalid]
  refine makes_plain h ?_ (.ambiguous isSha256_zeroDigest)
  rw [hfilter, LabExecutorService.outcome?, if_pos ⟨⟨rfl, rfl, rfl, rfl⟩, rfl⟩]
  rfl

/-- The journal holds `n` completed pairs under the first `n` keys. -/
structure Filled (n : Nat) (w : World) (records : List JournalRecord) : Prop where
  readable : readRecords newYearRuntime asciiLibrary w.journal = some records
  length : records.length = 2 * n
  unused : ∀ m, n ≤ m → recordsOf m.repr records = []
  unreserved : ¬ HasOpenReservation records

theorem Filled.nil : Filled 0 ⟨[], []⟩ [] where
  readable := readRecords_nil
  length := rfl
  unused _ _ := rfl
  unreserved := by simp [HasOpenReservation]

/-- A key that is completed is not open. -/
theorem not_hasOpenReservation_pair {r c : JournalRecord} (hkey : c.idempotencyKey = r.idempotencyKey)
    (htype : c.recordType = .completion) (h : ¬ HasOpenReservation records) :
    ¬ HasOpenReservation (records ++ [r, c]) := by
  rintro ⟨q, hq, last, hlast, hopen⟩
  rw [recordsOf_append, Option.mem_def] at hlast
  by_cases hsame : q.idempotencyKey = r.idempotencyKey
  · -- the last record of the key is the completion
    have hpair : recordsOf q.idempotencyKey [r, c] = [r, c] := by
      simp [recordsOf, hkey, hsame]
    rw [hpair, List.getLast?_append_of_ne_nil _ (List.cons_ne_nil _ _)] at hlast
    obtain rfl : c = last := Option.some.inj hlast
    rw [htype] at hopen
    cases hopen
  · have hpair : recordsOf q.idempotencyKey [r, c] = [] := by
      simp [recordsOf, hkey, Ne.symm hsame]
    rw [hpair, List.append_nil] at hlast
    have hmem : q ∈ records := by
      rcases List.mem_append.mp hq with hmem | hmem
      · exact hmem
      · have heither : q = r ∨ q = c := by simpa using hmem
        rcases heither with rfl | rfl
        · exact absurd rfl hsame
        · exact absurd hkey hsame
    exact h ⟨q, hmem, last, hlast, hopen⟩

theorem reserves_filling {n : Nat} (h : IsPlain identifier n.repr zeros)
    (hfilled : Filled n w records)
    (hroom : w.journal.length + recordSize .reservation (2 * n + 1) n.repr ""
      "2026-01-01T00:00:00+00:00" ≤ MAX_JOURNAL_BYTES) :
    Reserves newYearRuntime asciiLibrary plainPrimitives (fillingCall identifier n.repr) w
      exampleTime (plainCommand identifier n.repr zeros) records := by
  refine reserves_plain h hfilled.readable (hfilled.unused n le_rfl) hfilled.unreserved ?_
  have hlength := @length_payload newYearRuntime (reservation records n.repr zeros
    "2026-01-01T00:00:00+00:00") (newYearRuntime.sha256_isSha256 "") (isSha256_lastDigest hfilled.readable)
  rw [hlength]
  show w.journal.length + recordSize .reservation (records.length + 1) n.repr ""
    "2026-01-01T00:00:00+00:00" ≤ MAX_JOURNAL_BYTES
  rwa [hfilled.length]

/-- A call fills the journal by its two records. -/
theorem Filled.turn {n : Nat} (h : IsPlain identifier n.repr zeros) (hne : identifier ≠ "")
    (hfilled : Filled n w records)
    (hroom : w.journal.length + fillingSize (2 * n) identifier n.repr ≤ MAX_JOURNAL_BYTES) :
    ∃ records', Filled (n + 1) (turn newYearRuntime asciiLibrary plainPrimitives w
        (fillingCall identifier n.repr)).after records' ∧
      (turn newYearRuntime asciiLibrary plainPrimitives w
        (fillingCall identifier n.repr)).after.journal.length =
          w.journal.length + fillingSize (2 * n) identifier n.repr := by
  have hreserves : Reserves newYearRuntime asciiLibrary plainPrimitives
      (fillingCall identifier n.repr) w exampleTime (plainCommand identifier n.repr zeros) records := by
    refine reserves_filling h hfilled ?_
    rw [fillingSize, pairSize] at hroom
    omega
  have hboth : HasRoom newYearRuntime w exampleTime (plainCommand identifier n.repr zeros) records
      (canonicalJson (.obj (fillingReceipt identifier n.repr))) := by
    refine (hreserves.hasRoom_iff _).mpr ?_
    rw [hfilled.length]
    exact hroom
  obtain ⟨-, hjournal⟩ := turn_of_room hreserves (makes_filling h hne) (fun _ => rfl) rfl hboth
  have hread := hreserves.readRecords_of_room (canonicalJson_obj_ne _) hboth
  rw [← hjournal] at hread
  refine ⟨_, ⟨hread, ?_, fun m hm => ?_, ?_⟩, ?_⟩
  · rw [List.length_append, hfilled.length]
    rfl
  · -- the keys that follow are other ones
    have hother : ¬ n.repr = m.repr := by
      rw [Nat.repr_inj]
      omega
    have hnone : ∀ r c : JournalRecord, r.idempotencyKey = n.repr → c.idempotencyKey = n.repr →
        recordsOf m.repr [r, c] = [] := by
      intro r c hr hc
      rw [recordsOf, List.filter_cons_of_neg (by simpa [hr] using hother),
        List.filter_cons_of_neg (by simpa [hc] using hother), List.filter_nil]
    rw [recordsOf_append, hfilled.unused m (by omega), List.nil_append, hnone _ _ rfl rfl]
  · exact not_hasOpenReservation_pair rfl rfl hfilled.unreserved
  · rw [hjournal, List.length_append, hreserves.length_reserved, hreserves.length_completion,
      hfilled.length, Nat.add_assoc]
    rfl

end Filling

/-- The length of characters behind another escape. -/
def escapedLength (cs : List Char) : Nat := (cs.flatMap Json.escapeChar).length

theorem escapedLength_append (xs ys : List Char) :
    escapedLength (xs ++ ys) = escapedLength xs + escapedLength ys := by
  rw [escapedLength, List.flatMap_append, List.length_append, escapedLength, escapedLength]

/-- The quotes of a plain text are escaped, its characters are not. -/
theorem escapedLength_renderString {s : String} (h : ∀ c ∈ s.toList, Json.escapeChar c = [c]) :
    escapedLength (Json.renderString s) = s.length + 4 := by
  have hflat := flatMap_escapeChar_plain h
  have hquotes : (['"'] : List Char).flatMap Json.escapeChar = ['\\', '"'] := by decide
  rw [Json.renderString, hflat, ← List.singleton_append, List.append_assoc, escapedLength_append,
    escapedLength_append, escapedLength, escapedLength, hflat, hquotes, String.length_toList]
  simp only [List.length_cons, List.length_nil]
  omega

theorem length_renderString_canonicalJson {fields : Dict} (h : fields ≠ []) :
    (Json.renderString (canonicalJson (.obj fields))).length = 3 + (fields.map fun f =>
      escapedLength (Json.renderString f.1) + escapedLength f.2.render + 2).sum := by
  have hall : ['{', '}', ':', ','].all (fun c => decide (escapedLength [c] = 1)) = true := by rfl
  have hobj := weight_render_obj escapedLength_append
    (fun c hc => of_decide_eq_true (List.all_eq_true.mp hall c hc)) h
  rw [Json.renderString, canonicalJson, String.toList_ofList]
  simp only [List.length_append, List.length_cons, List.length_nil]
  rw [escapedLength] at hobj
  omega

section Sizes

variable {identifier : String} {n : Nat}

/-- What the completion of a filling call takes. -/
def fillingCompletion (n : Nat) (identifier key : String) : Nat :=
  recordSize .completion (n + 2) key (canonicalJson (.obj (fillingReceipt identifier key)))
    "2026-01-01T00:00:00+00:00"

/-- The identifier stands in five members of the receipt. -/
theorem fillingCompletion_eq (h : ∀ c ∈ identifier.toList, Json.escapeChar c = [c]) (key : String) :
    fillingCompletion n identifier key = fillingCompletion n "" key + 5 * identifier.length := by
  have hreceipt : ∀ identifier, fillingReceipt identifier key =
      [("schema_version", .str SCHEMA_VERSION),
        ("message_type", .str RECEIPT),
        ("lab_session_id", .str identifier),
        ("request_id", .str identifier),
        ("decision_id", .str identifier),
        ("authorization_id", .str identifier),
        ("command_sha256", .str zeros),
        ("idempotency_key", .str key),
        ("target_id", .str TARGET_ID),
        ("target_boot_id", .str identifier),
        ("sequence", .int 1),
        ("status", .str "AMBIGUOUS"),
        ("effect_possible", .bool true),
        ("reason_code", .str "EFFECT_UNCERTAIN"),
        ("prestate_sha256", .str zeros),
        ("poststate_sha256", .str ZERO_DIGEST),
        ("executed_at", .str "2026-01-01T00:00:00+00:00"),
        ("recorded_at", .str "2026-01-01T00:00:00+00:00"),
        ("authentication", .obj (envelopeOf "KEY_1" zeros))] := fun _ => rfl
  have hidentifier : escapedLength (Json.str identifier).render = identifier.length + 4 :=
    escapedLength_renderString h
  have hempty : escapedLength (Json.str "").render = 4 := by decide
  rw [fillingCompletion, fillingCompletion, recordSize, recordSize, hreceipt, hreceipt,
    length_renderString_canonicalJson (List.cons_ne_nil _ _),
    length_renderString_canonicalJson (List.cons_ne_nil _ _)]
  simp only [List.map_cons, List.map_nil, List.sum_cons, List.sum_nil, hidentifier, hempty]
  ring

/-- What its reservation takes. -/
def fillingReservation (n : Nat) : Nat :=
  recordSize .reservation (2 * n + 1) n.repr "" "2026-01-01T00:00:00+00:00"

theorem fillingSize_eq (identifier : String) : fillingSize (2 * n) identifier n.repr =
    fillingReservation n + fillingCompletion (2 * n) identifier n.repr := rfl

theorem isDigit_repr : ∀ c ∈ n.repr.toList, c.isDigit = true := by
  intro c hc
  rw [Nat.toList_repr] at hc
  exact Nat.isDigit_of_mem_toDigits (by omega) (by omega) hc

theorem plain_repr : ∀ c ∈ n.repr.toList, Json.escapeChar c = [c] := by
  have hall : Json.wordChars.all (fun c => decide (Json.escapeChar c = [c])) = true := by rfl
  intro c hc
  exact of_decide_eq_true
    (List.all_eq_true.mp hall c (Json.mem_wordChars_of_isDigit (.inl (isDigit_repr c hc))))

theorem length_repr_le (hn : n < 1000000000) : n.repr.length ≤ 10 :=
  (Nat.length_repr_le_iff (by omega)).mpr (by omega)

theorem fillingReservation_le (hn : n < 1000000000) : fillingReservation n ≤ 395 := by
  have hkey : (Json.renderString n.repr).length = n.repr.length + 2 :=
    length_renderString_plain plain_repr
  have hrepr := length_repr_le hn
  have hsequence : (toString ((2 * n + 1 : Nat) : Int)).length ≤ 10 :=
    (Nat.length_repr_le_iff (by omega)).mpr (by omega)
  have hnone : (Json.renderString "").length = 2 := by decide
  have htime : (Json.renderString "2026-01-01T00:00:00+00:00").length = 27 := by decide
  have htype : RecordType.reservation.text.length = 11 := by decide
  rw [fillingReservation, recordSize, hkey, hnone, htime, htype]
  omega

end Sizes

/-- An identifier of 120 characters. -/
def longIdentifier : String := String.ofList (List.replicate 120 'A')

theorem length_repeated (n : Nat) : (String.ofList (List.replicate n 'A')).length = n := by
  simp

/-- A letter, repeated. -/
theorem isSchemaIdentifier_repeated {n : Nat} (hpos : 0 < n) (hn : n ≤ 128) :
    IsSchemaIdentifier (String.ofList (List.replicate n 'A')) := by
  have hlast : ¬ (List.replicate n 'A').getLast? = some '\n' := by
    intro hlast
    have hmem := List.eq_of_mem_replicate (List.mem_of_getLast? hlast)
    exact absurd hmem (by decide)
  rw [IsSchemaIdentifier, String.toList_ofList, if_neg hlast]
  refine ⟨?_, ⟨'A', ?_, rfl⟩, fun c hc => .inl ?_⟩
  · rwa [List.length_replicate]
  · rw [List.head?_replicate, if_neg hpos.ne']
    rfl
  · rw [List.eq_of_mem_replicate hc]
    rfl

theorem length_longIdentifier : longIdentifier.length = 120 := length_repeated 120

theorem longIdentifier_ne : longIdentifier ≠ "" := by
  intro h
  have hlength := congrArg String.length h
  rw [length_longIdentifier] at hlength
  exact absurd hlength (by decide)

theorem plain_filling {identifier : String} (h : identifier = longIdentifier ∨ identifier = "A") :
    ∀ c ∈ identifier.toList, Json.escapeChar c = [c] := by
  have hA : Json.escapeChar 'A' = ['A'] := by rfl
  have hall : ∀ n : ℕ, ∀ c ∈ List.replicate n 'A', Json.escapeChar c = [c] := by
    intro n c hc
    rw [List.eq_of_mem_replicate hc, hA]
  rcases h with rfl | rfl
  · have hlong : longIdentifier.toList = List.replicate 120 'A' := String.toList_ofList
    rw [hlong]
    exact hall 120
  · exact hall 1

theorem isPlain_filling {identifier : String} (h : identifier = longIdentifier ∨ identifier = "A")
    {n : Nat} (hn : n < 1000000000) : IsPlain identifier n.repr zeros := by
  have hlength := length_repr_le hn
  have halphanum : ∀ c ∈ n.repr.toList, c.isAlphanum = true := by
    intro c hc
    rw [Char.isAlphanum, isDigit_repr c hc, Bool.or_true]
  have hhead : ∃ c ∈ n.repr.toList.head?, c.isAlphanum = true := by
    have hne : n.repr.toList ≠ [] := by
      rw [Nat.toList_repr]
      exact Nat.toDigits_ne_nil
    obtain ⟨c, cs, hcs⟩ := List.exists_cons_of_ne_nil hne
    exact ⟨c, by rw [hcs]; rfl, halphanum c (by rw [hcs]; exact List.mem_cons_self)⟩
  have hlab : IsLabIdentifier n.repr := by
    refine ⟨?_, hhead, fun c hc => .inl (halphanum c hc)⟩
    rw [String.length_toList]
    omega
  -- digits do not end in a line feed
  have hlast : ¬ n.repr.toList.getLast? = some '\n' := fun hlast =>
    absurd (halphanum _ (List.mem_of_getLast? hlast)) (by decide)
  have hidentifier : identifier.length ≤ 120 ∧ IsSchemaIdentifier identifier := by
    rcases h with rfl | rfl
    · exact ⟨length_longIdentifier.le, isSchemaIdentifier_repeated (by decide) (by decide)⟩
    · exact ⟨by decide, by simp [IsSchemaIdentifier]⟩
  refine ⟨⟨hidentifier.1, hlength⟩, hidentifier.2, hlab, ?_, ?_⟩
  · rw [IsSchemaIdentifier, if_neg hlast]
    exact hlab
  · apply isHexDigest_of_isSha256
    decide

section Run

/-- The world behind some calls. -/
def worldAfter (rt : Runtime) (lib : JsonLibrary) (crypto : Primitives) (w : World)
    (calls : List Call) : World :=
  calls.foldl (fun w c => (turn rt lib crypto w c).after) w

theorem mem_history_snoc (w : World) (calls : List Call) (c : Call) :
    turn rt lib crypto (worldAfter rt lib crypto w calls) c ∈
      history rt lib crypto w (calls ++ [c]) := by
  induction calls generalizing w with
  | nil => exact List.mem_cons_self
  | cons d calls ih => exact List.mem_cons_of_mem _ (ih _)

theorem worldAfter_snoc (w : World) (calls : List Call) (c : Call) :
    worldAfter rt lib crypto w (calls ++ [c]) =
      (turn rt lib crypto (worldAfter rt lib crypto w calls) c).after := by
  rw [worldAfter, List.foldl_append]
  rfl

/-- How long the journal is behind `n` filling calls. -/
def filledLength : Nat → Nat
  | 0 => 0
  | n + 1 => filledLength n + fillingSize (2 * n) longIdentifier n.repr

theorem le_filledLength (n : Nat) : n ≤ filledLength n := by
  induction n with
  | zero => exact le_rfl
  | succ n ih =>
    have hpos : 333 ≤ fillingReservation n := by
      rw [fillingReservation, recordSize]
      omega
    rw [filledLength, fillingSize_eq]
    omega

/-- As long as there is room, the journal is filled. -/
theorem filled_of_room {n : Nat}
    (h : ∀ m < n, filledLength m + fillingSize (2 * m) longIdentifier m.repr ≤ MAX_JOURNAL_BYTES) :
    ∃ calls records, Filled n (worldAfter newYearRuntime asciiLibrary plainPrimitives ⟨[], []⟩ calls)
      records ∧ (worldAfter newYearRuntime asciiLibrary plainPrimitives ⟨[], []⟩ calls).journal.length =
        filledLength n := by
  induction n with
  | zero => exact ⟨[], [], .nil, rfl⟩
  | succ n ih =>
    obtain ⟨calls, records, hfilled, hlength⟩ := ih fun m hm => h m (by omega)
    have hroom := h n (by omega)
    have hn : n < 1000000000 := by
      have hle := le_filledLength n
      rw [MAX_JOURNAL_BYTES] at hroom
      omega
    obtain ⟨records', hfilled', hlength'⟩ := hfilled.turn (isPlain_filling (.inl rfl) hn)
      longIdentifier_ne (hlength ▸ hroom)
    refine ⟨calls ++ [fillingCall longIdentifier n.repr], records', ?_, ?_⟩
    · rwa [worldAfter_snoc]
    · rw [worldAfter_snoc, hlength', hlength]
      rfl

/-- A call that reserves its command and is not completed. -/
theorem not_recordsReserved {calls : List Call} {n : Nat} {records : List JournalRecord}
    {identifier : String} (hplain : IsPlain identifier n.repr zeros) (hne : identifier ≠ "")
    (hfilled : Filled n (worldAfter newYearRuntime asciiLibrary plainPrimitives ⟨[], []⟩ calls) records)
    (hroom : (worldAfter newYearRuntime asciiLibrary plainPrimitives ⟨[], []⟩ calls).journal.length +
      fillingReservation n ≤ MAX_JOURNAL_BYTES)
    (hfull : MAX_JOURNAL_BYTES < (worldAfter newYearRuntime asciiLibrary plainPrimitives ⟨[], []⟩
      calls).journal.length + fillingSize (2 * n) identifier n.repr) :
    ¬ RecordsReserved newYearRuntime asciiLibrary plainPrimitives (history newYearRuntime asciiLibrary
      plainPrimitives ⟨[], []⟩ (calls ++ [fillingCall identifier n.repr])) := by
  intro hall
  have hreserves := reserves_filling hplain hfilled hroom
  have hcompleted := hall _ (mem_history_snoc _ calls _) _ _ _ _ _ _ hreserves
    (makes_filling hplain hne)
  refine hcompleted ?_
  have hcomplete := hreserves.complete_eq (canonicalJson (.obj (fillingReceipt identifier n.repr)))
  rw [if_neg] at hcomplete
  · exact hcomplete
  · rw [hfilled.length]
    exact not_le.mpr hfull

/-- The journal fills up behind a reservation, and the uncertain effect of its command is not
recorded. -/
theorem reserved_effect_not_recorded :
    ¬ ∀ (rt : Runtime) (lib : JsonLibrary) (crypto : Primitives) (calls : List Call),
      RecordsReserved rt lib crypto (history rt lib crypto ⟨[], []⟩ calls) := by
  intro hall
  -- the first filling call for which there is no room
  have hexists : ∃ n, MAX_JOURNAL_BYTES <
      filledLength n + fillingSize (2 * n) longIdentifier n.repr := by
    refine ⟨MAX_JOURNAL_BYTES + 1, ?_⟩
    have hle := le_filledLength (MAX_JOURNAL_BYTES + 1)
    omega
  have hfull := Nat.find_spec hexists
  have hfirst : ∀ m < Nat.find hexists,
      filledLength m + fillingSize (2 * m) longIdentifier m.repr ≤ MAX_JOURNAL_BYTES :=
    fun m hm => not_lt.mp (Nat.find_min hexists hm)
  generalize Nat.find hexists = n at hfull hfirst
  have hbound : ∀ m, filledLength m ≤ MAX_JOURNAL_BYTES → m < 1000000000 := by
    intro m hm
    have hle := le_filledLength m
    rw [MAX_JOURNAL_BYTES] at hm
    omega
  by_cases hroom : filledLength n + fillingReservation n ≤ MAX_JOURNAL_BYTES
  · -- its reservation still has its place
    obtain ⟨calls, records, hfilled, hlength⟩ := filled_of_room hfirst
    exact not_recordsReserved (isPlain_filling (.inl rfl) (hbound n (by omega))) longIdentifier_ne hfilled
      (hlength ▸ hroom) (hlength ▸ hfull) (hall _ _ _ _)
  · -- it has if the call before takes shorter identifiers
    cases n with
    | zero =>
      have hle : fillingReservation 0 ≤ 395 := fillingReservation_le (by omega)
      rw [filledLength, MAX_JOURNAL_BYTES] at hroom
      omega
    | succ m =>
      have hm := hfirst m (by omega)
      have hfilledLength : filledLength (m + 1) =
          filledLength m + fillingSize (2 * m) longIdentifier m.repr := rfl
      have hsaved : fillingSize (2 * m) longIdentifier m.repr =
          fillingSize (2 * m) "A" m.repr + 595 := by
        have hshort : "A".length = 1 := by decide
        rw [fillingSize_eq, fillingSize_eq, fillingCompletion_eq (plain_filling (.inl rfl)),
          fillingCompletion_eq (plain_filling (.inr rfl)), length_longIdentifier, hshort]
        omega
      have hcompletion : 600 ≤ fillingCompletion (2 * (m + 1)) longIdentifier (m + 1).repr := by
        rw [fillingCompletion_eq (plain_filling (.inl rfl)), length_longIdentifier]
        omega
      have hreservation := fillingReservation_le (hbound (m + 1) (by omega))
      obtain ⟨calls, records, hfilled, hlength⟩ := filled_of_room (n := m) fun k hk => hfirst k (by omega)
      obtain ⟨records', hfilled', hlength'⟩ := hfilled.turn
        (isPlain_filling (.inr rfl) (hbound m (by omega))) (by decide) (by omega)
      rw [← worldAfter_snoc] at hfilled' hlength'
      rw [fillingSize_eq] at hfull
      refine not_recordsReserved (isPlain_filling (.inl rfl) (hbound (m + 1) (by omega)))
        longIdentifier_ne hfilled' ?_ ?_ (hall _ _ _ _)
      · omega
      · rw [fillingSize_eq]
        omega

end Run

end DecisionFirewall.Lab
