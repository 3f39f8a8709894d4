import DecisionFirewall.Lab.Contracts

/-!
# The Executor Journal

`ExecutorReplayJournal` of `adf_poc/lab_services.py`: a file of canonical lines, chained by
their digests, that holds the reservation of every command and the receipt of every
completed one. A file that a write has torn is not read again.

- §1 lines of bytes
- §2 records
- §3 reading the file
- §4 the three transactions

The checks of the file's path and identity, its lock and the short reads are ways in which
a transaction ends before it has done anything; the executor meets them as such.
-/

namespace DecisionFirewall.Lab

open Phase3 (Bytes)

/-! ## §1 Lines -/

/-- `bytes.splitlines()` of what follows: `line` is what has been read of the current line,
in reverse, and `afterCr` says that the last line ended with a carriage return. -/
def splitLinesFrom (afterCr : Bool) (line : Bytes) : Bytes → List Bytes
  | [] => if line = [] then [] else [line.reverse]
  | b :: rest =>
    if b = 10 ∧ afterCr = true then splitLinesFrom false [] rest
    else if b = 10 then line.reverse :: splitLinesFrom false [] rest
    else if b = 13 then line.reverse :: splitLinesFrom true [] rest
    else splitLinesFrom false (b :: line) rest

/-- `raw.splitlines()`. -/
def splitLines (raw : Bytes) : List Bytes := splitLinesFrom false [] raw

/-- The text is empty or ends a line with a line feed. -/
def EndsLine (raw : Bytes) : Prop := raw = [] ∨ raw.getLast? = some 10

instance decidableEndsLine (raw : Bytes) : Decidable (EndsLine raw) :=
  inferInstanceAs (Decidable (_ ∨ _))

/-- After a line feed the next line starts afresh. -/
theorem splitLinesFrom_append (afterCr : Bool) (line raw rest : Bytes) :
    splitLinesFrom afterCr line (raw ++ 10 :: rest) =
      splitLinesFrom afterCr line (raw ++ [10]) ++ splitLines rest := by
  induction raw generalizing afterCr line with
  | nil =>
    cases afterCr with
    | false => simp [splitLinesFrom, splitLines]
    | true => simp [splitLinesFrom, splitLines]
  | cons b raw ih =>
    simp only [List.cons_append, splitLinesFrom]
    split_ifs with h₁ h₂ h₃
    · exact ih false []
    · rw [ih false [], List.cons_append]
    · rw [ih true [], List.cons_append]
    · exact ih false (b :: line)

theorem splitLines_append {raw : Bytes} (h : EndsLine raw) (rest : Bytes) :
    splitLines (raw ++ rest) = splitLines raw ++ splitLines rest := by
  rcases h with rfl | h
  · rfl
  · obtain ⟨front, rfl⟩ := List.getLast?_eq_some_iff.mp h
    rw [List.append_assoc, List.singleton_append]
    exact splitLinesFrom_append false [] front rest

/-- A line without line ends is one line. -/
theorem splitLines_line {line : Bytes} (h : ∀ b ∈ line, b ≠ 10 ∧ b ≠ 13) :
    splitLines (line ++ [10]) = [line] := by
  suffices hall : ∀ read : Bytes, splitLinesFrom false read (line ++ [10]) =
      [read.reverse ++ line] from hall []
  intro read
  induction line generalizing read with
  | nil => simp [splitLinesFrom]
  | cons b line ih =>
    obtain ⟨hfeed, hreturn⟩ := h b (by simp)
    simp only [List.cons_append, splitLinesFrom, hfeed, hreturn, false_and, if_false]
    rw [ih (fun c hc => h c (by simp [hc]))]
    simp

/-! ## §2 Records -/

def MAX_JOURNAL_BYTES : Nat := 4 * 1024 * 1024

def JOURNAL_DOMAIN : String := "ADF-LAB-EXECUTOR-JOURNAL\x00v1\x00"

inductive RecordType where
  | reservation
  | completion
  deriving DecidableEq, Repr

def RecordType.text : RecordType → String
  | .reservation => "RESERVATION"
  | .completion => "COMPLETION"

/-- A record without its digest, as it is appended. -/
structure UnsignedRecord where
  sequence : Nat
  recordType : RecordType
  idempotencyKey : String
  commandSha256 : String
  receiptJson : String
  recordedAt : String
  previousSha256 : String
  deriving DecidableEq, Repr

/-- A record as it is read back; nothing reads the time of a record. -/
structure JournalRecord where
  recordType : RecordType
  idempotencyKey : String
  commandSha256 : String
  receiptJson : String
  recordSha256 : String
  deriving DecidableEq, Repr

section Records

variable (rt : Runtime) (lib : JsonLibrary)

/-- `_record_digest(record)`. -/
def recordDigest (record : Dict) : String :=
  rt.sha256 (JOURNAL_DOMAIN ++ canonicalJson (.obj (record.filter fun f => f.1 ≠ "record_sha256")))

namespace UnsignedRecord

def toDict (r : UnsignedRecord) : Dict :=
  [("sequence", .int r.sequence),
    ("record_type", .str r.recordType.text),
    ("idempotency_key", .str r.idempotencyKey),
    ("command_sha256", .str r.commandSha256),
    ("receipt_json", .str r.receiptJson),
    ("recorded_at", .str r.recordedAt),
    ("previous_sha256", .str r.previousSha256)]

/-- The record with its digest. -/
def signed (r : UnsignedRecord) : Dict :=
  r.toDict ++ [("record_sha256", .str (recordDigest rt r.toDict))]

/-- The line that is appended. -/
def payload (r : UnsignedRecord) : Bytes :=
  Json.encodeAscii (Json.obj (r.signed rt)).render ++ [10]

/-- The record as it is read back. -/
def record (r : UnsignedRecord) : JournalRecord where
  recordType := r.recordType
  idempotencyKey := r.idempotencyKey
  commandSha256 := r.commandSha256
  receiptJson := r.receiptJson
  recordSha256 := recordDigest rt r.toDict

end UnsignedRecord

/-- The member names of a record. -/
def recordNames : List String :=
  ["sequence", "record_type", "idempotency_key", "command_sha256", "receipt_json", "recorded_at",
    "previous_sha256", "record_sha256"]

/-- The shape of a record and its place in the chain. -/
def recordOfDict (sequence : Nat) (previous : String) (fields : Dict) : Option JournalRecord :=
  if ¬ ((∀ f ∈ fields, f.1 ∈ recordNames) ∧ ∀ name ∈ recordNames, name ∈ fields.map Prod.fst) then
    none
  else match fields.get "sequence", fields.get "record_type", fields.get "idempotency_key",
      fields.get "command_sha256", fields.get "receipt_json", fields.get "previous_sha256",
      fields.get "record_sha256" with
  | .int n, .str type, .str key, .str command, .str receipt, .str before, .str digest =>
    let recordType := if type = "RESERVATION" then RecordType.reservation else .completion
    if n = sequence ∧ type ∈ ["RESERVATION", "COMPLETION"] ∧ key ≠ "" ∧ IsSha256 command ∧
        (recordType = .reservation ↔ receipt = "") ∧ before = previous ∧
        digest = recordDigest rt fields then
      some ⟨recordType, key, command, receipt, digest⟩
    else none
  | _, _, _, _, _, _, _ => none

/-- One line; `none` is a line that the reader rejects. -/
def readLine (sequence : Nat) (previous : String) (line : Bytes) : Option JournalRecord :=
  match strictJsonLoadsBytes lib line with
  | some (.obj fields) => (recordOfDict rt sequence previous fields).bind fun record =>
    -- the record is canonical
    if line = Json.encodeAscii (Json.obj fields).render then some record else none
  | _ => none

/-- The lines from one place of the chain on. -/
def readLines (sequence : Nat) (previous : String) : List Bytes → Option (List JournalRecord)
  | [] => some []
  | line :: lines => (readLine rt lib sequence previous line).bind fun record =>
    (readLines (sequence + 1) record.recordSha256 lines).map fun records => record :: records

/-! ## §3 Reading the file -/

/-- The second pass: a key is reserved once, then completed once under the same digest. -/
def checkStates (states : String → Option (String × RecordType)) : List JournalRecord → Bool
  | [] => true
  | r :: rs => match r.recordType with
    | .reservation => (states r.idempotencyKey).isNone &&
        checkStates (Function.update states r.idempotencyKey
          (some (r.commandSha256, .reservation))) rs
    | .completion => decide (states r.idempotencyKey = some (r.commandSha256, .reservation)) &&
        checkStates (Function.update states r.idempotencyKey
          (some (r.commandSha256, .completion))) rs

/-- `_read_records`; `none` is `LAB_JOURNAL_CORRUPT`. -/
def readRecords (journal : Bytes) : Option (List JournalRecord) :=
  if MAX_JOURNAL_BYTES < journal.length ∨ ¬ EndsLine journal then none
  else (readLines rt lib 1 ZERO_DIGEST (splitLines journal)).bind fun records =>
    if checkStates (fun _ => none) records then some records else none

/-! ## §4 The transactions -/

/-- `IDENTIFIER.fullmatch(value)`. -/
def IsLabIdentifier (s : String) : Prop :=
  s.toList.length ≤ 128 ∧ (∃ c ∈ s.toList.head?, c.isAlphanum = true) ∧
    ∀ c ∈ s.toList, c.isAlphanum = true ∨ c ∈ ['.', '_', ':', '-']

instance decidableIsLabIdentifier (s : String) : Decidable (IsLabIdentifier s) :=
  inferInstanceAs (Decidable (_ ∧ _ ∧ _))

/-- The arguments that both entry points require. -/
def ArgumentsValid (key digest : String) : Prop := IsLabIdentifier key ∧ IsSha256 digest

instance decidableArgumentsValid (key digest : String) : Decidable (ArgumentsValid key digest) :=
  inferInstanceAs (Decidable (_ ∧ _))

/-- `matches`. -/
def recordsOf (key : String) (records : List JournalRecord) : List JournalRecord :=
  records.filter fun r => r.idempotencyKey = key

/-- What the records say about a command: nothing, its receipt, or why it is refused. -/
def replay (records : List JournalRecord) (key digest : String) : Except String (Option String) :=
  match (recordsOf key records).getLast? with
  | none => .ok none
  | some last =>
    if (recordsOf key records).any fun r => r.commandSha256 ≠ digest then
      .error "LAB_IDEMPOTENCY_CONFLICT"
    else match last.recordType with
      | .completion => .ok (some last.receiptJson)
      | .reservation => .error "LAB_EXECUTOR_RECOVERY_REQUIRED"

/-- `"RESERVATION" in latest_by_key.values()`. -/
def HasOpenReservation (records : List JournalRecord) : Prop :=
  ∃ r ∈ records, ∃ last ∈ (recordsOf r.idempotencyKey records).getLast?,
    last.recordType = .reservation

instance decidableHasOpenReservation (records : List JournalRecord) :
    Decidable (HasOpenReservation records) :=
  decidable_of_iff (records.any (fun r => (recordsOf r.idempotencyKey records).getLast?.any
      fun last => last.recordType = .reservation) = true)
    (by simp [HasOpenReservation, List.any_eq_true, Option.any_eq_true])

/-- `records[-1]["record_sha256"] if records else ZERO_DIGEST`. -/
def lastDigest (records : List JournalRecord) : String :=
  (records.getLast?.map JournalRecord.recordSha256).getD ZERO_DIGEST

/-- What `_append` writes behind the journal. -/
def append (journal : Bytes) (r : UnsignedRecord) : Except String Bytes :=
  if MAX_JOURNAL_BYTES < journal.length + (r.payload rt).length then .error "LAB_JOURNAL_FULL"
  else .ok (r.payload rt)

/-- `replay_if_known(…)`. -/
def replayIfKnown (journal : Bytes) (key digest : String) : Except String (Option String) :=
  if ¬ ArgumentsValid key digest then .error "LAB_SERVICE_CONFIGURATION_INVALID"
  else match readRecords rt lib journal with
    | none => .error "LAB_JOURNAL_CORRUPT"
    | some records => replay records key digest

/-- The reservation behind some records. -/
def reservation (records : List JournalRecord) (key digest recordedAt : String) :
    UnsignedRecord where
  sequence := records.length + 1
  recordType := .reservation
  idempotencyKey := key
  commandSha256 := digest
  receiptJson := ""
  recordedAt := recordedAt
  previousSha256 := lastDigest records

/-- The completion behind some records. -/
def completion (records : List JournalRecord) (key digest receiptJson recordedAt : String) :
    UnsignedRecord :=
  { reservation records key digest recordedAt with
    recordType := .completion
    receiptJson := receiptJson }

/-- How a reservation goes on: with a receipt, or with a line to write. -/
inductive Intake where
  | replayed (receiptJson : String)
  | reserved (payload : Bytes)
  deriving DecidableEq, Repr

/-- `reserve_or_replay(…)`, up to the write. -/
def reserveOrReplay (journal : Bytes) (key digest recordedAt : String) : Except String Intake :=
  if ¬ ArgumentsValid key digest then .error "LAB_SERVICE_CONFIGURATION_INVALID"
  else match readRecords rt lib journal with
    | none => .error "LAB_JOURNAL_CORRUPT"
    | some records => match replay records key digest with
      | .error e => .error e
      | .ok (some receiptJson) => .ok (.replayed receiptJson)
      | .ok none =>
        if HasOpenReservation records then .error "LAB_EXECUTOR_RECOVERY_REQUIRED"
        else (append rt journal (reservation records key digest recordedAt)).map .reserved

/-- `complete(…)`, up to the write. -/
def complete (journal : Bytes) (key digest receiptJson recordedAt : String) :
    Except String Bytes :=
  match readRecords rt lib journal with
  | none => .error "LAB_JOURNAL_CORRUPT"
  | some records => match recordsOf key records with
    | [r] =>
      if r.recordType ≠ .reservation then .error "LAB_JOURNAL_STATE_INVALID"
      else if r.commandSha256 ≠ digest then .error "LAB_IDEMPOTENCY_CONFLICT"
      else append rt journal (completion records key digest receiptJson recordedAt)
    | _ => .error "LAB_JOURNAL_STATE_INVALID"

end Records

end DecisionFirewall.Lab
