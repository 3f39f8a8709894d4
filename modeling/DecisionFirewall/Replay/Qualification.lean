import DecisionFirewall.Base.JsonBytes
import DecisionFirewall.Base.Runtime
import DecisionFirewall.Lib.Infix
import DecisionFirewall.Lib.Nesting
import DecisionFirewall.Phase3.Attestation
import DecisionFirewall.Replay.Contracts

/-!
# Qualification of a Case File

`replay/qualification.py`: every nonblank line of a case file becomes a row of the ledger,
accepted or quarantined under a class of its own, unless a line ends the whole pass.

- §1 reading a line
- §2 classes of contract failures
- §3 the ledger
- §4 one line
- §5 the file
-/

namespace DecisionFirewall.Replay

open Phase3 (Bytes)

/-! ## §1 Reading a line -/

/-- Why a line is no JSON value. -/
inductive ParseError where
  /-- `UnicodeDecodeError` -/
  | undecodable
  /-- `_JSONNestingDepthExceeded` -/
  | tooDeep
  /-- `_DuplicateJSONMember`, with the names that occur twice -/
  | duplicateMember (names : List String)
  /-- `json.JSONDecodeError`, or the `ValueError` of a number -/
  | invalid
  deriving DecidableEq, Repr

/-- What qualification takes from outside: the standard library of the contract, `sha256` and
`json.loads` with its two hooks, whose `RecursionError` is `tooDeep`. -/
structure Environment where
  lib : Library
  sha256 : Bytes → String
  loads : String → Except ParseError Json
  sha256_isSha256 : ∀ bytes, IsSha256 (sha256 bytes)

def MAX_JSON_NESTING_DEPTH : Nat := 128

/-- `_json_nesting_depth_exceeded(text)`. -/
def jsonNestingDepthExceeded (text : String) : Bool :=
  Lib.Nesting.exceeds MAX_JSON_NESTING_DEPTH 0 false false text.toList

/-- `payload.decode("utf-8")`. -/
def decodeUtf8 (payload : Bytes) : Option String := String.fromUTF8? ⟨payload.toArray⟩

/-- `_parse_json(payload)`. -/
def parseJson (env : Environment) (payload : Bytes) : Except ParseError Json :=
  match decodeUtf8 payload with
  | none => .error .undecodable
  | some text => if jsonNestingDepthExceeded text then .error .tooDeep else env.loads text

/-- `handle.readline` until the end: every line with its delimiter. A line that is longer than
one read is cut there, and ends the pass. -/
def physicalLines : Bytes → List Bytes
  | [] => []
  | b :: rest =>
    if b = 10 then [b] :: physicalLines rest
    else match physicalLines rest with
      | [] => [[b]]
      | line :: lines => (b :: line) :: lines

/-- `_strip_terminal_line_delimiter(raw)`. -/
def stripTerminalLineDelimiter (raw : Bytes) : Bytes :=
  if [13, 10] <:+ raw then raw.dropLast.dropLast
  else if [10] <:+ raw then raw.dropLast
  else raw

/-- `not payload.strip()`. -/
def isBlankLine (payload : Bytes) : Bool := payload.all fun b => (9 ≤ b && b ≤ 13) || b == 32

/-! ## §2 Classes of contract failures -/

/-- A category and a code. -/
abbrev FailureClass := String × String

/-- A test of `_classify_contract_failure`: in one of the lists all fragments occur. -/
structure Rule where
  fragments : List (List String)
  outcome : Dict → FailureClass

/-- The rule for one class, by one fragment. -/
def Rule.of (fragment : String) (outcome : FailureClass) : Rule := ⟨[[fragment]], fun _ => outcome⟩

/-- The tests in their order. -/
def CLASSIFICATION : List Rule :=
  [.of "missing required fields" ("STRUCTURE", "MISSING_REQUIRED_FIELD"),
    .of "contains unsupported fields" ("STRUCTURE", "UNEXPECTED_FIELD"),
    ⟨[["events exceeds the", "event limit"]], fun _ => ("RESOURCE_LIMIT", "EVENT_COUNT_EXCEEDED")⟩,
    .of ".untrusted_text exceeds the" ("RESOURCE_LIMIT", "UNTRUSTED_TEXT_TOO_LONG"),
    .of ".attributes exceeds the" ("RESOURCE_LIMIT", "ATTRIBUTES_TOO_LARGE"),
    ⟨[["must be an ISO-8601 timestamp"], ["explicit UTC offset"]],
      fun _ => ("SEMANTICS", "INVALID_TIMESTAMP")⟩,
    .of "must be a boolean" ("SEMANTICS", "INVALID_BOOLEAN"),
    .of "must be an integer" ("SEMANTICS", "INVALID_TYPE"),
    .of "must be numeric" ("SEMANTICS", "INVALID_TYPE"),
    .of "must be finite and within [" ("SEMANTICS", "NUMERIC_OUT_OF_RANGE"),
    .of "contains a non-finite JSON number" ("SEMANTICS", "NUMERIC_OUT_OF_RANGE"),
    .of ".source_conflict is not authorized for this source_type"
      ("SEMANTICS", "UNAUTHORIZED_DECISION_SIGNAL"),
    .of "is not authorized for this source_type" ("SEMANTICS", "UNAUTHORIZED_MODELED_SIGNAL"),
    ⟨[[".case_id", "does not match parent case"]],
      fun _ => ("SEMANTICS", "CASE_EVENT_ID_MISMATCH")⟩,
    .of ".collected_at cannot precede observed_at" ("SEMANTICS", "EVENT_TIME_ORDER_INVALID"),
    .of "requires at least one asset_inventory event" ("SEMANTICS", "CANONICAL_CONTEXT_MISSING"),
    .of "asset_inventory attributes must include" ("SEMANTICS", "CANONICAL_CONTEXT_MISSING"),
    ⟨[["Canonical ", " must equal "]], fun _ => ("SEMANTICS", "CANONICAL_CONTEXT_MISMATCH")⟩,
    .of ".entity_refs contains duplicate" ("SEMANTICS", "DUPLICATE_ENTITY_REFERENCE"),
    ⟨[["must be a non-empty string"], ["must match ^"], ["must be an identifier"]],
      fun _ => ("SEMANTICS", "INVALID_IDENTIFIER")⟩,
    ⟨[[".events must be a non-empty array"]], fun record => match record.get "events" with
      | .arr _ => ("SEMANTICS", "EMPTY_REQUIRED_COLLECTION")
      | _ => ("SEMANTICS", "INVALID_TYPE")⟩,
    .of ".integrity must be verified, unverified, or failed" ("SEMANTICS", "INVALID_ENUM_VALUE"),
    ⟨[[".provenance_id must be a string"], ["must be a JSON object"],
        [".entity_refs must be an array"], [".untrusted_text must be a string"],
        [".attributes must contain canonical JSON values"]],
      fun _ => ("SEMANTICS", "INVALID_TYPE")⟩]

/-- The test succeeds. -/
def Rule.fires (rule : Rule) (message : String) : Bool :=
  rule.fragments.any fun all =>
    all.all fun fragment => Lib.occurs fragment.toList message.toList

/-- `_classify_contract_failure(exc, record=record)`. -/
def classifyContractFailure (message : String) (record : Dict) : Option FailureClass :=
  (CLASSIFICATION.find? (·.fires message)).map (·.outcome record)

/-! ## §3 The ledger -/

/-- A row of the ledger. -/
structure LedgerRecord where
  schemaVersion : String
  qualificationRunId : String
  datasetId : String
  sourceRole : String
  sourceFileSha256 : String
  physicalLineNumber : Nat
  nonblankRecordNumber : Nat
  rawLineSha256 : String
  status : String
  errorCategory : String
  errorCode : String
  deriving DecidableEq, Repr

/-- `QualificationFatalError`; a line has both numbers and its digest. -/
structure FatalError where
  errorCategory : String
  errorCode : String
  qualificationRunId : String
  sourceFileSha256 : String
  location : Option (Nat × Nat × String)
  deriving DecidableEq, Repr

/-- The exceptions that end a pass. -/
inductive Abort where
  | fatal (e : FatalError)
  | typeError
  | valueError
  deriving DecidableEq, Repr

/-- `QualificationResult`. -/
structure QualificationResult where
  qualificationRunId : String
  sourceFileSha256 : String
  acceptedRecords : List Json
  accountingRecords : List LedgerRecord
  rejectionRecords : List LedgerRecord

def QUALIFICATION_TAXONOMY_VERSION : String := "1.0.0"

/-- The source that a pass is about. -/
structure Source where
  datasetId : String
  sha256 : String

/-- `_qualification_run_id(…)`; the identifier of a dataset is ASCII. -/
def Source.runId (source : Source) (env : Environment) : String :=
  "qualification-" ++ env.sha256 (Json.encodeAscii (QUALIFICATION_TAXONOMY_VERSION ++ "\n" ++
    source.datasetId ++ "\n" ++ source.sha256).toList)

/-- What a pass has seen. -/
structure State where
  accepted : List Json
  accounting : List LedgerRecord
  rejected : List LedgerRecord
  seenCaseIds : List String
  seenEventIds : List String
  physicalLineNumber : Nat
  nonblankRecordNumber : Nat

def State.start : State := ⟨[], [], [], [], [], 0, 0⟩

/-! ## §4 One line -/

section Line

variable (env : Environment) (source : Source)

/-- `_ledger_record(…)` for the line that the state stands at. -/
def ledgerRecord (s : State) (payload : Bytes) (status errorCategory errorCode : String) :
    LedgerRecord where
  schemaVersion := CONTRACT_VERSION
  qualificationRunId := source.runId env
  datasetId := source.datasetId
  sourceRole := "cases"
  sourceFileSha256 := source.sha256
  physicalLineNumber := s.physicalLineNumber
  nonblankRecordNumber := s.nonblankRecordNumber
  rawLineSha256 := env.sha256 payload
  status := status
  errorCategory := errorCategory
  errorCode := errorCode

/-- `_fatal(…)` without a line. -/
def fatal (errorCategory errorCode : String) : Abort :=
  .fatal ⟨errorCategory, errorCode, source.runId env, source.sha256, none⟩

/-- `_fatal(…)` at the line that the state stands at. -/
def fatalAt (s : State) (payload : Bytes) (failure : FailureClass) : Abort :=
  .fatal ⟨failure.1, failure.2, source.runId env, source.sha256,
    some (s.physicalLineNumber, s.nonblankRecordNumber, env.sha256 payload)⟩

/-- The line is quarantined. -/
def quarantine (s : State) (payload : Bytes) (failure : FailureClass) : State :=
  let row := ledgerRecord env source s payload "QUARANTINED" failure.1 failure.2
  { s with accounting := s.accounting ++ [row], rejected := s.rejected ++ [row] }

/-- The record of the line is accepted. -/
def accept (s : State) (payload : Bytes) (value : Json) : State :=
  { s with
    accepted := s.accepted ++ [value]
    accounting := s.accounting ++ [ledgerRecord env source s payload "ACCEPTED" "" ""] }

/-- `"schema_version" in value and value["schema_version"] != CONTRACT_VERSION`. -/
def unsupportedVersion (value : Dict) : Bool :=
  (value.lookup "schema_version").any fun v => match v with
    | .str s => s != CONTRACT_VERSION
    | _ => true

/-- The text of a member that is a text and not empty. -/
def definedText (value : Dict) (name : String) : Option String :=
  match value.get name with
  | .str s => if s = "" then none else some s
  | _ => none

/-- The identifier that an event defines. -/
def definedEventId : Json → Option String
  | .obj fields => definedText fields "event_id"
  | _ => none

/-- `_identifier_definitions(value)`. -/
def identifierDefinitions (value : Dict) : Option String × List String :=
  (definedText value "case_id", match value.get "events" with
    | .arr events => events.filterMap definedEventId
    | _ => [])

/-- The identifiers of the events, none of which may have been seen; those of one record are
among the seen ones at once. -/
def defineEventIds (seen : List String) : List String → Option (List String)
  | [] => some seen
  | eventId :: rest => if eventId ∈ seen then none else defineEventIds (eventId :: seen) rest

/-- The verdict of the contract on a record whose identifiers are new. -/
def judge (s : State) (payload : Bytes) (record : Dict) : Except Abort State :=
  match validateCaseRecord env.lib (.obj record) with
  | .ok () => .ok (accept env source s payload (.obj record))
  | .error .typeError => .error .typeError
  | .error (.contract v) => match classifyContractFailure (v.message env.lib) record with
    | none => .error (fatalAt env source s payload ("INTERNAL", "UNKNOWN_VALIDATION_FAILURE"))
    | some failure => .ok (quarantine env source s payload failure)

/-- A record, behind the checks of the whole file. -/
def qualifyRecord (s : State) (payload : Bytes) (record : Dict) : Except Abort State :=
  let (caseId, eventIds) := identifierDefinitions record
  if ∃ id ∈ caseId, id ∈ s.seenCaseIds then
    .error (fatalAt env source s payload ("DUPLICATE", "DUPLICATE_CASE_ID"))
  else match defineEventIds s.seenEventIds eventIds with
    | none => .error (fatalAt env source s payload ("DUPLICATE", "DUPLICATE_EVENT_ID"))
    | some seenEventIds =>
      judge env source { s with
        seenCaseIds := caseId.toList ++ s.seenCaseIds
        seenEventIds := seenEventIds } payload record

/-- A parsed line. -/
def qualifyValue (s : State) (payload : Bytes) (value : Json) : Except Abort State :=
  if detectRuntimeLabelLeakage "case" value ≠ [] then
    .error (fatalAt env source s payload ("POLICY", "RUNTIME_LABEL_LEAKAGE"))
  else match value with
    | .obj record =>
      if unsupportedVersion record then
        .error (fatalAt env source s payload ("STRUCTURE", "UNSUPPORTED_SCHEMA_VERSION"))
      else qualifyRecord env source s payload record
    | _ => .ok (quarantine env source s payload ("STRUCTURE", "RECORD_NOT_OBJECT"))

/-- A nonblank line. -/
def qualifyPayload (s : State) (payload : Bytes) : Except Abort State :=
  match parseJson env payload with
  | .error .undecodable => .error (fatalAt env source s payload ("ENCODING", "INVALID_UTF8"))
  | .error .tooDeep =>
    .error (fatalAt env source s payload ("RESOURCE_LIMIT", "JSON_NESTING_DEPTH_EXCEEDED"))
  | .error (.duplicateMember names) =>
    if "case_id" ∈ names then
      .error (fatalAt env source s payload ("DUPLICATE", "DUPLICATE_CASE_ID"))
    else if "event_id" ∈ names then
      .error (fatalAt env source s payload ("DUPLICATE", "DUPLICATE_EVENT_ID"))
    else .ok (quarantine env source s payload ("SYNTAX", "INVALID_JSON"))
  | .error .invalid => .ok (quarantine env source s payload ("SYNTAX", "INVALID_JSON"))
  | .ok value => qualifyValue env source s payload value

/-- One turn of the loop. -/
def qualifyLine (s : State) (raw : Bytes) : Except Abort State :=
  let payload := stripTerminalLineDelimiter raw
  let here := { s with physicalLineNumber := s.physicalLineNumber + 1 }
  let next := { here with nonblankRecordNumber := s.nonblankRecordNumber + 1 }
  if MAX_JSONL_LINE_BYTES < raw.length then
    .error (fatalAt env source next payload ("RESOURCE_LIMIT", "LINE_TOO_LARGE"))
  else if isBlankLine payload then .ok here
  else if MAX_RECORDS_PER_FILE < next.nonblankRecordNumber then
    .error (fatalAt env source next payload ("RESOURCE_LIMIT", "RECORD_COUNT_EXCEEDED"))
  else qualifyPayload env source next payload

/-! ## §5 The file -/

/-- The loop. -/
def qualifyLines (s : State) : List Bytes → Except Abort State
  | [] => .ok s
  | raw :: rest => match qualifyLine env source s raw with
    | .error e => .error e
    | .ok s => qualifyLines s rest

end Line

/-- `qualify_case_bytes(content, source_file_sha256, dataset_id=…)`. -/
def qualifyCaseBytes (env : Environment) (content : Bytes) (sourceFileSha256 datasetId : String) :
    Except Abort QualificationResult :=
  let source : Source := ⟨datasetId, sourceFileSha256⟩
  if ¬ IsIdentifier datasetId then .error .valueError
  else if ¬ IsSha256 sourceFileSha256 then .error .valueError
  else if env.sha256 content ≠ sourceFileSha256 then
    .error (fatal env source "INTERNAL" "SOURCE_DIGEST_MISMATCH")
  else match qualifyLines env source .start (physicalLines content) with
    | .error e => .error e
    | .ok s =>
      -- the lines that were read are hashed again
      if env.sha256 (physicalLines content).flatten ≠ sourceFileSha256 then
        .error (fatal env source "INTERNAL" "SOURCE_DIGEST_MISMATCH")
      else .ok ⟨source.runId env, sourceFileSha256, s.accepted, s.accounting, s.rejected⟩

end DecisionFirewall.Replay
