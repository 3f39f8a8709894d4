import DecisionFirewall.Replay.Nesting
import DecisionFirewall.Replay.SecureOutput
import DecisionFirewall.Replay.StopConditions
import DecisionFirewall.Replay.Validation

/-!
# Control Documents of Gate B

`replay/gate_b.py` up to the loading of the dataset manifest: what a control document has to pass,
check by check, and the failure that each check raises. A value that is looked up in a set has to
be hashable, and the conversion of a time to UTC has to stay within the calendar; nothing catches
the exceptions of these two.

- §1 failures
- §2 files
- §3 checks of single values
- §4 the manifest
- §5 what the checks raise
- §6 what loading the manifest raises

A path has no character that the system refuses.
-/

namespace DecisionFirewall.Replay.GateB

open Lib (Decimal Raises eachInOrder)
open Phase3 (Bytes)

/-! ## §1 Failures -/

/-- `GateBFailureIdentity`. -/
structure FailureIdentity where
  stage : String
  controlId : String
  reasonCode : String
  deriving DecidableEq, Repr

def UNCLASSIFIED_GATE_B_FAILURE_IDENTITY : FailureIdentity :=
  ⟨"UNCLASSIFIED", "GB.UNCLASSIFIED", "UNCLASSIFIED"⟩

def AUTHORIZATION_STATUS_FAILURE : FailureIdentity :=
  ⟨"AUTHORIZATION_METADATA", "GB.AUTH.STATUS_APPROVED", "NOT_APPROVED"⟩

def AUTHORIZATION_NOT_YET_VALID_FAILURE : FailureIdentity :=
  ⟨"AUTHORIZATION_VALIDITY", "GB.AUTH.CURRENT_INTERVAL", "NOT_YET_VALID"⟩

def AUTHORIZATION_EXPIRED_FAILURE : FailureIdentity :=
  ⟨"AUTHORIZATION_VALIDITY", "GB.AUTH.CURRENT_INTERVAL", "EXPIRED"⟩

def APPROVAL_ROLE_COUNT_FAILURE : FailureIdentity :=
  ⟨"APPROVAL_SET", "GB.APPROVAL.REQUIRED_ROLE_COUNT", "CARDINALITY_MISMATCH"⟩

def APPROVAL_ROLE_MEMBERSHIP_FAILURE : FailureIdentity :=
  ⟨"APPROVAL_SET", "GB.APPROVAL.ROLE_MEMBERSHIP", "UNSUPPORTED_VALUE"⟩

def APPROVAL_ROLE_UNIQUENESS_FAILURE : FailureIdentity :=
  ⟨"APPROVAL_SET", "GB.APPROVAL.ROLE_UNIQUENESS", "DUPLICATE_VALUE"⟩

def CUSTODY_FREEZE_FAILURE : FailureIdentity :=
  ⟨"CUSTODY", "GB.CUSTODY.FROZEN_AFTER_WINDOW", "FREEZE_BEFORE_WINDOW_END"⟩

def INDEPENDENT_REVIEW_IDENTITY_FAILURE : FailureIdentity :=
  ⟨"INDEPENDENT_REVIEW", "GB.REVIEW.INDEPENDENT_IDENTITY", "IDENTITY_COLLISION"⟩

def OVERALL_QUARANTINE_RATE_FAILURE : FailureIdentity :=
  ⟨"POSTQUALIFICATION_STOP", "GB.STOP.OVERALL_QUARANTINE_RATE", "THRESHOLD_EXCEEDED"⟩

/-- In the order of their names, as every list below that stands for a set. -/
def REQUIRED_APPROVAL_ROLES : List String :=
  ["DATA_OWNER", "MISSION_OWNER", "PRIVACY_LEGAL", "RECORDS_MANAGEMENT", "SECURITY"]

def REQUIRED_ARTIFACT_ROLES : List String :=
  ["ADJUDICATION_PROTOCOL", "PILOT_PROTOCOL", "SOURCE_MAPPING"]

/-- The keys of `ARTIFACT_DIGEST_FAILURE_BY_ROLE`. -/
def DIGEST_ROLES : List String := ["MANIFEST", "MODEL", "POLICY"] ++ REQUIRED_ARTIFACT_ROLES

/-- `ARTIFACT_DIGEST_FAILURE_BY_ROLE[role]`. -/
def artifactDigestFailure (role : String) : FailureIdentity :=
  ⟨"ARTIFACT_BINDING", "GB.BINDING." ++ role ++ "_SHA256", "DIGEST_MISMATCH"⟩

/-- `sorted(REQUIRED_TRUE_CONTROL_FAILURE_BY_FIELD)`. -/
def REQUIRED_TRUE_CONTROLS : List String :=
  ["complete_intake_reporting", "direct_identifiers_removed", "network_egress_disabled",
    "offline_only", "reidentification_risk_reviewed", "restricted_hash_handling",
    "runtime_labels_separated"]

/-- `REQUIRED_TRUE_CONTROL_FAILURE_BY_FIELD[field]`. -/
def requiredTrueControlFailure (field : String) : FailureIdentity :=
  ⟨"DECLARED_RUNTIME_CONTROLS", "GB.CONTROL." ++ field.toUpper, "REQUIRED_TRUE_MISSING"⟩

/-- `REQUIRED_FALSE_CONTROL_FAILURE_BY_FIELD`, in the order of its keys. -/
def REQUIRED_FALSE_CONTROL_FAILURE_BY_FIELD : List (String × FailureIdentity) :=
  [("action_credentials_present",
      ⟨"DECLARED_RUNTIME_CONTROLS", "GB.CONTROL.ACTION_CREDENTIALS_ABSENT", "PROHIBITED_TRUE"⟩),
    ("live_feed_connected",
      ⟨"DECLARED_RUNTIME_CONTROLS", "GB.CONTROL.LIVE_FEED_ABSENT", "PROHIBITED_TRUE"⟩),
    ("write_capable_connectors_present",
      ⟨"DECLARED_RUNTIME_CONTROLS", "GB.CONTROL.WRITE_CONNECTOR_ABSENT", "PROHIBITED_TRUE"⟩)]

def CLASSIFIED_GATE_B_FAILURE_IDENTITIES : List FailureIdentity :=
  [AUTHORIZATION_STATUS_FAILURE, AUTHORIZATION_NOT_YET_VALID_FAILURE,
    AUTHORIZATION_EXPIRED_FAILURE, APPROVAL_ROLE_COUNT_FAILURE, APPROVAL_ROLE_MEMBERSHIP_FAILURE,
    APPROVAL_ROLE_UNIQUENESS_FAILURE, CUSTODY_FREEZE_FAILURE,
    INDEPENDENT_REVIEW_IDENTITY_FAILURE, OVERALL_QUARANTINE_RATE_FAILURE] ++
    DIGEST_ROLES.map artifactDigestFailure ++
    REQUIRED_TRUE_CONTROLS.map requiredTrueControlFailure ++
    REQUIRED_FALSE_CONTROL_FAILURE_BY_FIELD.map Prod.snd

/-- An exception: a `GateBValidationError` with its text and identity, or one of another type. -/
inductive Exception where
  | validation (message : String) (identity : FailureIdentity)
  /-- `TypeError`: a value that cannot be hashed -/
  | typeError
  /-- `OverflowError`: a time outside the calendar -/
  | overflowError
  /-- `OSError` or `RuntimeError`: the file system does not answer -/
  | fileSystem
  /-- `ValueError`: a classified failure without a registered identity -/
  | valueError
  deriving DecidableEq, Repr

/-- The declared way to fail. -/
def Exception.IsGateBValidationError : Exception → Prop
  | .validation _ _ => True
  | _ => False

/-- `GateBValidationError(message)`. -/
def failure (message : String) : Exception :=
  .validation message UNCLASSIFIED_GATE_B_FAILURE_IDENTITY

/-- `GateBValidationError.classified(message, identity)`. -/
def classified (message : String) (identity : FailureIdentity) : Exception :=
  if identity ∈ CLASSIFIED_GATE_B_FAILURE_IDENTITIES then .validation message identity
  else .valueError

/-- What may raise one of the exceptions. -/
abbrev Guarded (α : Type) := Except Exception α

/-- `if not condition: raise`. -/
def require (condition : Prop) [Decidable condition] (e : Exception) : Guarded Unit :=
  if condition then .ok () else .error e

/-! ## §2 Files -/

/-- What `os.open`, `os.fstat` and `os.read` make of a path. -/
inductive Opened where
  /-- an `OSError` -/
  | unreadable
  /-- no regular file, or one with other links -/
  | irregular
  | regular (content : Bytes)
  /-- a regular file that changes while it is read -/
  | changing (content : Bytes)

/-- The file system, as far as the loaders ask it; `none` is an exception. -/
structure FileSystem where
  opened : String → Opened
  /-- `path.resolve()` -/
  resolve : String → Option String
  /-- `path.is_symlink()` -/
  isSymlink : String → Option Bool
  /-- `path.exists()` and `path.is_file()` -/
  isFile : String → Option Bool

def MAX_CONTROL_DOCUMENT_BYTES : Nat := 1024 * 1024

def MAX_GATE_B_ARTIFACT_BYTES : Nat := 2 * 1024 * 1024

def MAX_GATE_B_MODEL_POLICY_BYTES : Nat := 64 * 1024 * 1024

/-- An answer of the file system. -/
def answer {α : Type} : Option α → Guarded α
  | some a => .ok a
  | none => .error .fileSystem

/-- A control document: its members, its digest and its bytes. -/
structure Document where
  value : Dict
  sourceSha256 : String
  sourceBytes : Bytes

section Files

variable (env : Environment) (fs : FileSystem)

/-- `_read_bounded_regular_file(path, label=…, maximum=…)`. -/
def readBoundedRegularFile (path label : String) (maximum : Nat) : Guarded Bytes :=
  let file := "The bound " ++ label ++ " file "
  match fs.opened path with
  | .unreadable => .error (failure ("Unable to read the bound " ++ label ++ " file."))
  | .irregular => .error (failure (file ++ "is not an exclusive regular file."))
  | .regular content =>
    if maximum < content.length then .error (failure (file ++ "exceeds its size limit."))
    else .ok content
  | .changing content =>
    if maximum < content.length then .error (failure (file ++ "exceeds its size limit."))
    else .error (failure (file ++ "changed while it was read."))

/-- `_safe_file_bytes_and_digest(path, label, maximum=…)`. -/
def safeFileBytesAndDigest (path label : String) (maximum : Nat) : Guarded (Bytes × String) := do
  let raw ← readBoundedRegularFile fs path label maximum
  return (raw, env.sha256 raw)

/-- The decoding of a control document. -/
def parseControlDocument (raw : Bytes) : Except ParseError Json :=
  match decodeUtf8 raw with
  | none => .error .undecodable
  | some text => if jsonNestingDepthExceeded text then .error .tooDeep else env.loads text

/-- `_load_bounded_json_object(path, label=…)`. -/
def loadBoundedJsonObject (path label : String) : Guarded Document := do
  let raw ← readBoundedRegularFile fs path (label ++ " control document")
    MAX_CONTROL_DOCUMENT_BYTES
  match parseControlDocument env raw with
  | .error .tooDeep =>
    .error (failure ("The " ++ label ++ " control document exceeds the JSON nesting limit."))
  | .error _ => .error (failure ("The " ++ label ++ " control document is not valid UTF-8 JSON."))
  | .ok (.obj value) => .ok ⟨value, env.sha256 raw, raw⟩
  | .ok _ => .error (failure ("The " ++ label ++ " control document must be a JSON object."))

end Files

/-! ## §3 Checks of single values -/

def MAX_TEXT_CHARS : Nat := 2048

/-- The value is this text. -/
def isText (value : Json) (text : String) : Bool :=
  match value with
  | .str s => s == text
  | _ => false

/-- `_exact_fields(value, required, label)`. -/
def exactFields (value : Json) (required : List String) (label : String) : Guarded Dict :=
  match value with
  | .obj fields =>
    let names := fields.map Prod.fst
    let missing := required.filter fun name => name ∉ names
    if missing ≠ [] then
      .error (failure (label ++ " is missing required fields: " ++ ", ".intercalate missing ++ "."))
    else if (names.filter fun name => name ∉ required) ≠ [] then
      .error (failure (label ++ " contains unsupported fields."))
    else .ok fields
  | _ => .error (failure (label ++ " must be an object."))

/-- `_nonempty(value, label)`. -/
def nonempty (value : Json) (label : String) : Guarded String :=
  match value with
  | .str s =>
    if isBlank s ∨ MAX_TEXT_CHARS < s.toList.length then
      .error (failure (label ++ " must be a bounded non-empty string."))
    else .ok s
  | _ => .error (failure (label ++ " must be a bounded non-empty string."))

/-- `_PATH_COMPONENT_PATTERN.fullmatch(part)`. -/
def isPathComponent (part : String) : Bool :=
  part.toList.head?.any Char.isAlphanum &&
    part.toList.all fun c => c.isAlphanum || c == '.' || c == '_' || c == '-'

/-- `PurePosixPath(raw).parts` of a path that is not absolute. -/
def pathParts (raw : String) : List String :=
  (splitPath raw).filter fun part => part ≠ "" ∧ part ≠ "."

/-- `_confined_relative_path(value, label)`. -/
def confinedRelativePath (value : Json) (label : String) : Guarded String := do
  let candidate ← nonempty value label
  require (candidate.toList.length ≤ 512 ∧ '\\' ∉ candidate.toList ∧ candidate = asPosix candidate ∧
      ¬ ['/'] <+: candidate.toList ∧ (∀ part ∈ pathParts candidate, part ∉ ["", ".", ".."]) ∧
        ∀ part ∈ pathParts candidate, isPathComponent part = true)
    (failure (label ++ " must be a confined relative path."))
  return candidate

/-- `_identifier(value, label)`. -/
def identifier (value : Json) (label : String) : Guarded String := do
  let candidate ← nonempty value label
  require (IsIdentifier candidate) (failure (label ++ " must be a canonical identifier."))
  return candidate

/-- `"0" * 64`. -/
def PLACEHOLDER_DIGEST : String := "0000000000000000000000000000000000000000000000000000000000000000"

/-- `_sha256(value, label, allow_placeholder=…)`. -/
def sha256Text (value : Json) (label : String) (allowPlaceholder : Bool) : Guarded String :=
  match value with
  | .str s =>
    if ¬ IsSha256 s then .error (failure (label ++ " must be a lowercase SHA-256 digest."))
    else if allowPlaceholder = false ∧ s = PLACEHOLDER_DIGEST then
      .error (failure (label ++ " cannot use a placeholder digest."))
    else .ok s
  | _ => .error (failure (label ++ " must be a lowercase SHA-256 digest."))

/-- `_boolean(value, label)`. -/
def boolean (value : Json) (label : String) : Guarded Bool :=
  match value with
  | .bool b => .ok b
  | _ => .error (failure (label ++ " must be a boolean."))

/-- `_rate(value, label)`, under its failure. -/
def rateOf (value : Json) (label : String) : Guarded Decimal :=
  match rate value label with
  | .ok candidate => .ok candidate
  | .error e => .error (failure e.message)

/-- `value in allowed`, for a set of texts. -/
def isMember (value : Json) (allowed : List String) : Guarded Bool :=
  match value with
  | .str s => .ok (decide (s ∈ allowed))
  | .arr _ | .obj _ => .error .typeError
  | _ => .ok false

/-- `datetime.max` in UTC. -/
def MAX_MOMENT : Int := 315537897599999999

/-- `value[:-1] + "+00:00" if value.endswith(("Z", "z")) else value`. -/
def zuluOffset (value : String) : String :=
  if value.toList.getLast? = some 'Z' ∨ value.toList.getLast? = some 'z' then
    String.ofList (value.toList.dropLast ++ "+00:00".toList)
  else value

section Values

variable (lib : Library)

/-- `_integer(value, label, minimum=…)`. -/
def integer (value : Json) (label : String) (minimum : Int) : Guarded Int :=
  let refused := failure (label ++ " must be an integer greater than or equal to " ++
    toString minimum ++ ".")
  match value with
  | .int n => if minimum ≤ n then .ok n else .error refused
  | .float repr => match lib.floatValue repr with
    | some x => if x.den = 1 ∧ minimum ≤ x.num then .ok x.num else .error refused
    | none => .error refused
  | _ => .error refused

/-- `_timestamp(value, label)`. -/
def timestamp (value : Json) (label : String) : Guarded Int :=
  match value with
  | .str s =>
    if s = "" then .error (failure (label ++ " must be an ISO-8601 timestamp with a UTC offset."))
    else match lib.fromisoformat (zuluOffset s) with
      | none => .error (failure (label ++ " must be an ISO-8601 timestamp with a UTC offset."))
      | some .naive => .error (failure (label ++ " must include an explicit UTC offset."))
      | some (.aware instant) =>
        -- `parsed.astimezone(timezone.utc)`
        if 0 ≤ instant ∧ instant ≤ MAX_MOMENT then .ok instant else .error .overflowError
  | _ => .error (failure (label ++ " must be an ISO-8601 timestamp with a UTC offset."))

end Values

/-! ## §4 The manifest -/

def ALLOWED_REPLAY_MODES : List String := ["HISTORICAL_REPLAY", "SHADOW_READ_ONLY"]

def ALLOWED_DATA_ORIGINS : List String :=
  ["HISTORICAL_DEIDENTIFIED", "SHADOW_TELEMETRY_DEIDENTIFIED", "SYNTHETIC_FIXTURE"]

def MANIFEST_FIELDS : List String :=
  ["attestations", "created_at", "data_origin", "dataset_id", "files", "historical_case_count",
    "intended_mode", "schema_version"]

def FILE_ENTRY_FIELDS : List String := ["adapter", "path", "record_count", "role", "sha256"]

/-- `ManifestControl`. -/
structure ManifestControl where
  path : String
  sourceSha256 : String
  sourceBytes : Bytes
  datasetId : String
  dataOrigin : String
  historicalCaseCount : Int
  intendedMode : String
  casesRecordCount : Int

/-- The entries read so far: their roles, their paths, and the number of cases. -/
structure Entries where
  roles : List String
  paths : List String
  casesRecordCount : Option Int

/-- `manifest.get(name)`, which is to be in a set. -/
def allowedText (value : Json) (allowed : List String) (message : String) : Guarded String := do
  let known ← isMember value allowed
  match value, known with
  | .str s, true => .ok s
  | _, _ => .error (failure message)

section Manifest

variable (lib : Library)

/-- The head of the manifest, before its origin. -/
def manifestHead (value : Dict) : Guarded String := do
  let _ ← exactFields (.obj value) MANIFEST_FIELDS "dataset manifest"
  require (isText (value.get "schema_version") CONTRACT_VERSION = true)
    (failure "dataset manifest.schema_version is unsupported.")
  identifier (value.get "dataset_id") "dataset manifest.dataset_id"

/-- One entry of the files. -/
def manifestFile (dataOrigin : String) (index : Nat) (s : Entries) (rawEntry : Json) :
    Guarded Entries := do
  let label := "dataset manifest.files[" ++ toString index ++ "]"
  let entry ← exactFields rawEntry FILE_ENTRY_FIELDS label
  let role ← identifier (entry.get "role") (label ++ ".role")
  require (role ∈ ["adjudications", "cases"] ∧ role ∉ s.roles)
    (failure "dataset manifest file roles are unsupported or duplicated.")
  let declaredPath ← confinedRelativePath (entry.get "path") (label ++ ".path")
  require (declaredPath ∉ s.paths)
    (failure "dataset manifest file paths must be physically distinct.")
  let _ ← sha256Text (entry.get "sha256") (label ++ ".sha256")
    (decide (dataOrigin ≠ "HISTORICAL_DEIDENTIFIED"))
  let recordCount ← integer lib (entry.get "record_count") (label ++ ".record_count") 0
  require (recordCount ≤ MAX_RECORDS_PER_FILE)
    (failure "dataset manifest declares too many records.")
  require (isText (entry.get "adapter") "canonical_jsonl_v0.2" = true)
    (failure "dataset manifest declares an unsupported adapter.")
  return ⟨s.roles ++ [role], s.paths ++ [declaredPath],
    if role = "cases" then some recordCount else s.casesRecordCount⟩

/-- `files`: a non-empty array. -/
def manifestFiles (dataOrigin : String) (value : Json) : Guarded Entries :=
  match value with
  | .arr (rawEntry :: rest) =>
    eachInOrder (manifestFile lib dataOrigin) 0 ⟨[], [], none⟩ (rawEntry :: rest)
  | _ => .error (failure "dataset manifest.files must be a non-empty array.")

/-- What is required of the files together; the number of cases. -/
def manifestCounts (dataOrigin intendedMode : String) (historicalCaseCount : Int)
    (entries : Entries) : Guarded Int :=
  match entries.casesRecordCount with
  | none => .error (failure "dataset manifest does not declare the cases role.")
  | some casesRecordCount =>
    if dataOrigin ≠ "HISTORICAL_DEIDENTIFIED" then .ok casesRecordCount
    else if intendedMode ≠ "HISTORICAL_REPLAY" then
      .error (failure "Historical data requires HISTORICAL_REPLAY.")
    else if "adjudications" ∉ entries.roles then
      .error (failure "Historical replay requires separate adjudications.")
    else if historicalCaseCount ≠ casesRecordCount then
      .error (failure "Historical case count must equal the declared cases record count.")
    else .ok casesRecordCount

end Manifest

/-- `load_manifest_control(path)`. -/
def loadManifestControl (env : Environment) (fs : FileSystem) (path : String) :
    Guarded ManifestControl := do
  let target ← answer (fs.resolve path)
  let document ← loadBoundedJsonObject env fs target "dataset manifest"
  let value := document.value
  let datasetId ← manifestHead value
  let dataOrigin ← allowedText (value.get "data_origin") ALLOWED_DATA_ORIGINS
    "dataset manifest.data_origin is unsupported."
  let historicalCaseCount ← integer env.lib (value.get "historical_case_count")
    "dataset manifest.historical_case_count" 0
  let intendedMode ← allowedText (value.get "intended_mode") ALLOWED_REPLAY_MODES
    "dataset manifest.intended_mode is unsupported."
  let _ ← timestamp env.lib (value.get "created_at") "dataset manifest.created_at"
  let entries ← manifestFiles env.lib dataOrigin (value.get "files")
  let casesRecordCount ← manifestCounts dataOrigin intendedMode historicalCaseCount entries
  return ⟨target, document.sourceSha256, document.sourceBytes, datasetId, dataOrigin,
    historicalCaseCount, intendedMode, casesRecordCount⟩

/-! ## §5 What the checks raise -/

section Checks

open Exception (IsGateBValidationError)

variable {value : Json} {label : String} {lib : Library} {env : Environment} {fs : FileSystem}

@[simp] theorem isGateBValidationError_failure (message : String) :
    (failure message).IsGateBValidationError := trivial

/-- A classified failure is raised as such where its identity is registered. -/
theorem isGateBValidationError_classified {message : String} {identity : FailureIdentity}
    (h : identity ∈ CLASSIFIED_GATE_B_FAILURE_IDENTITIES) :
    (classified message identity).IsGateBValidationError := by
  rw [classified, if_pos h]
  trivial

theorem raises_require {condition : Prop} [Decidable condition] {e : Exception}
    (h : e.IsGateBValidationError) : Raises IsGateBValidationError (require condition e) := by
  unfold require
  split
  · exact Raises.ok ()
  · exact Raises.error_iff.mpr h

@[simp] theorem raises_require_failure {condition : Prop} [Decidable condition]
    (message : String) : Raises IsGateBValidationError (require condition (failure message)) :=
  raises_require trivial

theorem raises_require_classified {condition : Prop} [Decidable condition] {message : String}
    {identity : FailureIdentity} (h : identity ∈ CLASSIFIED_GATE_B_FAILURE_IDENTITIES) :
    Raises IsGateBValidationError (require condition (classified message identity)) :=
  raises_require (isGateBValidationError_classified h)

theorem raises_answer_iff {α : Type} {reply : Option α} :
    Raises IsGateBValidationError (answer reply) ↔ ∃ a, reply = some a := by
  cases reply with
  | none => exact iff_of_false (fun h => Raises.error_iff.mp h) fun ⟨_, h⟩ => (by cases h)
  | some a => exact iff_of_true (Raises.ok a) ⟨a, rfl⟩

theorem answer_eq_ok {α : Type} {reply : Option α} {a : α} :
    answer reply = .ok a ↔ reply = some a := by
  cases reply with
  | none => exact iff_of_false (fun h => by cases h) fun h => by cases h
  | some b => exact ⟨fun h => congrArg some (Except.ok.inj h), fun h => congrArg Except.ok (Option.some.inj h)⟩

theorem raises_readBoundedRegularFile {path : String} {maximum : Nat} :
    Raises IsGateBValidationError (readBoundedRegularFile fs path label maximum) := by
  unfold readBoundedRegularFile
  dsimp only
  split
  · exact Raises.error_iff.mpr trivial
  · exact Raises.error_iff.mpr trivial
  · split
    · exact Raises.error_iff.mpr trivial
    · exact Raises.ok _
  · split
    · exact Raises.error_iff.mpr trivial
    · exact Raises.error_iff.mpr trivial

theorem raises_safeFileBytesAndDigest {path : String} {maximum : Nat} :
    Raises IsGateBValidationError (safeFileBytesAndDigest env fs path label maximum) :=
  Raises.bind raises_readBoundedRegularFile fun _ _ => Raises.pure _

/-- The bytes of a control document never matter: its decoding is caught whatever it raises. -/
theorem raises_loadBoundedJsonObject {path : String} :
    Raises IsGateBValidationError (loadBoundedJsonObject env fs path label) := by
  refine Raises.bind raises_readBoundedRegularFile fun raw _ => ?_
  split
  · exact Raises.error_iff.mpr trivial
  · exact Raises.error_iff.mpr trivial
  · exact Raises.ok _
  · exact Raises.error_iff.mpr trivial

@[simp] theorem raises_exactFields (required : List String) :
    Raises IsGateBValidationError (exactFields value required label) := by
  unfold exactFields
  cases value with
  | obj fields =>
    dsimp only
    split_ifs
    · exact Raises.error_iff.mpr trivial
    · exact Raises.error_iff.mpr trivial
    · exact Raises.ok _
  | null | bool | int | float | str | arr => exact Raises.error_iff.mpr trivial

@[simp] theorem raises_nonempty : Raises IsGateBValidationError (nonempty value label) := by
  unfold nonempty
  cases value with
  | str s =>
    dsimp only
    split_ifs
    · exact Raises.error_iff.mpr trivial
    · exact Raises.ok _
  | null | bool | int | float | arr | obj => exact Raises.error_iff.mpr trivial

@[simp] theorem raises_confinedRelativePath :
    Raises IsGateBValidationError (confinedRelativePath value label) := by
  refine Raises.bind raises_nonempty fun candidate _ => ?_
  exact Raises.bind (raises_require_failure _) fun _ _ => Raises.pure _

@[simp] theorem raises_identifier : Raises IsGateBValidationError (identifier value label) := by
  refine Raises.bind raises_nonempty fun candidate _ => ?_
  exact Raises.bind (raises_require_failure _) fun _ _ => Raises.pure _

@[simp] theorem raises_sha256Text (allowPlaceholder : Bool) :
    Raises IsGateBValidationError (sha256Text value label allowPlaceholder) := by
  unfold sha256Text
  cases value with
  | str s =>
    dsimp only
    split_ifs <;> first | exact Raises.ok _ | exact Raises.error_iff.mpr trivial
  | null | bool | int | float | arr | obj => exact Raises.error_iff.mpr trivial

@[simp] theorem raises_boolean : Raises IsGateBValidationError (boolean value label) := by
  cases value with
  | bool b => exact Raises.ok b
  | null | int | float | str | arr | obj => exact Raises.error_iff.mpr trivial

@[simp] theorem raises_rateOf : Raises IsGateBValidationError (rateOf value label) := by
  unfold rateOf
  split
  · exact Raises.ok _
  · exact Raises.error_iff.mpr trivial

@[simp] theorem raises_integer (minimum : Int) :
    Raises IsGateBValidationError (integer lib value label minimum) := by
  unfold integer
  cases value with
  | int n =>
    dsimp only
    split
    · exact Raises.ok _
    · exact Raises.error_iff.mpr trivial
  | float repr =>
    dsimp only
    split
    · split
      · exact Raises.ok _
      · exact Raises.error_iff.mpr trivial
    · exact Raises.error_iff.mpr trivial
  | null | bool | str | arr | obj => exact Raises.error_iff.mpr trivial

/-- The lookup in a set raises on the values that cannot be hashed. -/
theorem raises_isMember_iff {allowed : List String} :
    Raises IsGateBValidationError (isMember value allowed) ↔ ¬ Unhashable value := by
  cases value with
  | arr | obj => exact iff_of_false (fun h => Raises.error_iff.mp h) fun h => h trivial
  | null | bool | int | float | str => exact iff_of_true (Raises.ok _) fun h => h

theorem raises_allowedText_iff {allowed : List String} {message : String} :
    Raises IsGateBValidationError (allowedText value allowed message) ↔ ¬ Unhashable value := by
  unfold allowedText
  rw [Raises.bind_iff, raises_isMember_iff]
  refine and_iff_left fun known _ => ?_
  split
  · exact Raises.ok _
  · exact Raises.error_iff.mpr trivial

/-- The text of a time that no calendar has in UTC. -/
def LeavesCalendar (lib : Library) (value : Json) : Prop :=
  ∃ s instant, value = .str s ∧ s ≠ "" ∧ lib.fromisoformat (zuluOffset s) = some (.aware instant) ∧
    ¬ (0 ≤ instant ∧ instant ≤ MAX_MOMENT)

/-- A time is converted unless it leaves the calendar. -/
theorem raises_timestamp_iff :
    Raises IsGateBValidationError (timestamp lib value label) ↔ ¬ LeavesCalendar lib value := by
  cases value with
  | str s =>
    unfold timestamp
    dsimp only
    by_cases hempty : s = ""
    · rw [if_pos hempty]
      refine iff_of_true (Raises.error_iff.mpr trivial) ?_
      rintro ⟨s', instant, heq, hne, -⟩
      exact hne (Json.str.inj heq ▸ hempty)
    · rw [if_neg hempty]
      have honly : LeavesCalendar lib (.str s) ↔ ∃ instant,
          lib.fromisoformat (zuluOffset s) = some (.aware instant) ∧
            ¬ (0 ≤ instant ∧ instant ≤ MAX_MOMENT) := by
        constructor
        · rintro ⟨s', instant, heq, -, hread, hout⟩
          exact ⟨instant, Json.str.inj heq ▸ hread, hout⟩
        · rintro ⟨instant, hread, hout⟩
          exact ⟨s, instant, rfl, hempty, hread, hout⟩
      rw [honly]
      cases lib.fromisoformat (zuluOffset s) with
      | none => exact iff_of_true (Raises.error_iff.mpr trivial) fun ⟨_, h, _⟩ => (by cases h)
      | some moment =>
        cases moment with
        | naive => exact iff_of_true (Raises.error_iff.mpr trivial) fun ⟨_, h, _⟩ => (by cases h)
        | aware instant =>
          dsimp only
          by_cases hin : 0 ≤ instant ∧ instant ≤ MAX_MOMENT
          · rw [if_pos hin]
            refine iff_of_true (Raises.ok _) ?_
            rintro ⟨instant', ⟨⟩, hout⟩
            exact hout hin
          · rw [if_neg hin]
            exact iff_of_false (fun h => Raises.error_iff.mp h) fun h => h ⟨instant, rfl, hin⟩
  | null | bool | int | float | arr | obj =>
    refine iff_of_true (Raises.error_iff.mpr trivial) ?_
    rintro ⟨s, instant, heq, -⟩
    cases heq

end Checks

/-! ## §6 What loading the manifest raises -/

section Manifest

open Exception (IsGateBValidationError)

variable {lib : Library} {value : Json} {fields : Dict} {dataOrigin intendedMode : String}

theorem raises_manifestHead : Raises IsGateBValidationError (manifestHead fields) := by
  refine Raises.bind (raises_exactFields _) fun _ _ => ?_
  exact Raises.bind (raises_require_failure _) fun _ _ => raises_identifier

theorem raises_manifestFile {index : Nat} {s : Entries} {rawEntry : Json} :
    Raises IsGateBValidationError (manifestFile lib dataOrigin index s rawEntry) := by
  refine Raises.bind (raises_exactFields _) fun entry _ => ?_
  refine Raises.bind raises_identifier fun role _ => ?_
  refine Raises.bind (raises_require_failure _) fun _ _ => ?_
  refine Raises.bind raises_confinedRelativePath fun declaredPath _ => ?_
  refine Raises.bind (raises_require_failure _) fun _ _ => ?_
  refine Raises.bind (raises_sha256Text _) fun _ _ => ?_
  refine Raises.bind (raises_integer _) fun recordCount _ => ?_
  refine Raises.bind (raises_require_failure _) fun _ _ => ?_
  exact Raises.bind (raises_require_failure _) fun _ _ => Raises.pure _

theorem raises_manifestFiles :
    Raises IsGateBValidationError (manifestFiles lib dataOrigin value) := by
  unfold manifestFiles
  split
  · exact Lib.raises_eachInOrder_iff.mpr fun _ _ _ _ _ _ => raises_manifestFile
  · exact Raises.error_iff.mpr trivial

theorem raises_manifestCounts {historicalCaseCount : Int} {entries : Entries} :
    Raises IsGateBValidationError
      (manifestCounts dataOrigin intendedMode historicalCaseCount entries) := by
  unfold manifestCounts
  split
  · exact Raises.error_iff.mpr trivial
  · split_ifs <;> first | exact Raises.ok _ | exact Raises.error_iff.mpr trivial

/-- As far as the checks pass, the origin and the mode of the manifest can be hashed, and its
time stays within the calendar. -/
def ManifestReads (env : Environment) (fs : FileSystem) (path : String) : Prop :=
  ∃ target, fs.resolve path = some target ∧
    ∀ document, loadBoundedJsonObject env fs target "dataset manifest" = .ok document →
    ∀ datasetId, manifestHead document.value = .ok datasetId →
      ¬ Unhashable (document.value.get "data_origin") ∧
    ∀ dataOrigin, allowedText (document.value.get "data_origin") ALLOWED_DATA_ORIGINS
      "dataset manifest.data_origin is unsupported." = .ok dataOrigin →
    ∀ count, integer env.lib (document.value.get "historical_case_count")
      "dataset manifest.historical_case_count" 0 = .ok count →
      ¬ Unhashable (document.value.get "intended_mode") ∧
    ∀ intendedMode, allowedText (document.value.get "intended_mode") ALLOWED_REPLAY_MODES
      "dataset manifest.intended_mode is unsupported." = .ok intendedMode →
      ¬ LeavesCalendar env.lib (document.value.get "created_at")

/-- Loading a manifest fails as declared exactly as far as it reads what can be read. -/
theorem raises_loadManifestControl_iff {env : Environment} {fs : FileSystem} {path : String} :
    Raises IsGateBValidationError (loadManifestControl env fs path) ↔ ManifestReads env fs path := by
  unfold loadManifestControl ManifestReads
  rw [Raises.bind_iff, raises_answer_iff]
  simp only [answer_eq_ok, Raises.bind_iff, raises_loadBoundedJsonObject, raises_manifestHead,
    raises_allowedText_iff, raises_integer, raises_timestamp_iff, raises_manifestFiles,
    raises_manifestCounts, Raises.pure, true_and, and_true, implies_true]
  constructor
  · rintro ⟨⟨target, htarget⟩, h⟩
    exact ⟨target, htarget, h target htarget⟩
  · rintro ⟨target, htarget, h⟩
    refine ⟨⟨target, htarget⟩, fun target' htarget' => ?_⟩
    obtain rfl := Option.some.inj (htarget.symm.trans htarget')
    exact h

end Manifest

end DecisionFirewall.Replay.GateB
