import DecisionFirewall.Base.JsonBytes
import DecisionFirewall.Lib.Prog
import DecisionFirewall.Phase3.Requests

/-!
# Lab Messages

The messages of `adf_poc/lab_contracts.py`: they are decoded strictly, authenticated under
the channel key, and validated against their closed schemas and their time windows.

- §1 schemas
- §2 validation
- §3 authentication

An error is the reason code of the exception, or its type where it carries none. A message
is the dictionary it was decoded to.
-/

namespace DecisionFirewall.Lab

open Phase3 (Primitives Bytes IsSchemaIdentifier IsHexDigest jsonDepth encodedSize)

/-! ## §1 Schemas -/

def SCHEMA_VERSION : String := "0.4.0"

def COMMAND : String := "LAB_EXECUTION_COMMAND"

def RECEIPT : String := "LAB_EXECUTOR_RECEIPT"

def OBSERVATION_REQUEST : String := "LAB_OBSERVATION_REQUEST"

def OBSERVATION : String := "LAB_OBSERVATION"

def TARGET_ID : String := "LAB_ENDPOINT_001"

def MAX_MESSAGE_BYTES : Nat := 16 * 1024

def MAX_JSON_DEPTH : Nat := 8

/-- In microseconds, as every duration below. -/
def MAX_FUTURE_SKEW : Int := 30 * 1000000

def MAX_COMMAND_LIFETIME : Int := 120 * 1000000

def MIN_KEY_BYTES : Nat := 32

/-- The message types of the executor channel and of the observer channel. -/
inductive MessageType where
  | command
  | receipt
  | observationRequest
  | observation
  deriving DecidableEq, Repr

/-- `DOMAINS[message_type]`. -/
def MessageType.domain : MessageType → String
  | .command => "ADF-LAB-IPC\x00v0.4.0\x00COMMAND\x00"
  | .receipt => "ADF-LAB-IPC\x00v0.4.0\x00EXECUTOR-RECEIPT\x00"
  | .observationRequest => "ADF-LAB-IPC\x00v0.4.0\x00OBSERVATION-REQUEST\x00"
  | .observation => "ADF-LAB-IPC\x00v0.4.0\x00INDEPENDENT-OBSERVATION\x00"

/-- The types whose expired messages a caller may ask for. -/
def MessageType.IsRequest (type : MessageType) : Prop :=
  type = .command ∨ type = .observationRequest

instance decidableIsRequest (type : MessageType) : Decidable type.IsRequest :=
  inferInstanceAs (Decidable (_ ∨ _))

namespace Schema

/-- `{"const": text}`. -/
def const (text : String) : Json → Bool
  | .str s => decide (s = text)
  | _ => false

/-- `{"const": true}`. -/
def constTrue : Json → Bool
  | .bool b => b
  | _ => false

def boolean : Json → Bool
  | .bool _ => true
  | _ => false

/-- `{"enum": texts}`. -/
def enum (texts : List String) : Json → Bool
  | .str s => decide (s ∈ texts)
  | _ => false

/-- `{"type": "integer", "minimum": lo, "maximum": hi}`; a whole floating-point number is
an integer. -/
def integer (lib : JsonLibrary) (lo hi : Int) : Json → Bool
  | .int n => decide (lo ≤ n ∧ n ≤ hi)
  | .float repr => (lib.floatInteger repr).any fun n => decide (lo ≤ n ∧ n ≤ hi)
  | _ => false

def identifier : Json → Bool
  | .str s => decide (IsSchemaIdentifier s)
  | _ => false

def sha256 : Json → Bool
  | .str s => decide (IsHexDigest s)
  | _ => false

/-- The pattern `^[0-9a-f]{32}$`. -/
def nonce : Json → Bool
  | .str s =>
    let core := if s.toList.getLast? = some '\n' then s.toList.dropLast else s.toList
    decide (core.length = 32) && core.all fun c => "0123456789abcdef".toList.contains c
  | _ => false

def timestamp : Json → Bool
  | .str s => decide (20 ≤ s.length ∧ s.length ≤ 40)
  | _ => false

/-- A closed object, all of whose properties are required. -/
def object (properties : List (String × (Json → Bool))) : Json → Bool
  | .obj fields => (properties.all fun p => (fields.lookup p.1).any p.2) &&
      fields.all fun f => (properties.lookup f.1).isSome
  | _ => false

/-- An object whose members are the properties, one by one. -/
theorem object_of {properties : List (String × (Json → Bool))} {fields : Dict}
    (hnodup : (fields.map Prod.fst).Nodup)
    (h : List.Forall₂ (fun p f => p.1 = f.1 ∧ p.2 f.2 = true) properties fields) :
    object properties (.obj fields) = true := by
  -- every property has its member, and every member its property
  have hpaired : (∀ p ∈ properties, ∃ f ∈ fields, p.1 = f.1 ∧ p.2 f.2 = true) ∧
      ∀ f ∈ fields, ∃ p ∈ properties, p.1 = f.1 := by
    clear hnodup
    induction h with
    | nil => simp
    | @cons p f ps fs hpf hall ih =>
      refine ⟨List.forall_mem_cons.mpr ⟨⟨f, List.mem_cons_self, hpf⟩, fun q hq => ?_⟩,
        List.forall_mem_cons.mpr ⟨⟨p, List.mem_cons_self, hpf.1⟩, fun g hg => ?_⟩⟩
      · obtain ⟨g, hg, hqg⟩ := ih.1 q hq
        exact ⟨g, List.mem_cons_of_mem _ hg, hqg⟩
      · obtain ⟨q, hq, hqg⟩ := ih.2 g hg
        exact ⟨q, List.mem_cons_of_mem _ hq, hqg⟩
  simp only [object, Bool.and_eq_true, List.all_eq_true]
  constructor
  · intro p hp
    obtain ⟨f, hf, hname, hvalue⟩ := hpaired.1 p hp
    have hlookup : fields.lookup p.1 = some f.2 :=
      (Json.lookup_eq_some_iff_mem hnodup).mpr (by rw [hname]; exact hf)
    rw [hlookup]
    exact hvalue
  · intro f hf
    obtain ⟨p, hp, hname⟩ := hpaired.2 f hf
    exact List.lookup_isSome_iff.mpr ⟨p, hp, by simp [hname]⟩

def authentication : Json → Bool :=
  object [("key_id", identifier), ("mac_sha256", sha256)]

/-- `lab-execution-command.schema.json`. -/
def command (lib : JsonLibrary) : Json → Bool :=
  object [("schema_version", const SCHEMA_VERSION),
    ("message_type", const COMMAND),
    ("lab_session_id", identifier),
    ("request_id", identifier),
    ("decision_id", identifier),
    ("authorization_id", identifier),
    ("policy_sha256", sha256),
    ("adapter_contract_sha256", sha256),
    ("target_id", const TARGET_ID),
    ("target_boot_id", identifier),
    ("action", const "NETWORK_ISOLATE"),
    ("parameters", object [("duration_seconds", integer lib 60 3600),
      ("preserve_management", constTrue),
      ("network_profile", const "LAB_BEACON_BLOCK_MANAGEMENT_ALLOW_V1")]),
    ("prestate_sha256", sha256),
    ("idempotency_key", identifier),
    ("sequence", integer lib 1 9223372036854775807),
    ("nonce", nonce),
    ("issued_at", timestamp),
    ("expires_at", timestamp),
    ("authentication", authentication)]

/-- `lab-executor-receipt.schema.json`. -/
def receipt (lib : JsonLibrary) : Json → Bool :=
  object [("schema_version", const SCHEMA_VERSION),
    ("message_type", const RECEIPT),
    ("lab_session_id", identifier),
    ("request_id", identifier),
    ("decision_id", identifier),
    ("authorization_id", identifier),
    ("command_sha256", sha256),
    ("idempotency_key", identifier),
    ("target_id", const TARGET_ID),
    ("target_boot_id", identifier),
    ("sequence", integer lib 1 9223372036854775807),
    ("status", enum ["APPLIED", "NO_EFFECT", "PARTIAL", "AMBIGUOUS"]),
    ("effect_possible", boolean),
    ("reason_code", enum ["RULESET_APPLIED", "REJECTED_PRE_EFFECT",
      "TARGET_UNAVAILABLE_PRE_EFFECT", "PARTIAL_RULESET", "EFFECT_UNCERTAIN"]),
    ("prestate_sha256", sha256),
    ("poststate_sha256", sha256),
    ("executed_at", timestamp),
    ("recorded_at", timestamp),
    ("authentication", authentication)]

/-- `lab-observation-request.schema.json`. -/
def observationRequest (lib : JsonLibrary) : Json → Bool :=
  object [("schema_version", const SCHEMA_VERSION),
    ("message_type", const OBSERVATION_REQUEST),
    ("lab_session_id", identifier),
    ("request_id", identifier),
    ("decision_id", identifier),
    ("command_sha256", sha256),
    ("idempotency_key", identifier),
    ("target_id", const TARGET_ID),
    ("target_boot_id", identifier),
    ("sequence", integer lib 1 9223372036854775807),
    ("nonce", nonce),
    ("issued_at", timestamp),
    ("expires_at", timestamp),
    ("authentication", authentication)]

/-- `lab-observation.schema.json`. -/
def observation (lib : JsonLibrary) : Json → Bool :=
  object [("schema_version", const SCHEMA_VERSION),
    ("message_type", const OBSERVATION),
    ("lab_session_id", identifier),
    ("request_id", identifier),
    ("decision_id", identifier),
    ("command_sha256", sha256),
    ("idempotency_key", identifier),
    ("target_id", const TARGET_ID),
    ("target_boot_id", identifier),
    ("sequence", integer lib 1 9223372036854775807),
    ("beacon_reachable", boolean),
    ("management_reachable", boolean),
    ("ruleset_sha256", sha256),
    ("observed_at", timestamp),
    ("recorded_at", timestamp),
    ("observation_facts_sha256", sha256),
    ("authentication", authentication)]

end Schema

def MessageType.schema (lib : JsonLibrary) : MessageType → Json → Bool
  | .command => Schema.command lib
  | .receipt => Schema.receipt lib
  | .observationRequest => Schema.observationRequest lib
  | .observation => Schema.observation lib

/-! ## §2 Validation -/

/-- The text of a member; a validated message has one wherever it is read. -/
def textOf (message : Dict) (name : String) : String :=
  match message.get name with
  | .str s => s
  | _ => ""

section Validation

variable (rt : Runtime) (lib : JsonLibrary)

/-- `_parse_canonical_utc(value)`; `none` is a `ValueError`. -/
def parseCanonicalUtc (s : String) : Option Int :=
  (rt.fromisoformat s).bind fun t =>
    if s = rt.isoformat (Runtime.truncate t) then some t else none

/-- The time window of a request. -/
def validateCommandTimes (message : Dict) (now : Int) (allowExpired : Bool) : Except String Unit :=
  match parseCanonicalUtc rt (textOf message "issued_at"),
      parseCanonicalUtc rt (textOf message "expires_at") with
  | some issued, some expires =>
    if expires ≤ issued ∨ MAX_COMMAND_LIFETIME < expires - issued then
      .error "LAB_COMMAND_LIFETIME_INVALID"
    else if now + MAX_FUTURE_SKEW < issued then .error "LAB_TIMESTAMP_FUTURE"
    else if expires ≤ now ∧ allowExpired = false then .error "LAB_COMMAND_EXPIRED"
    else .ok ()
  | _, _ => .error "LAB_TIMESTAMP_INVALID"

/-- The times of a report: when it happened and when it was recorded. -/
def validateReportTimes (name : String) (message : Dict) (now : Int) : Except String Unit :=
  match parseCanonicalUtc rt (textOf message name),
      parseCanonicalUtc rt (textOf message "recorded_at") with
  | some happened, some recorded =>
    if recorded < happened then .error "LAB_TIMESTAMP_ORDER_INVALID"
    else if now + MAX_FUTURE_SKEW < recorded then .error "LAB_TIMESTAMP_FUTURE"
    else .ok ()
  | _, _ => .error "LAB_TIMESTAMP_INVALID"

/-- The times of a receipt. -/
def validateReceiptTimes (message : Dict) (now : Int) : Except String Unit :=
  validateReportTimes rt "executed_at" message now

/-- The times of an observation. -/
def validateObservationTimes (message : Dict) (now : Int) : Except String Unit :=
  validateReportTimes rt "observed_at" message now

/-- `_validate_times(value, message_type, now, allow_expired=…)`. -/
def validateTimes (type : MessageType) (message : Dict) (now : Int) (allowExpired : Bool) :
    Except String Unit :=
  match type with
  | .command => validateCommandTimes rt message now allowExpired
  | .receipt => validateReceiptTimes rt message now
  | .observationRequest => validateCommandTimes rt message now allowExpired
  | .observation => validateObservationTimes rt message now

def ZERO_DIGEST : String := "0000000000000000000000000000000000000000000000000000000000000000"

/-- The effect and the reasons that a receipt status allows. -/
def receiptOutcomes (status : String) : List (Bool × String) :=
  if status = "APPLIED" then [(true, "RULESET_APPLIED")]
  else if status = "NO_EFFECT" then
    [(false, "REJECTED_PRE_EFFECT"), (false, "TARGET_UNAVAILABLE_PRE_EFFECT")]
  else if status = "PARTIAL" then [(true, "PARTIAL_RULESET")]
  else [(true, "EFFECT_UNCERTAIN")]

/-- The status, effect and reason of a receipt, and its digests, agree. -/
def validateReceiptOutcome (message : Dict) : Except String Unit :=
  let status := textOf message "status"
  let reason := textOf message "reason_code"
  let effect := match message.get "effect_possible" with
    | .bool b => b
    | _ => false
  let prestate := textOf message "prestate_sha256"
  let poststate := textOf message "poststate_sha256"
  if (receiptOutcomes status).any (fun o => o.1 = effect && o.2 = reason) = false then
    .error "LAB_RECEIPT_OUTCOME_INVALID"
  else if status = "NO_EFFECT" ∧ poststate ≠
      (if reason = "TARGET_UNAVAILABLE_PRE_EFFECT" then ZERO_DIGEST else prestate) then
    .error "LAB_RECEIPT_OUTCOME_INVALID"
  else if status = "APPLIED" ∧ poststate = prestate then .error "LAB_RECEIPT_OUTCOME_INVALID"
  else .ok ()

def OBSERVATION_FACT_FIELDS : List String :=
  ["lab_session_id", "request_id", "decision_id", "command_sha256", "idempotency_key", "target_id",
    "target_boot_id", "sequence", "beacon_reachable", "management_reachable", "ruleset_sha256",
    "observed_at"]

/-- `observation_facts_sha256(value)` of a message with all the facts. -/
def observationFactsSha256 (message : Dict) : String :=
  rt.sha256 ("ADF-LAB-OBSERVATION-FACTS\x00v0.4.0\x00" ++
    canonicalJson (.obj (OBSERVATION_FACT_FIELDS.map fun field => (field, message.get field))))

/-- The facts of an observation are the ones it is bound to. -/
def validateObservationFacts (message : Dict) : Except String Unit :=
  if observationFactsSha256 rt message ≠ textOf message "observation_facts_sha256" then
    .error "LAB_OBSERVATION_BINDING_INVALID"
  else .ok ()

/-- What `validate_lab_message_dict` checks behind the times of a message. -/
def validateContent (type : MessageType) (message : Dict) : Except String Unit :=
  match type with
  | .receipt => validateReceiptOutcome message
  | .observation => validateObservationFacts rt message
  | _ => .ok ()

/-- `"schema_version" in value and value["schema_version"] != SCHEMA_VERSION`. -/
def VersionUnsupported (message : Dict) : Prop :=
  ∃ v ∈ message.lookup "schema_version", Schema.const SCHEMA_VERSION v = false

instance decidableVersionUnsupported (message : Dict) : Decidable (VersionUnsupported message) :=
  decidable_of_iff ((message.lookup "schema_version").any
    (fun v => !Schema.const SCHEMA_VERSION v) = true)
    (by simp [VersionUnsupported, Option.any_eq_true])

/-- `validate_lab_message_dict(value, message_type=…, now=…, allow_expired=…)`. -/
def validateLabMessageDict (type : MessageType) (message : Dict) (now : Int)
    (allowExpired : Bool) : Except String Dict := do
  if MAX_MESSAGE_BYTES < encodedSize (.obj message) then .error "LAB_MESSAGE_TOO_LARGE"
  else if MAX_JSON_DEPTH < jsonDepth (.obj message) then .error "LAB_MESSAGE_TOO_DEEP"
  else if VersionUnsupported message then .error "LAB_SCHEMA_VERSION_UNSUPPORTED"
  else if type.schema lib (.obj message) = false then .error "LAB_SCHEMA_INVALID"
  else if allowExpired = true ∧ ¬ type.IsRequest then .error "LAB_VALIDATION_MODE_INVALID"
  else
    validateTimes rt type message now allowExpired
    validateContent rt type message
    return message

variable {rt lib} in
/-- What a message has to pass. -/
theorem validateLabMessageDict_of {type : MessageType} {message : Dict} {now : Int}
    {allowExpired : Bool} (hsize : encodedSize (.obj message) ≤ MAX_MESSAGE_BYTES)
    (hdepth : jsonDepth (.obj message) ≤ MAX_JSON_DEPTH) (hversion : ¬ VersionUnsupported message)
    (hschema : type.schema lib (.obj message) = true)
    (hmode : allowExpired = true → type.IsRequest)
    (htimes : validateTimes rt type message now allowExpired = .ok ())
    (hcontent : validateContent rt type message = .ok ()) :
    validateLabMessageDict rt lib type message now allowExpired = .ok message := by
  unfold validateLabMessageDict
  rw [if_neg (not_lt.mpr hsize), if_neg (not_lt.mpr hdepth), if_neg hversion,
    if_neg (by simp [hschema]), if_neg fun h => h.2 (hmode h.1), htimes]
  exact Lib.bind_eq_ok.mpr ⟨(), rfl, Lib.bind_eq_ok.mpr ⟨(), hcontent, rfl⟩⟩

variable {rt lib} in
/-- What a message has passed. -/
theorem of_validateLabMessageDict {type : MessageType} {message validated : Dict} {now : Int}
    {allowExpired : Bool}
    (h : validateLabMessageDict rt lib type message now allowExpired = .ok validated) :
    validated = message ∧ encodedSize (.obj message) ≤ MAX_MESSAGE_BYTES ∧
      jsonDepth (.obj message) ≤ MAX_JSON_DEPTH ∧ ¬ VersionUnsupported message ∧
      type.schema lib (.obj message) = true ∧ (allowExpired = true → type.IsRequest) ∧
      validateTimes rt type message now allowExpired = .ok () ∧
      validateContent rt type message = .ok () := by
  unfold validateLabMessageDict at h
  split_ifs at h with hsize hdepth hversion hschema hmode
  obtain ⟨⟨⟩, htimes, h⟩ := Lib.bind_eq_ok.mp h
  obtain ⟨⟨⟩, hcontent, h⟩ := Lib.bind_eq_ok.mp h
  refine ⟨(Except.ok.inj h).symm, not_lt.mp hsize, not_lt.mp hdepth, hversion, by simpa using hschema,
    fun hexpired => ?_, htimes, hcontent⟩
  exact not_not.mp fun hrequest => hmode ⟨hexpired, hrequest⟩

end Validation

/-! ## §3 Authentication -/

section Authentication

variable (rt : Runtime) (lib : JsonLibrary) (crypto : Primitives)

/-- The members of the envelope under `authentication`. -/
def envelope (message : Dict) : Option Dict :=
  match message.lookup "authentication" with
  | some (.obj fields) => some fields
  | _ => none

/-- `_authentication_bytes(value, message_type)`, under the envelope without its code. -/
def authenticationText (type : MessageType) (message authentication : Dict) : String :=
  let unsigned := authentication.filter fun f => f.1 ≠ "mac_sha256"
  type.domain ++ canonicalJson (.obj (message.map fun f =>
    if f.1 = "authentication" then (f.1, .obj unsigned) else f))

def IsAscii (s : String) : Prop := ∀ c ∈ s.toList, c.toNat < 128

instance decidableIsAscii (s : String) : Decidable (IsAscii s) :=
  decidable_of_iff (s.toList.all (fun c => c.toNat < 128) = true)
    (by simp [IsAscii, List.all_eq_true])

/-- `hmac.compare_digest(a, b)` of two texts. -/
def compareDigest (a b : String) : Except String Bool :=
  if IsAscii a ∧ IsAscii b then .ok (decide (a = b)) else .error "TypeError"

/-- `verify_lab_message_hmac(value, message_type=…, expected_key_id=…, key=…)`. -/
def verifyLabMessageHmac (type : MessageType) (expectedKeyId : String) (key : Bytes)
    (message : Dict) : Except String Unit :=
  if key.length < MIN_KEY_BYTES then .error "LAB_KEY_INVALID"
  else match envelope message with
  | none => .error "LAB_AUTHENTICATION_INVALID"
  | some authentication =>
    match authentication.get "key_id", authentication.get "mac_sha256" with
    | .str keyId, .str observed => do
      let expected := crypto.hmacSha256 key (authenticationText type message authentication)
      let identified ← compareDigest keyId expectedKeyId
      if identified = false then .error "LAB_AUTHENTICATION_INVALID"
      let authentic ← compareDigest observed expected
      if authentic = false then .error "LAB_AUTHENTICATION_INVALID"
    | _, _ => .error "LAB_AUTHENTICATION_INVALID"

/-- `_strict_decode(raw)` of so many bytes that decode to a value. -/
def strictDecode (size : Nat) (value : Option Json) : Except String Dict :=
  if MAX_MESSAGE_BYTES < size then .error "LAB_MESSAGE_TOO_LARGE"
  else match value with
    | none => .error "LAB_JSON_INVALID"
    | some (.obj message) =>
      if MAX_JSON_DEPTH < jsonDepth (.obj message) then .error "LAB_MESSAGE_TOO_DEEP"
      else .ok message
    | some _ => .error "LAB_MESSAGE_NOT_OBJECT"

/-- `load_authenticated_lab_message(raw, …)` of so many bytes that decode to a value. -/
def loadAuthenticatedLabMessage (type : MessageType) (expectedKeyId : String) (key : Bytes)
    (now : Int) (allowExpired : Bool) (size : Nat) (value : Option Json) : Except String Dict := do
  let message ← strictDecode size value
  verifyLabMessageHmac crypto type expectedKeyId key message
  validateLabMessageDict rt lib type message now allowExpired

/-- `sign_lab_message(unsigned, message_type=…, key_id=…, key=…, now=…)`. -/
def signLabMessage (type : MessageType) (keyId : String) (key : Bytes) (now : Int)
    (unsigned : Dict) : Except String Dict :=
  let candidate (mac : String) : Dict := unsigned ++
    [("authentication", .obj [("key_id", .str keyId), ("mac_sha256", .str mac)])]
  if key.length < MIN_KEY_BYTES then .error "LAB_KEY_INVALID"
  else if (unsigned.lookup "authentication").isSome then .error "LAB_SIGNING_INPUT_INVALID"
  else do
    let _ ← validateLabMessageDict rt lib type (candidate ZERO_DIGEST) now false
    return candidate (crypto.hmacSha256 key (authenticationText type (candidate ZERO_DIGEST)
      [("key_id", .str keyId), ("mac_sha256", .str ZERO_DIGEST)]))

/-- `lab_message_sha256(value)`. -/
def labMessageSha256 (message : Dict) : String := rt.sha256Json (.obj message)

end Authentication

end DecisionFirewall.Lab
