import DecisionFirewall.Base.JsonLoads
import DecisionFirewall.Lab.Messages
import DecisionFirewall.Lib.Raises
import DecisionFirewall.Phase3.ShippedPolicy

/-!
# What the Message Loader Raises

`load_authenticated_lab_message` from the bytes of the channel, the text of the expected
type and the reading of the clock, with every exception that can leave it.

- §1 the loader
- §2 the exceptions of its parts
- §3 what escapes

A lone surrogate stands among the characters outside ASCII.
-/

namespace DecisionFirewall.Lab

open Phase3 (Primitives Bytes encodedSize jsonDepth newYearRuntime plainPrimitives)
open Lib (Raises)

/-! ## §1 The loader -/

/-- `datetime.min` and `datetime.max` in UTC. -/
def MIN_INSTANT : Int := -62135596800000000

def MAX_INSTANT : Int := 253402300799999999

/-- A reading of the clock: none is given, so the loader reads it in UTC; a local time
without an offset; a local time with one. -/
inductive Clock where
  | system (now : Int)
  | naive
  | aware (localTime offset : Int)
  deriving DecidableEq, Repr

/-- `_validation_time(now)`. -/
def Clock.validationTime : Clock → Except String Int
  | .system now => .ok now
  | .naive => .error "LAB_CLOCK_INVALID"
  | .aware localTime offset =>
    if MIN_INSTANT ≤ localTime - offset ∧ localTime - offset ≤ MAX_INSTANT then
      .ok (localTime - offset)
    else .error "OverflowError"

/-- The local time is outside the calendar in UTC. -/
def Clock.Overflows : Clock → Prop
  | .aware localTime offset => ¬ (MIN_INSTANT ≤ localTime - offset ∧ localTime - offset ≤ MAX_INSTANT)
  | _ => False

/-- `MESSAGE_TYPES`. -/
def MessageType.ofText? (messageType : String) : Option MessageType :=
  [(COMMAND, MessageType.command), (RECEIPT, .receipt),
    (OBSERVATION_REQUEST, .observationRequest), (OBSERVATION, .observation)].lookup messageType

/-- `_strict_decode(raw)`. -/
def decodeRaw (loads : Bytes → Except LoadsError Json) (raw : Bytes) : Except String Dict :=
  if MAX_MESSAGE_BYTES < raw.length then .error "LAB_MESSAGE_TOO_LARGE"
  else match strictLoads loads raw with
    -- `LoadsError.value` is the one exception that is not in the `except` clause
    | .error .value => .error "ValueError"
    | .error _ => .error "LAB_JSON_INVALID"
    | .ok (.obj message) =>
      if MAX_JSON_DEPTH < jsonDepth (.obj message) then .error "LAB_MESSAGE_TOO_DEEP"
      else .ok message
    | .ok _ => .error "LAB_MESSAGE_NOT_OBJECT"

/-- `_validate_times`, where adding the skew leaves the calendar. -/
def validateTimesAt (rt : Runtime) (type : MessageType) (message : Dict) (now : Int)
    (allowExpired : Bool) : Except String Unit :=
  match validateTimes rt type message now allowExpired with
  | .ok () => if MAX_INSTANT < now + MAX_FUTURE_SKEW then .error "LAB_TIMESTAMP_INVALID" else .ok ()
  | .error e =>
    if MAX_INSTANT < now + MAX_FUTURE_SKEW ∧ e ∈ ["LAB_TIMESTAMP_FUTURE", "LAB_COMMAND_EXPIRED"] then
      .error "LAB_TIMESTAMP_INVALID"
    else .error e

section Loader

variable (rt : Runtime) (lib : JsonLibrary) (crypto : Primitives)

/-- `validate_lab_message_dict(value, message_type=…, now=…, allow_expired=…)`. -/
def validateAt (type : MessageType) (message : Dict) (clock : Clock) (allowExpired : Bool) :
    Except String Dict := do
  if MAX_MESSAGE_BYTES < encodedSize (.obj message) then .error "LAB_MESSAGE_TOO_LARGE"
  else if MAX_JSON_DEPTH < jsonDepth (.obj message) then .error "LAB_MESSAGE_TOO_DEEP"
  else if VersionUnsupported message then .error "LAB_SCHEMA_VERSION_UNSUPPORTED"
  else if type.schema lib (.obj message) = false then .error "LAB_SCHEMA_INVALID"
  else if allowExpired = true ∧ ¬ type.IsRequest then .error "LAB_VALIDATION_MODE_INVALID"
  else
    let now ← clock.validationTime
    validateTimesAt rt type message now allowExpired
    validateContent rt type message
    return message

/-- `load_authenticated_lab_message(raw, message_type=…, expected_key_id=…, key=…, now=…,
allow_expired=…)`. -/
def loadRaw (loads : Bytes → Except LoadsError Json) (messageType expectedKeyId : String)
    (key : Bytes) (clock : Clock) (allowExpired : Bool) (raw : Bytes) : Except String Dict :=
  decodeRaw loads raw >>= fun message =>
    match MessageType.ofText? messageType with
    | none => .error "LAB_MESSAGE_TYPE_INVALID"
    | some type => verifyLabMessageHmac crypto type expectedKeyId key message >>= fun _ =>
      validateAt rt lib type message clock allowExpired

end Loader

/-! ## §2 The exceptions of its parts -/

/-- A `LabContractError`, by its reason code. -/
def IsLabContractError (e : String) : Prop := "LAB_".toList <+: e.toList

section Parts

variable {rt : Runtime} {lib : JsonLibrary} {crypto : Primitives} {type : MessageType}
  {message : Dict} {expectedKeyId : String} {key raw : Bytes} {now : Int} {clock : Clock}
  {allowExpired : Bool} {loads : Bytes → Except LoadsError Json}

theorem not_isLabContractError_typeError : ¬ IsLabContractError "TypeError" := by
  unfold IsLabContractError
  decide

theorem not_isLabContractError_valueError : ¬ IsLabContractError "ValueError" := by
  unfold IsLabContractError
  decide

theorem not_isLabContractError_overflowError : ¬ IsLabContractError "OverflowError" := by
  unfold IsLabContractError
  decide

/-- Decoding raises nothing else where the integers can be read. -/
theorem raises_decodeRaw (h : raw.length ≤ MAX_MESSAGE_BYTES → loads raw ≠ .error .value) :
    Raises IsLabContractError (decodeRaw loads raw) := by
  unfold decodeRaw
  split
  case isTrue hsize => exact Raises.error_iff.mpr ⟨_, rfl⟩
  case isFalse hsize =>
    split
    case h_1 heq => exact absurd (strictLoads_eq_value.mp heq) (h (Nat.not_lt.mp hsize))
    case h_2 => exact Raises.error_iff.mpr ⟨_, rfl⟩
    case h_3 message _ =>
      split
      · exact Raises.error_iff.mpr ⟨_, rfl⟩
      · exact Raises.ok _
    case h_4 => exact Raises.error_iff.mpr ⟨_, rfl⟩

/-- The code of the message is compared with a text outside ASCII. -/
def Incomparable (expectedKeyId : String) (message : Dict) : Prop :=
  ∃ authentication keyId mac, envelope message = some authentication ∧
    Dict.get authentication "key_id" = .str keyId ∧ Dict.get authentication "mac_sha256" = .str mac ∧
      (¬ IsAscii keyId ∨ ¬ IsAscii expectedKeyId ∨ keyId = expectedKeyId ∧ ¬ IsAscii mac)

theorem compareDigest_of_isAscii {a b : String} (ha : IsAscii a) (hb : IsAscii b) :
    compareDigest a b = .ok (decide (a = b)) :=
  if_pos ⟨ha, hb⟩

/-- Authentication raises nothing else where the texts can be compared. -/
theorem raises_verifyLabMessageHmac (hcode : HexDigests crypto)
    (h : ¬ Incomparable expectedKeyId message) :
    Raises IsLabContractError (verifyLabMessageHmac crypto type expectedKeyId key message) := by
  unfold verifyLabMessageHmac
  split
  case isTrue => exact Raises.error_iff.mpr ⟨_, rfl⟩
  case isFalse =>
    split
    case h_1 => exact Raises.error_iff.mpr ⟨_, rfl⟩
    case h_2 authentication henvelope =>
      split
      case h_2 => exact Raises.error_iff.mpr ⟨_, rfl⟩
      case h_1 keyId mac hkeyId hmac =>
        have hids : IsAscii keyId ∧ IsAscii expectedKeyId ∧ (keyId = expectedKeyId → IsAscii mac) := by
          refine ⟨?_, ?_, fun heq => ?_⟩ <;> by_contra hascii
          · exact h ⟨authentication, keyId, mac, henvelope, hkeyId, hmac, .inl hascii⟩
          · exact h ⟨authentication, keyId, mac, henvelope, hkeyId, hmac, .inr (.inl hascii)⟩
          · exact h ⟨authentication, keyId, mac, henvelope, hkeyId, hmac, .inr (.inr ⟨heq, hascii⟩)⟩
        simp only [compareDigest_of_isAscii hids.1 hids.2.1]
        by_cases heq : keyId = expectedKeyId
        · simp only [heq, compareDigest_of_isAscii (hids.2.2 heq) (isAscii_of_isSha256 (hcode _ _))]
          refine Raises.bind (Raises.ok _) fun identified hidentified => ?_
          cases hidentified
          refine Raises.bind (Raises.ok _) fun authentic _ => ?_
          cases authentic with
          | true => exact Raises.ok _
          | false => exact Raises.error_iff.mpr ⟨_, rfl⟩
        · refine Raises.bind (Raises.ok _) fun identified hidentified => ?_
          rw [decide_eq_false heq] at hidentified
          cases hidentified
          exact Raises.error_iff.mpr ⟨_, rfl⟩

/-- Comparing a text outside ASCII raises a `TypeError`. -/
theorem verifyLabMessageHmac_of_incomparable (hkey : MIN_KEY_BYTES ≤ key.length)
    (h : Incomparable expectedKeyId message) :
    verifyLabMessageHmac crypto type expectedKeyId key message = .error "TypeError" := by
  obtain ⟨authentication, keyId, mac, henvelope, hkeyId, hmac, htexts⟩ := h
  simp only [verifyLabMessageHmac, if_neg (Nat.not_lt.mpr hkey), henvelope, hkeyId, hmac]
  by_cases hids : IsAscii keyId ∧ IsAscii expectedKeyId
  · obtain ⟨heq, hascii⟩ : keyId = expectedKeyId ∧ ¬ IsAscii mac := by
      rcases htexts with hascii | hascii | hascii
      · exact absurd hids.1 hascii
      · exact absurd hids.2 hascii
      · exact hascii
    have hfirst : compareDigest keyId expectedKeyId = .ok true := by
      rw [heq]
      exact compareDigest_self hids.2
    have hsecond : compareDigest mac
        (crypto.hmacSha256 key (authenticationText type message authentication)) =
          .error "TypeError" := if_neg fun hboth => hascii hboth.1
    rw [hfirst, hsecond]
    rfl
  · have hfirst : compareDigest keyId expectedKeyId = .error "TypeError" := if_neg hids
    rw [hfirst]
    rfl

/-- What is checked of a message before the clock is read. -/
structure Admissible (lib : JsonLibrary) (type : MessageType) (message : Dict)
    (allowExpired : Bool) : Prop where
  size : encodedSize (.obj message) ≤ MAX_MESSAGE_BYTES
  depth : jsonDepth (.obj message) ≤ MAX_JSON_DEPTH
  version : ¬ VersionUnsupported message
  schema : type.schema lib (.obj message) = true
  mode : allowExpired = true → type.IsRequest

theorem raises_validateTimes :
    Raises IsLabContractError (validateTimes rt type message now allowExpired) := by
  have hcommand : Raises IsLabContractError (validateCommandTimes rt message now allowExpired) := by
    unfold validateCommandTimes
    split
    · split_ifs <;> first | exact Raises.ok _ | exact Raises.error_iff.mpr ⟨_, rfl⟩
    · exact Raises.error_iff.mpr ⟨_, rfl⟩
  have hreport : ∀ name, Raises IsLabContractError (validateReportTimes rt name message now) := by
    intro name
    unfold validateReportTimes
    split
    · split_ifs <;> first | exact Raises.ok _ | exact Raises.error_iff.mpr ⟨_, rfl⟩
    · exact Raises.error_iff.mpr ⟨_, rfl⟩
  cases type with
  | command => exact hcommand
  | receipt => exact hreport _
  | observationRequest => exact hcommand
  | observation => exact hreport _

theorem raises_validateTimesAt :
    Raises IsLabContractError (validateTimesAt rt type message now allowExpired) := by
  unfold validateTimesAt
  cases htimes : validateTimes rt type message now allowExpired with
  | ok u =>
    dsimp only
    split
    · exact Raises.error_iff.mpr ⟨_, rfl⟩
    · exact Raises.ok _
  | error e =>
    dsimp only
    split
    · exact Raises.error_iff.mpr ⟨_, rfl⟩
    · exact Raises.error_iff.mpr (raises_validateTimes e htimes)

theorem raises_validateContent : Raises IsLabContractError (validateContent rt type message) := by
  cases type with
  | command => exact Raises.ok _
  | receipt =>
    unfold validateContent validateReceiptOutcome
    dsimp only
    split_ifs <;> first | exact Raises.ok _ | exact Raises.error_iff.mpr ⟨_, rfl⟩
  | observationRequest => exact Raises.ok _
  | observation =>
    unfold validateContent validateObservationFacts
    dsimp only
    split_ifs <;> first | exact Raises.ok _ | exact Raises.error_iff.mpr ⟨_, rfl⟩

/-- Validation raises nothing else where the clock of an admissible message can be read. -/
theorem raises_validateAt (h : Admissible lib type message allowExpired → ¬ clock.Overflows) :
    Raises IsLabContractError (validateAt rt lib type message clock allowExpired) := by
  unfold validateAt
  split_ifs with hsize hdepth hversion hschema hmode
  case neg =>
    have hadmissible : Admissible lib type message allowExpired :=
      ⟨not_lt.mp hsize, not_lt.mp hdepth, hversion, by simpa using hschema,
        fun hexpired => not_not.mp fun hrequest => hmode ⟨hexpired, hrequest⟩⟩
    have hclock : Raises IsLabContractError clock.validationTime := by
      cases clock with
      | system now => exact Raises.ok _
      | naive => exact Raises.error_iff.mpr ⟨_, rfl⟩
      | aware localTime offset =>
        rw [Clock.validationTime, if_pos (not_not.mp (h hadmissible))]
        exact Raises.ok _
    refine Raises.bind hclock fun now _ => ?_
    refine Raises.bind raises_validateTimesAt fun _ _ => ?_
    exact Raises.bind raises_validateContent fun _ _ => Raises.pure _
  all_goals exact Raises.error_iff.mpr ⟨_, rfl⟩

/-- The clock of an admissible message is converted outside every handler. -/
theorem validateAt_of_overflows (h : Admissible lib type message allowExpired)
    (hclock : clock.Overflows) :
    validateAt rt lib type message clock allowExpired = .error "OverflowError" := by
  have htime : clock.validationTime = .error "OverflowError" := by
    cases clock with
    | system now => exact hclock.elim
    | naive => exact hclock.elim
    | aware localTime offset => exact if_neg hclock
  unfold validateAt
  rw [if_neg (not_lt.mpr h.size), if_neg (not_lt.mpr h.depth), if_neg h.version,
    if_neg (by simp [h.schema]), if_neg fun hmode => hmode.2 (h.mode hmode.1), htime]
  rfl

end Parts

/-! ## §3 What escapes -/

section Escapes

variable (rt : Runtime) (lib : JsonLibrary) (crypto : Primitives)
  (loads : Bytes → Except LoadsError Json) (messageType expectedKeyId : String) (key : Bytes)
  (clock : Clock) (allowExpired : Bool) (raw : Bytes)

/-- The inputs on which another exception leaves the loader. -/
inductive Escapes : Prop
  /-- an integer literal of a message within the bound is too long -/
  | integer (hsize : raw.length ≤ MAX_MESSAGE_BYTES) (hloads : loads raw = .error .value)
  /-- the code of a message is compared with a text outside ASCII -/
  | comparison (message : Dict) (type : MessageType) (hdecode : decodeRaw loads raw = .ok message)
      (htype : MessageType.ofText? messageType = some type) (hkey : MIN_KEY_BYTES ≤ key.length)
      (htexts : Incomparable expectedKeyId message)
  /-- the clock of an authentic and admissible message leaves the calendar -/
  | clock (message : Dict) (type : MessageType) (hdecode : decodeRaw loads raw = .ok message)
      (htype : MessageType.ofText? messageType = some type)
      (hauthentic : verifyLabMessageHmac crypto type expectedKeyId key message = .ok ())
      (hadmissible : Admissible lib type message allowExpired) (hclock : clock.Overflows)

variable {rt lib crypto loads messageType expectedKeyId key clock allowExpired raw}

/-- A decoded message of a known type is authenticated and validated. -/
theorem loadRaw_of_decoded {message : Dict} {type : MessageType}
    (hdecode : decodeRaw loads raw = .ok message)
    (htype : MessageType.ofText? messageType = some type) :
    loadRaw rt lib crypto loads messageType expectedKeyId key clock allowExpired raw =
      verifyLabMessageHmac crypto type expectedKeyId key message >>= fun _ =>
        validateAt rt lib type message clock allowExpired := by
  rw [loadRaw, hdecode]
  show (match MessageType.ofText? messageType with
    | none => (.error "LAB_MESSAGE_TYPE_INVALID" : Except String Dict)
    | some type => _) = _
  rw [htype]

/-- On these inputs another exception leaves the loader. -/
theorem Escapes.not_raises
    (h : Escapes lib crypto loads messageType expectedKeyId key clock allowExpired raw) :
    ¬ Raises IsLabContractError
      (loadRaw rt lib crypto loads messageType expectedKeyId key clock allowExpired raw) := by
  intro hraises
  cases h with
  | integer hsize hloads =>
    have hdecode : decodeRaw loads raw = .error "ValueError" := by
      rw [decodeRaw, if_neg (Nat.not_lt.mpr hsize), strictLoads_eq_value.mpr hloads]
    refine not_isLabContractError_valueError (hraises "ValueError" ?_)
    rw [loadRaw, hdecode]
    rfl
  | comparison message type hdecode htype hkey htexts =>
    refine not_isLabContractError_typeError (hraises "TypeError" ?_)
    rw [loadRaw_of_decoded hdecode htype, verifyLabMessageHmac_of_incomparable hkey htexts]
    rfl
  | clock message type hdecode htype hauthentic hadmissible hclock =>
    refine not_isLabContractError_overflowError (hraises "OverflowError" ?_)
    rw [loadRaw_of_decoded hdecode htype, hauthentic]
    exact validateAt_of_overflows hadmissible hclock

/-- On every other input nothing else does. -/
theorem raises_loadRaw (hcode : HexDigests crypto)
    (h : ¬ Escapes lib crypto loads messageType expectedKeyId key clock allowExpired raw) :
    Raises IsLabContractError
      (loadRaw rt lib crypto loads messageType expectedKeyId key clock allowExpired raw) := by
  refine Raises.bind (raises_decodeRaw fun hsize hloads => h (.integer hsize hloads))
    fun message hdecode => ?_
  cases htype : MessageType.ofText? messageType with
  | none => exact Raises.error_iff.mpr ⟨_, rfl⟩
  | some type =>
    have hverify : Raises IsLabContractError
        (verifyLabMessageHmac crypto type expectedKeyId key message) := by
      by_cases hkey : MIN_KEY_BYTES ≤ key.length
      · exact raises_verifyLabMessageHmac hcode fun htexts =>
          h (.comparison message type hdecode htype hkey htexts)
      · rw [verifyLabMessageHmac, if_pos (Nat.not_le.mp hkey)]
        exact Raises.error_iff.mpr ⟨_, rfl⟩
    refine Raises.bind hverify fun u hauthentic => ?_
    exact raises_validateAt fun hadmissible hclock =>
      h (.clock message type hdecode htype hauthentic hadmissible hclock)

end Escapes

/-- The loader fails in the declared way exactly where no integer literal is too long, no
text outside ASCII is compared and the clock can be converted. -/
theorem raises_loadRaw_iff {rt : Runtime} {lib : JsonLibrary} {crypto : Primitives}
    {loads : Bytes → Except LoadsError Json} {messageType expectedKeyId : String} {key raw : Bytes}
    {clock : Clock} {allowExpired : Bool} (hcode : HexDigests crypto) :
    Raises IsLabContractError
        (loadRaw rt lib crypto loads messageType expectedKeyId key clock allowExpired raw) ↔
      ¬ Escapes lib crypto loads messageType expectedKeyId key clock allowExpired raw :=
  ⟨fun hraises hescapes => hescapes.not_raises hraises, raises_loadRaw hcode⟩

/-- `json.loads` of bytes in ASCII, which reads a number of digits up to the limit of `int`. -/
def asciiLoads (raw : Bytes) : Except LoadsError Json :=
  if 4300 < raw.length ∧ ∀ b ∈ raw, 48 ≤ b ∧ b ≤ 57 then .error .value
  else match strictJsonLoadsBytes asciiLibrary raw with
    | some v => .ok v
    | none => .error .jsonDecode

/-- A message whose key has a name outside ASCII. -/
def foreignMessage : Dict :=
  [("authentication", .obj [("key_id", .str "é"), ("mac_sha256", .str "0")])]

def foreignBytes : Bytes := Json.encodeAscii (Json.obj foreignMessage).text

theorem decodeRaw_foreignBytes : decodeRaw asciiLoads foreignBytes = .ok foreignMessage := by
  have hsize : foreignBytes.length ≤ MAX_MESSAGE_BYTES := by
    rw [foreignBytes, Json.encodeAscii, List.length_map]
    exact (Phase3.length_text_le _).trans (by decide)
  have hbrace : (123 : UInt8) ∈ foreignBytes :=
    List.mem_map.mpr ⟨'{', List.mem_cons_self, rfl⟩
  have hdigits : ¬ (4300 < foreignBytes.length ∧ ∀ b ∈ foreignBytes, 48 ≤ b ∧ b ≤ 57) :=
    fun h => absurd (h.2 123 hbrace).2 (by decide)
  have hread : (Json.obj foreignMessage).Readable asciiLibrary := by
    refine ⟨by decide, ⟨⟨by decide, trivial, trivial, trivial⟩, trivial⟩⟩
  have hloads : asciiLoads foreignBytes = .ok (.obj foreignMessage) := by
    rw [asciiLoads, if_neg hdigits, foreignBytes, Json.strictJsonLoadsBytes_text hread]
  rw [decodeRaw, if_neg (Nat.not_lt.mpr hsize), strictLoads, hloads]
  rfl

/-- A key name outside ASCII and an integer of too many digits leave the loader with other
exceptions. -/
theorem foreign_key_escapes :
    ¬ Raises IsLabContractError (loadRaw newYearRuntime asciiLibrary plainPrimitives asciiLoads
        COMMAND "KEY_1" (List.replicate 32 1) (.system 1767225600000000) false foreignBytes) ∧
      ¬ Raises IsLabContractError (loadRaw newYearRuntime asciiLibrary plainPrimitives asciiLoads
        COMMAND "KEY_1" (List.replicate 32 1) (.system 1767225600000000) false
        (List.replicate 4301 57)) := by
  constructor
  · have hascii : ¬ IsAscii "é" := fun h => absurd (h 'é' (by decide)) (by decide)
    exact Escapes.not_raises (.comparison foreignMessage .command decodeRaw_foreignBytes rfl
      (by decide) ⟨_, "é", "0", rfl, rfl, rfl, .inl hascii⟩)
  · have hdigits : ∀ b ∈ List.replicate 4301 (57 : UInt8), 48 ≤ b ∧ b ≤ 57 := by
      intro b hb
      rw [List.eq_of_mem_replicate hb]
      decide
    have hlength : (List.replicate 4301 (57 : UInt8)).length = 4301 := List.length_replicate
    exact Escapes.not_raises (.integer (by rw [hlength]; decide)
      (if_pos ⟨by rw [hlength]; decide, hdigits⟩))

/-- The empty text is one without another exception. -/
theorem raises_loadRaw_example :
    Raises IsLabContractError (loadRaw newYearRuntime asciiLibrary plainPrimitives asciiLoads
        COMMAND "KEY_1" (List.replicate 32 1) (.system 1767225600000000) false []) ↔
      ¬ Escapes asciiLibrary plainPrimitives asciiLoads COMMAND "KEY_1" (List.replicate 32 1)
        (.system 1767225600000000) false [] :=
  raises_loadRaw_iff fun _ _ => by
    show IsSha256 Phase3.zeros
    decide

end DecisionFirewall.Lab
