import DecisionFirewall.Base.Dict
import DecisionFirewall.Base.JsonLoads
import DecisionFirewall.Base.JsonText
import DecisionFirewall.Lib.Raises

/-!
# The Canonical Case Contract

`replay/contracts.py` and `feature_contract.py`: what a replay case record has to pass, check
by check, and the text of the error that each check raises. One check raises an exception of
another type on a value that cannot be hashed.

- §1 values and texts
- §2 violations
- §3 checks of single values
- §4 attributes that drive the model
- §5 events
- §6 cases

A text is a sequence of Unicode scalar values.
-/

namespace DecisionFirewall.Replay

/-! ## §1 Values and texts -/

/-- What `datetime.fromisoformat` reads: a time without an offset, or an instant, in
microseconds from the beginning of year 1 in UTC. -/
inductive Moment where
  | naive
  | aware (instant : Int)
  deriving DecidableEq, Repr

/-- What the contract takes from the standard library. -/
structure Library where
  /-- `datetime.fromisoformat`; `none` is a `ValueError` -/
  fromisoformat : String → Option Moment
  /-- the number that a `float` with this text is; `none` where it is not finite -/
  floatValue : String → Option ℚ
  /-- `str.isprintable` of a character outside ASCII -/
  isPrintable : Char → Bool
  /-- `repr(value)` of a value that is no text -/
  reprOther : Json → String

def CONTRACT_VERSION : String := "0.2.0"

def MAX_JSONL_LINE_BYTES : Nat := 1024 * 1024

def MAX_RECORDS_PER_FILE : Nat := 100000

def MAX_EVENTS_PER_CASE : Nat := 10000

def MAX_UNTRUSTED_TEXT_CHARS : Nat := 16384

def MAX_ATTRIBUTES_BYTES : Nat := 256 * 1024

/-- In the order of their names, as every list of field names below. -/
def FORBIDDEN_RUNTIME_LABEL_KEYS : List String :=
  ["adjudicated_disposition", "adjudication", "compromised", "expected_disposition",
    "ground_truth", "ground_truth_label", "is_malicious", "label", "labels", "malicious",
    "outcome_label", "scenario"]

/-- `str.isspace` of a character. -/
def isSpace (c : Char) : Bool :=
  let n := c.toNat
  (9 ≤ n && n ≤ 13) || (28 ≤ n && n ≤ 32) || n == 133 || n == 160 || n == 5760 ||
    (8192 ≤ n && n ≤ 8202) || n == 8232 || n == 8233 || n == 8239 || n == 8287 || n == 12288

/-- `not s.strip()`. -/
def isBlank (s : String) : Bool := s.toList.all isSpace

/-- A character of `_IDENTIFIER_PATTERN`. -/
def isIdentifierChar (c : Char) : Bool :=
  c.isAlphanum || c == '.' || c == '_' || c == ':' || c == '-'

/-- `_IDENTIFIER_PATTERN.fullmatch(s)`. -/
def IsIdentifier (s : String) : Prop :=
  (∃ c ∈ s.toList.head?, c.isAlphanum = true) ∧ s.toList.length ≤ 128 ∧
    ∀ c ∈ s.toList, isIdentifierChar c = true

instance decidableIsIdentifier (s : String) : Decidable (IsIdentifier s) :=
  decidable_of_iff (s.toList.head?.any Char.isAlphanum = true ∧ s.toList.length ≤ 128 ∧
      s.toList.all isIdentifierChar = true)
    (by simp only [IsIdentifier, Option.any_eq_true, List.all_eq_true, Option.mem_def])

/-- The text of the pattern. -/
def IDENTIFIER_PATTERN : String := "^[A-Za-z0-9][A-Za-z0-9._:-]\x7b0,127\x7d$"

section Repr

variable (lib : Library)

/-- A character of `repr(s)` between the quotes. -/
def reprChar (quote c : Char) : List Char :=
  let digit (k : Nat) := Json.hexDigit (c.toNat / 16 ^ k % 16)
  if c = quote ∨ c = '\\' then ['\\', c]
  else if c = '\t' then ['\\', 't']
  else if c = '\n' then ['\\', 'n']
  else if c = '\r' then ['\\', 'r']
  else if 32 ≤ c.toNat ∧ c.toNat < 127 then [c]
  else if 127 < c.toNat ∧ lib.isPrintable c = true then [c]
  else if c.toNat < 256 then ['\\', 'x', digit 1, digit 0]
  else if c.toNat < 65536 then ['\\', 'u', digit 3, digit 2, digit 1, digit 0]
  else ['\\', 'U', digit 7, digit 6, digit 5, digit 4, digit 3, digit 2, digit 1, digit 0]

/-- The quote of `repr(s)`: the double one where only the single one occurs. -/
def reprQuote (s : String) : Char :=
  if '\'' ∈ s.toList ∧ '"' ∉ s.toList then '"' else '\''

/-- What stands between the quotes. -/
def reprBody (s : String) : List Char := s.toList.flatMap (reprChar lib (reprQuote s))

/-- `repr(s)`. -/
def reprText (s : String) : String :=
  String.ofList (reprQuote s :: reprBody lib s ++ [reprQuote s])

/-- `repr(value)`. -/
def reprValue (v : Json) : String :=
  match v with
  | .str s => reprText lib s
  | v => lib.reprOther v

end Repr

/-! ## §2 Violations -/

/-- A place in a case record: in the record itself or in one of its events. -/
structure Site where
  event : Option Nat
  field : String
  deriving DecidableEq, Repr

namespace Site

/-- A field of the case. -/
def ofCase (field : String) : Site := ⟨none, field⟩

/-- A field of an event. -/
def ofEvent (index : Nat) (field : String) : Site := ⟨some index, field⟩

/-- The label of the place. -/
def label (site : Site) : String :=
  (match site.event with
    | none => "replay case"
    | some index => "replay case.events[" ++ toString index ++ "]") ++ site.field

end Site

def MAX_FAILED_LOGINS : Int := 1000000

/-- The errors that the checks raise. -/
inductive Violation where
  | recordNotObject
  | nonFinite
  | labelLeakage (paths : List String)
  | notObject (site : Site)
  | missingFields (site : Site) (names : List String)
  | unsupportedFields (site : Site) (names : List String)
  | version (value : Json)
  | emptyText (site : Site)
  | identifier (site : Site) (candidate : String)
  | boolean (site : Site)
  | numeric (site : Site)
  | unitInterval (site : Site)
  | timestamp (site : Site)
  | offset (site : Site)
  | eventsNotArray
  | eventsEmpty
  | eventCount
  | duplicateEventId (eventId caseId : String)
  | inventoryMissing (caseId : String)
  | caseMismatch (index : Nat) (eventCaseId caseId : String)
  | timeOrder (index : Nat)
  | integrity (index : Nat)
  | provenance (index : Nat)
  | referencesNotArray (index : Nat)
  | duplicateReference (index : Nat) (reference : String)
  | attributesNotCanonical (index : Nat)
  | attributesTooLarge (index : Nat)
  | unauthorized (index : Nat) (name : String)
  | integer (index : Nat) (name : String)
  | attributeRange (index : Nat) (name : String)
  | inventoryIncomplete
  | featureIdentifier (label : String)
  | featureBoolean (label : String)
  | featureNumeric (label : String)
  | featureUnitInterval (label : String)
  | contextMismatch (name : String)
  | textNotString (index : Nat)
  | textTooLong (index : Nat)
  | fileDuplicateCase (caseId : String)
  | fileDuplicateEvent (eventId : String)

/-- `str(exc)`. -/
def Violation.message (lib : Library) : Violation → String
  | .recordNotObject => "Replay case record must be a JSON object."
  | .nonFinite => "replay case contains a non-finite JSON number."
  | .labelLeakage paths => "Runtime label leakage is prohibited; forbidden fields found at " ++
      ", ".intercalate paths
  | .notObject site => site.label ++ " must be a JSON object."
  | .missingFields site names =>
    site.label ++ " is missing required fields: " ++ ", ".intercalate names ++ "."
  | .unsupportedFields site names =>
    site.label ++ " contains unsupported fields: " ++ ", ".intercalate names ++ "."
  | .version value => "replay case.schema_version must be '0.2.0'; received " ++
      reprValue lib value ++ "."
  | .emptyText site => site.label ++ " must be a non-empty string."
  | .identifier site candidate => site.label ++ " must match " ++ IDENTIFIER_PATTERN ++
      "; received " ++ reprText lib candidate ++ "."
  | .boolean site => site.label ++ " must be a boolean."
  | .numeric site => site.label ++ " must be numeric."
  | .unitInterval site => site.label ++ " must be finite and within [0, 1]."
  | .timestamp site => site.label ++ " must be an ISO-8601 timestamp."
  | .offset site => site.label ++ " must include an explicit UTC offset."
  | .eventsNotArray | .eventsEmpty => "replay case.events must be a non-empty array."
  | .eventCount => "replay case.events exceeds the 10000-event limit."
  | .duplicateEventId eventId caseId => "Duplicate event_id " ++ reprText lib eventId ++
      " within case " ++ reprText lib caseId ++ "."
  | .inventoryMissing caseId => "Case " ++ reprText lib caseId ++
      " requires at least one asset_inventory event."
  | .caseMismatch index eventCaseId caseId => (Site.ofEvent index ".case_id").label ++ " " ++
      reprText lib eventCaseId ++ " does not match parent case " ++ reprText lib caseId ++ "."
  | .timeOrder index => (Site.ofEvent index ".collected_at").label ++ " cannot precede observed_at."
  | .integrity index =>
    (Site.ofEvent index ".integrity").label ++ " must be verified, unverified, or failed."
  | .provenance index => (Site.ofEvent index ".provenance_id").label ++ " must be a string."
  | .referencesNotArray index => (Site.ofEvent index ".entity_refs").label ++ " must be an array."
  | .duplicateReference index reference => (Site.ofEvent index ".entity_refs").label ++
      " contains duplicate " ++ reprText lib reference ++ "."
  | .attributesNotCanonical index =>
    (Site.ofEvent index ".attributes").label ++ " must contain canonical JSON values."
  | .attributesTooLarge index =>
    (Site.ofEvent index ".attributes").label ++ " exceeds the 262144-byte limit."
  | .unauthorized index name => (Site.ofEvent index (".attributes." ++ name)).label ++
      " is not authorized for this source_type."
  | .integer index name =>
    (Site.ofEvent index (".attributes." ++ name)).label ++ " must be an integer."
  | .attributeRange index name => (Site.ofEvent index (".attributes." ++ name)).label ++
      " must be finite and within [0, 1000000]."
  | .inventoryIncomplete => "asset_inventory attributes must include asset_id, privilege_level, " ++
      "break_glass, and asset_criticality."
  | .featureIdentifier label => label ++ " must be an identifier."
  | .featureBoolean label => label ++ " must be a boolean."
  | .featureNumeric label => label ++ " must be numeric."
  | .featureUnitInterval label => label ++ " must be finite and within [0, 1]."
  | .contextMismatch name =>
    "Canonical " ++ name ++ " must equal asset_inventory.attributes." ++ name ++ "."
  | .textNotString index => (Site.ofEvent index ".untrusted_text").label ++ " must be a string."
  | .textTooLong index =>
    (Site.ofEvent index ".untrusted_text").label ++ " exceeds the 16384-character limit."
  | .fileDuplicateCase caseId =>
    "Duplicate case_id " ++ reprText lib caseId ++ " across the case file."
  | .fileDuplicateEvent eventId =>
    "Duplicate event_id " ++ reprText lib eventId ++ " across the case file."

/-- What a check raises: a `ContractValidationError`, or the `TypeError` of a value that
cannot be hashed. -/
inductive Failure where
  | contract (v : Violation)
  | typeError

/-- A part of the contract. -/
abbrev Checked (α : Type) := Except Failure α

def violate {α : Type} (v : Violation) : Checked α := .error (.contract v)

/-- `if not condition: raise`. -/
def ensure (condition : Prop) [Decidable condition] (v : Violation) : Checked Unit :=
  if condition then .ok () else violate v

/-! ## §3 Checks of single values -/

/-- `_require_exact_fields(value, allowed, label)`. -/
def requireExactFields (allowed : List String) (site : Site) (value : Dict) : Checked Unit :=
  let names := value.map Prod.fst
  let missing := allowed.filter fun name => name ∉ names
  let unexpected := (names.filter fun name => name ∉ allowed).mergeSort fun a b => decide (a ≤ b)
  if missing ≠ [] then violate (.missingFields site missing)
  else if unexpected ≠ [] then violate (.unsupportedFields site unexpected)
  else .ok ()

/-- `_require_nonempty_string(value, label)`. -/
def requireNonemptyString (site : Site) : Json → Checked String
  | .str s => if isBlank s then violate (.emptyText site) else .ok s
  | _ => violate (.emptyText site)

/-- `_require_identifier(value, label)`. -/
def requireIdentifier (site : Site) (value : Json) : Checked String := do
  let candidate ← requireNonemptyString site value
  if IsIdentifier candidate then .ok candidate else violate (.identifier site candidate)

/-- `_require_boolean(value, label)`. -/
def requireBoolean (site : Site) : Json → Checked Bool
  | .bool b => .ok b
  | _ => violate (.boolean site)

section Values

variable (lib : Library)

/-- The number of the unit interval that a value is, under the errors of the caller. An
integer that `float` cannot convert is outside the interval. -/
def unitInterval (numeric range : Violation) : Json → Checked ℚ
  | .int n => if 0 ≤ n ∧ n ≤ 1 then .ok n else violate range
  | .float repr => match lib.floatValue repr with
    | some x => if 0 ≤ x ∧ x ≤ 1 then .ok x else violate range
    | none => violate range
  | _ => violate numeric

/-- `_require_unit_interval(value, label)`. -/
def requireUnitInterval (site : Site) : Json → Checked ℚ :=
  unitInterval lib (.numeric site) (.unitInterval site)

/-- `candidate.replace("Z", "+00:00")`. -/
def replaceZulu (candidate : String) : String :=
  String.ofList (candidate.toList.flatMap fun c =>
    if c = 'Z' then ['+', '0', '0', ':', '0', '0'] else [c])

/-- `parse_timestamp(value, label)`. -/
def parseTimestamp (site : Site) (value : Json) : Checked Int := do
  let candidate ← requireNonemptyString site value
  match lib.fromisoformat (replaceZulu candidate) with
  | none => violate (.timestamp site)
  | some .naive => violate (.offset site)
  | some (.aware instant) => .ok instant

/-- `_require_finite_json_numbers` finds nothing. -/
def isFinite (value : Json) : Bool := value.allFloats fun repr => (lib.floatValue repr).isSome

end Values

mutual

/-- `detect_runtime_label_leakage(value, path)`. -/
def detectRuntimeLabelLeakage (path : String) : Json → List String
  | .obj fields => leakageFields path fields
  | .arr xs => leakageItems path 0 xs
  | _ => []

def leakageFields (path : String) : List (String × Json) → List String
  | [] => []
  | (key, child) :: fields =>
    let childPath := path ++ "." ++ key
    (if lower key ∈ FORBIDDEN_RUNTIME_LABEL_KEYS then [childPath] else []) ++
      detectRuntimeLabelLeakage childPath child ++ leakageFields path fields

def leakageItems (path : String) (index : Nat) : List Json → List String
  | [] => []
  | child :: xs => detectRuntimeLabelLeakage (path ++ "[" ++ toString index ++ "]") child ++
      leakageItems path (index + 1) xs

end

/-! ## §4 Attributes that drive the model -/

def MODELED_BOOLEAN_ATTRIBUTE_SOURCES : List (String × List String) :=
  [("new_device", ["identity"]),
    ("impossible_travel", ["identity"]),
    ("threat_ip", ["network", "threat_intel"]),
    ("mfa_fatigue", ["identity"]),
    ("token_reuse", ["identity"]),
    ("credential_dumping", ["endpoint"]),
    ("lateral_movement", ["network"]),
    ("unusual_admin_action", ["endpoint"]),
    ("edr_malware", ["endpoint"]),
    ("after_hours", ["identity"]),
    ("known_vpn", ["network"]),
    ("approved_travel", ["user_context"]),
    ("maintenance_window", ["change_management"]),
    ("service_account_baseline", ["change_management"]),
    ("strong_mfa", ["identity"]),
    ("device_noncompliant", ["endpoint"]),
    ("oauth_grant", ["identity"])]

def MODELED_INTEGER_ATTRIBUTE_SOURCES : List (String × List String) :=
  [("failed_logins", ["identity"])]

def EVIDENCE_BOOLEAN_ATTRIBUTE_SOURCES : List (String × List String) :=
  [("source_conflict", ["network"])]

/-- The results of a check of every entry, in order. -/
def collect {α β : Type} (check : α → Checked (List β)) : List α → Checked (List β)
  | [] => .ok []
  | a :: as => do
    let x ← check a
    let xs ← collect check as
    return x ++ xs

/-- One attribute, where it occurs: its source is authorized and its value is read. -/
def selectAttribute (index : Nat) (sourceType : String) (attributes : Dict)
    (read : String → Json → Checked Json) (entry : String × List String) : Checked Dict :=
  match attributes.lookup entry.1 with
  | none => .ok []
  | some value =>
    if sourceType ∉ entry.2 then violate (.unauthorized index entry.1)
    else (read entry.1 value).map fun v => [(entry.1, v)]

/-- A Boolean attribute. -/
def readBoolean (index : Nat) (name : String) : Json → Checked Json
  | .bool b => .ok (.bool b)
  | _ => violate (.boolean (.ofEvent index (".attributes." ++ name)))

section Attributes

variable (lib : Library)

/-- The one attribute that counts. -/
def readCount (index : Nat) (name : String) : Json → Checked Json
  | .int n =>
    if 0 ≤ n ∧ n ≤ MAX_FAILED_LOGINS then .ok (.int n) else violate (.attributeRange index name)
  | .float repr => match lib.floatValue repr with
    | none => violate (.attributeRange index name)
    | some x =>
      if x.den ≠ 1 then violate (.integer index name)
      else if 0 ≤ x.num ∧ x.num ≤ MAX_FAILED_LOGINS then .ok (.int x.num)
      else violate (.attributeRange index name)
  | _ => violate (.integer index name)

/-- `select_modeled_attributes(source_type, attributes, label=…)`. -/
def selectModeledAttributes (index : Nat) (sourceType : String) (attributes : Dict) :
    Checked Dict := do
  let booleans ← collect (selectAttribute index sourceType attributes (readBoolean index))
    MODELED_BOOLEAN_ATTRIBUTE_SOURCES
  let integers ← collect (selectAttribute index sourceType attributes (readCount lib index))
    MODELED_INTEGER_ATTRIBUTE_SOURCES
  return booleans ++ integers

/-- `select_evidence_attributes(source_type, attributes, label=…)`. -/
def selectEvidenceAttributes (index : Nat) (sourceType : String) (attributes : Dict) :
    Checked Dict :=
  collect (selectAttribute index sourceType attributes (readBoolean index))
    EVIDENCE_BOOLEAN_ATTRIBUTE_SOURCES

/-- `_require_identifier` of the feature contract. -/
def featureIdentifier (label : String) : Json → Checked String
  | .str s => if IsIdentifier s then .ok s else violate (.featureIdentifier label)
  | _ => violate (.featureIdentifier label)

/-- A Boolean of the feature contract. -/
def featureBoolean (label : String) : Json → Checked Bool
  | .bool b => .ok b
  | _ => violate (.featureBoolean label)

/-- One inventory assertion against the fields of the case. -/
def checkInventory (assetId privilegeLevel : String) (breakGlass : Bool) (criticality : ℚ)
    (attributes : Dict) : Checked Unit := do
  ensure (∀ name ∈ ["asset_id", "privilege_level", "break_glass", "asset_criticality"],
    (attributes.lookup name).isSome = true) .inventoryIncomplete
  let inventoryAssetId ←
    featureIdentifier "asset_inventory.attributes.asset_id" (attributes.get "asset_id")
  let inventoryPrivilege ← featureIdentifier "asset_inventory.attributes.privilege_level"
    (attributes.get "privilege_level")
  let inventoryBreakGlass ←
    featureBoolean "asset_inventory.attributes.break_glass" (attributes.get "break_glass")
  let inventoryCriticality ←
    unitInterval lib (.featureNumeric "asset_inventory.attributes.asset_criticality")
      (.featureUnitInterval "asset_inventory.attributes.asset_criticality")
      (attributes.get "asset_criticality")
  ensure (inventoryAssetId = assetId) (.contextMismatch "asset_id")
  ensure (inventoryPrivilege = privilegeLevel) (.contextMismatch "privilege_level")
  ensure (inventoryBreakGlass = breakGlass) (.contextMismatch "break_glass")
  ensure (inventoryCriticality = criticality) (.contextMismatch "asset_criticality")

/-- Every inventory assertion, in order. -/
def checkInventories (assetId privilegeLevel : String) (breakGlass : Bool) (criticality : ℚ) :
    List Dict → Checked Unit
  | [] => .ok ()
  | attributes :: rest => do
    checkInventory lib assetId privilegeLevel breakGlass criticality attributes
    checkInventories assetId privilegeLevel breakGlass criticality rest

/-- `validate_canonical_case_feature_context(…)`. The flag and the number have been read by
the same checks already, and there is an inventory. -/
def validateCanonicalCaseFeatureContext (assetId privilegeLevel : Json) (breakGlass : Bool)
    (criticality : ℚ) (inventory : List Dict) : Checked Unit := do
  let canonicalAssetId ← featureIdentifier "case.asset_id" assetId
  let canonicalPrivilege ← featureIdentifier "case.privilege_level" privilegeLevel
  checkInventories lib canonicalAssetId canonicalPrivilege breakGlass criticality inventory

end Attributes

/-! ## §5 Events -/

/-- The text of a member that is one. -/
def textOf (d : Dict) (name : String) : String :=
  match d.get name with
  | .str s => s
  | _ => ""

def EVENT_FIELDS : List String :=
  ["attributes", "case_id", "collected_at", "contains_instructional_content", "entity_refs",
    "event_id", "integrity", "observed_at", "provenance_id", "source_instance", "source_type",
    "trust_score", "untrusted_text"]

section Events

variable (lib : Library)

/-- `_validate_event_record`, up to the integrity of the event. -/
def validateEventHead (index : Nat) (caseId : String) (event : Dict) : Checked Unit := do
  requireExactFields EVENT_FIELDS (.ofEvent index "") event
  let _ ← requireIdentifier (.ofEvent index ".event_id") (event.get "event_id")
  let eventCaseId ← requireIdentifier (.ofEvent index ".case_id") (event.get "case_id")
  ensure (eventCaseId = caseId) (.caseMismatch index eventCaseId caseId)
  let _ ← requireIdentifier (.ofEvent index ".source_type") (event.get "source_type")
  let _ ← requireIdentifier (.ofEvent index ".source_instance") (event.get "source_instance")
  let observed ← parseTimestamp lib (.ofEvent index ".observed_at") (event.get "observed_at")
  let collected ← parseTimestamp lib (.ofEvent index ".collected_at") (event.get "collected_at")
  ensure (¬ collected < observed) (.timeOrder index)

/-- `event.get("integrity") not in {"verified", "unverified", "failed"}`: a list or a
dictionary cannot be looked up in a set. -/
def validateIntegrity (index : Nat) : Json → Checked Unit
  | .arr _ | .obj _ => .error .typeError
  | .str s => ensure (s ∈ ["verified", "unverified", "failed"]) (.integrity index)
  | _ => violate (.integrity index)

/-- The entity references of an event. -/
def validateReferences (index : Nat) (seen : List String) : List Json → Checked Unit
  | [] => .ok ()
  | reference :: rest => do
    let parsed ← requireIdentifier (.ofEvent index ".entity_refs[]") reference
    ensure (parsed ∉ seen) (.duplicateReference index parsed)
    validateReferences index (parsed :: seen) rest

/-- The references of an event are an array without duplicates. -/
def validateEntityRefs (index : Nat) : Json → Checked Unit
  | .arr references => validateReferences index [] references
  | _ => violate (.referencesNotArray index)

/-- The provenance of an event is empty or an identifier. -/
def validateProvenance (index : Nat) : Json → Checked Unit
  | .str provenanceId =>
    if provenanceId = "" then .ok ()
    else (requireIdentifier (.ofEvent index ".provenance_id") (.str provenanceId)).map fun _ => ()
  | _ => violate (.provenance index)

/-- The opaque text of an event. -/
def validateUntrustedText (index : Nat) : Json → Checked Unit
  | .str text => ensure (text.length ≤ MAX_UNTRUSTED_TEXT_CHARS) (.textTooLong index)
  | _ => violate (.textNotString index)

/-- The attributes of an event. -/
def validateAttributes (index : Nat) (sourceType : String) : Json → Checked Unit
  | .obj attributes => do
    ensure (isFinite lib (.obj attributes) = true) (.attributesNotCanonical index)
    ensure ((Json.obj attributes).text.length ≤ MAX_ATTRIBUTES_BYTES) (.attributesTooLarge index)
    let _ ← selectModeledAttributes lib index sourceType attributes
    let _ ← selectEvidenceAttributes index sourceType attributes
    return ()
  | _ => violate (.notObject (.ofEvent index ".attributes"))

/-- `_validate_event_record`, behind the integrity of the event. -/
def validateEventTail (index : Nat) (event : Dict) : Checked Unit := do
  validateProvenance index (event.get "provenance_id")
  let _ ← requireUnitInterval lib (.ofEvent index ".trust_score") (event.get "trust_score")
  validateEntityRefs index (event.get "entity_refs")
  validateAttributes lib index (textOf event "source_type") (event.get "attributes")
  validateUntrustedText index (event.get "untrusted_text")
  let _ ← requireBoolean (.ofEvent index ".contains_instructional_content")
    (event.get "contains_instructional_content")
  return ()

/-- `_validate_event_record(event, label, case_id)`, with the members of the event. -/
def validateEventRecord (index : Nat) (caseId : String) : Json → Checked Dict
  | .obj event => do
    validateEventHead lib index caseId event
    validateIntegrity index (Dict.get event "integrity")
    validateEventTail lib index event
    return event
  | _ => violate (.notObject (.ofEvent index ""))

/-- The attributes of an event from the asset inventory. -/
def inventoryOf (event : Dict) : List Dict :=
  if textOf event "source_type" = "asset_inventory" then
    match event.get "attributes" with
    | .obj attributes => [attributes]
    | _ => []
  else []

/-- The events of a case, with what the asset inventory says. -/
def validateEvents (caseId : String) (index : Nat) (seen : List String) :
    List Json → Checked (List Dict)
  | [] => .ok []
  | event :: events => do
    let fields ← validateEventRecord lib index caseId event
    let eventId := textOf fields "event_id"
    ensure (eventId ∉ seen) (.duplicateEventId eventId caseId)
    let inventory ← validateEvents caseId (index + 1) (eventId :: seen) events
    return inventoryOf fields ++ inventory

/-! ## §6 Cases -/

def CASE_FIELDS : List String :=
  ["asset_criticality", "asset_id", "break_glass", "case_id", "events", "opened_at",
    "privilege_level", "schema_version", "subject_id"]

/-- What the head of a case says of it. -/
structure CaseHead where
  caseId : String
  breakGlass : Bool
  criticality : ℚ
  events : List Json

/-- `_require_version(value, label)`. -/
def requireVersion : Json → Checked Unit
  | .str s => ensure (s = CONTRACT_VERSION) (.version (.str s))
  | v => violate (.version v)

/-- The events of a case are an array that is neither empty nor too long. -/
def requireEvents : Json → Checked (List Json)
  | .arr [] => violate .eventsEmpty
  | .arr events => if MAX_EVENTS_PER_CASE < events.length then violate .eventCount else .ok events
  | _ => violate .eventsNotArray

/-- `validate_case_record`, up to its events. -/
def validateCaseHead (record : Dict) : Checked CaseHead := do
  ensure (isFinite lib (.obj record) = true) .nonFinite
  ensure (detectRuntimeLabelLeakage "case" (.obj record) = [])
    (.labelLeakage (detectRuntimeLabelLeakage "case" (.obj record)))
  requireExactFields CASE_FIELDS (.ofCase "") record
  requireVersion (record.get "schema_version")
  let caseId ← requireIdentifier (.ofCase ".case_id") (record.get "case_id")
  let _ ← parseTimestamp lib (.ofCase ".opened_at") (record.get "opened_at")
  let _ ← requireIdentifier (.ofCase ".subject_id") (record.get "subject_id")
  let _ ← requireIdentifier (.ofCase ".asset_id") (record.get "asset_id")
  let _ ← requireIdentifier (.ofCase ".privilege_level") (record.get "privilege_level")
  let breakGlass ← requireBoolean (.ofCase ".break_glass") (record.get "break_glass")
  let criticality ←
    requireUnitInterval lib (.ofCase ".asset_criticality") (record.get "asset_criticality")
  let events ← requireEvents (record.get "events")
  return ⟨caseId, breakGlass, criticality, events⟩

/-- `validate_case_record(record)`. -/
def validateCaseRecord : Json → Checked Unit
  | .obj record => do
    let head ← validateCaseHead lib record
    let inventory ← validateEvents lib head.caseId 0 [] head.events
    ensure (inventory ≠ []) (.inventoryMissing head.caseId)
    validateCanonicalCaseFeatureContext lib (Dict.get record "asset_id")
      (Dict.get record "privilege_level") head.breakGlass head.criticality inventory
  | _ => violate .recordNotObject

/-- The identifier of a validated event. -/
def eventIdOf : Json → String
  | .obj event => textOf event "event_id"
  | _ => ""

/-- The identifiers of the events of a validated record. -/
def eventIdsOf (record : Json) : List String :=
  match record with
  | .obj fields => match Dict.get fields "events" with
    | .arr events => events.map eventIdOf
    | _ => []
  | _ => []

/-- The identifier of a validated record. -/
def caseIdOf (record : Json) : String :=
  match record with
  | .obj fields => textOf fields "case_id"
  | _ => ""

/-- The event identifiers of a record among those of the file. -/
def addEventIds (seen : List String) : List String → Checked (List String)
  | [] => .ok seen
  | eventId :: rest => do
    ensure (eventId ∉ seen) (.fileDuplicateEvent eventId)
    addEventIds (eventId :: seen) rest

/-- The records of a file, behind those with these identifiers. -/
def validateRecordsFrom (caseIds eventIds : List String) : List Json → Checked Unit
  | [] => .ok ()
  | record :: rest => do
    validateCaseRecord lib record
    ensure (caseIdOf record ∉ caseIds) (.fileDuplicateCase (caseIdOf record))
    let eventIds ← addEventIds eventIds (eventIdsOf record)
    validateRecordsFrom (caseIdOf record :: caseIds) eventIds rest

/-- `validate_case_records(records)`. -/
def validateCaseRecords (records : List Json) : Checked (List Json) :=
  (validateRecordsFrom lib [] [] records).map fun _ => records

end Events

end DecisionFirewall.Replay
