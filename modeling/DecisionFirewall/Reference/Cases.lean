import DecisionFirewall.Engine.Features
import DecisionFirewall.Reference.Checks

/-!
# The Cases of the Reference

`_validate_event` and `_validate_case` of `replay/reference_decision.py`. A case that they accept
is a record; the members that are read later stand beside it.

- §1 tables
- §2 events
- §3 cases
- §4 what is accepted
- §5 the case of the engine
-/

namespace DecisionFirewall.Reference

open Engine (EngineFloat EvidenceEvent IdentityCase textMember)
open Lib (bind_eq_ok)

/-! ## §1 Tables -/

/-- `_BOOLEAN_FEATURE_SOURCES`. -/
def BOOLEAN_FEATURE_SOURCES : List (String × List String) :=
  [("new_device", ["identity"]),
    ("impossible_travel", ["identity"]),
    ("threat_ip", ["network", "threat_intel"]),
    ("mfa_fatigue", ["identity"]),
    ("token_reuse", ["identity"]),
    ("credential_dumping", ["endpoint"]),
    ("lateral_movement", ["network"]),
    ("unusual_admin_action", ["endpoint"]),
    ("edr_malware", ["endpoint"]),
    ("after_hours", ["identity"]),
    ("known_vpn", ["network"]),
    ("approved_travel", ["user_context"]),
    ("maintenance_window", ["change_management"]),
    ("service_account_baseline", ["change_management"]),
    ("strong_mfa", ["identity"]),
    ("device_noncompliant", ["endpoint"]),
    ("oauth_grant", ["identity"])]

/-- `_FAILED_LOGIN_SOURCES`. -/
def FAILED_LOGIN_SOURCES : List String := ["identity"]

/-- `_SOURCE_CONFLICT_SOURCES`. -/
def SOURCE_CONFLICT_SOURCES : List String := ["network"]

/-- `_MAX_FAILED_LOGINS`. -/
def MAX_FAILED_LOGINS : Int := 1000000

/-- `_MAX_EVENTS_PER_CASE`. -/
def MAX_EVENTS_PER_CASE : Nat := 10000

/-- `_MAX_UNTRUSTED_TEXT_CHARS`. -/
def MAX_UNTRUSTED_TEXT_CHARS : Nat := 16384

/-- `_MAX_ATTRIBUTES_BYTES`. -/
def MAX_ATTRIBUTES_BYTES : Nat := 256 * 1024

/-- `_CASE_FIELDS`. -/
def CASE_FIELDS : List String :=
  ["case_id", "opened_at", "subject_id", "privilege_level", "break_glass", "asset_id",
    "asset_criticality", "events"]

/-- `_EVENT_FIELDS`. -/
def EVENT_FIELDS : List String :=
  ["event_id", "case_id", "source_type", "source_instance", "observed_at", "collected_at",
    "integrity", "provenance_id", "trust_score", "entity_refs", "attributes", "untrusted_text",
    "contains_instructional_content"]

/-- `_INTEGRITY_VALUES`. -/
def INTEGRITY_VALUES : List String := ["verified", "unverified", "failed"]

/-! ## §2 Events -/

/-- A Boolean attribute, where it occurs. -/
def checkFlag (sourceType : String) (attributes : Dict) (entry : String × List String) :
    Checked Unit :=
  match attributes.lookup entry.1 with
  | none => .ok ()
  | some value => do
    require (sourceType ∈ entry.2) "REFERENCE_DECISION_SOURCE_CONTEXT"
    let _ ← boolean "REFERENCE_DECISION_ATTRIBUTE_TYPE" value
    return ()

/-- The loop over the Boolean attributes. -/
def checkFlags (sourceType : String) (attributes : Dict) : List (String × List String) → Checked Unit
  | [] => .ok ()
  | entry :: entries => do
    checkFlag sourceType attributes entry
    checkFlags sourceType attributes entries

section Cases

variable (lib : Engine.Library) (F : Type) [EngineFloat F]

/-- The count of failed logins, as it is read wherever it is needed. -/
def failedLogins (value : Json) : Checked Int :=
  exactInteger F "REFERENCE_DECISION_ATTRIBUTE_TYPE" 0 MAX_FAILED_LOGINS value

/-- The count of failed logins, where it occurs. -/
def checkFailedLogins (sourceType : String) (attributes : Dict) : Checked Unit :=
  match attributes.lookup "failed_logins" with
  | none => .ok ()
  | some value => do
    require (sourceType ∈ FAILED_LOGIN_SOURCES) "REFERENCE_DECISION_SOURCE_CONTEXT"
    let _ ← failedLogins F value
    return ()

/-- The attributes of an event that count. -/
def checkAttributes (sourceType : String) (attributes : Dict) : Checked Unit := do
  checkFlags sourceType attributes BOOLEAN_FEATURE_SOURCES
  checkFailedLogins F sourceType attributes
  checkFlag sourceType attributes ("source_conflict", SOURCE_CONFLICT_SOURCES)

/-- `_validate_event(value, case_id=…)`. -/
def validateEvent (caseId : String) (value : Json) : Checked EvidenceEvent := do
  let fields ← object "REFERENCE_DECISION_EVENT_SHAPE" value
  require (hasFields fields EVENT_FIELDS = true) "REFERENCE_DECISION_EVENT_SHAPE"
  let eventId ← identifier "REFERENCE_DECISION_EVENT" (fields.get "event_id")
  let boundCase ← identifier "REFERENCE_DECISION_EVENT" (fields.get "case_id")
  require (boundCase = caseId) "REFERENCE_DECISION_EVENT_BINDING"
  let sourceType ← identifier "REFERENCE_DECISION_EVENT" (fields.get "source_type")
  let _ ← identifier "REFERENCE_DECISION_EVENT" (fields.get "source_instance")
  let observed ← timestamp lib "REFERENCE_DECISION_EVENT" (fields.get "observed_at")
  let collected ← timestamp lib "REFERENCE_DECISION_EVENT" (fields.get "collected_at")
  require (observed ≤ collected) "REFERENCE_DECISION_EVENT_TIME"
  let integrity ← memberText INTEGRITY_VALUES "REFERENCE_DECISION_EVENT" (fields.get "integrity")
  let provenanceId ← identifierOrEmpty "REFERENCE_DECISION_EVENT" (fields.get "provenance_id")
  let _ ← (unitNumber "REFERENCE_DECISION_EVENT" (fields.get "trust_score") : Checked F)
  let _ ← stringList "REFERENCE_DECISION_EVENT" (fields.get "entity_refs")
  let attributes ← object "REFERENCE_DECISION_EVENT_SHAPE" (fields.get "attributes")
  let bytes ← canonicalBytes F (.obj attributes)
  require (bytes.length ≤ MAX_ATTRIBUTES_BYTES) "REFERENCE_DECISION_RESOURCE_LIMIT"
  let untrustedText ← text "REFERENCE_DECISION_EVENT" (fields.get "untrusted_text")
  require (untrustedText.length ≤ MAX_UNTRUSTED_TEXT_CHARS) "REFERENCE_DECISION_RESOURCE_LIMIT"
  let instructional ←
    boolean "REFERENCE_DECISION_EVENT" (fields.get "contains_instructional_content")
  checkAttributes F sourceType attributes
  return {
    eventId := eventId
    sourceType := sourceType
    observedAt := Replay.textOf fields "observed_at"
    collectedAt := Replay.textOf fields "collected_at"
    integrity := integrity
    provenanceId := provenanceId
    trustScore := fields.get "trust_score"
    attributes := attributes
    untrustedText := untrustedText
    containsInstructionalContent := instructional }

/-! ## §3 Cases -/

/-- A case that is accepted: the record with the number it is given for the criticality, and the
members that are read. -/
structure Case (F : Type) where
  record : Dict
  case : IdentityCase
  criticality : F

/-- One inventory event against the case. -/
def checkInventory (assetId privilegeLevel : String) (breakGlass : Bool) (criticality : F)
    (attributes : Dict) : Checked Unit := do
  require (∀ name ∈ ["asset_id", "privilege_level", "break_glass", "asset_criticality"],
    (attributes.lookup name).isSome = true) "REFERENCE_DECISION_INVENTORY_SHAPE"
  let inventoryAsset ←
    identifier "REFERENCE_DECISION_INVENTORY_TYPE" (attributes.get "asset_id")
  let inventoryPrivilege ←
    identifier "REFERENCE_DECISION_INVENTORY_TYPE" (attributes.get "privilege_level")
  let inventoryCriticality : F ←
    unitNumber "REFERENCE_DECISION_INVENTORY_TYPE" (attributes.get "asset_criticality")
  let inventoryBreakGlass ←
    boolean "REFERENCE_DECISION_INVENTORY_TYPE" (attributes.get "break_glass")
  require (inventoryAsset = assetId ∧ inventoryPrivilege = privilegeLevel ∧
    inventoryBreakGlass = breakGlass ∧
      EngineFloat.exact inventoryCriticality = EngineFloat.exact criticality)
    "REFERENCE_DECISION_INVENTORY_BINDING"

/-- The loop over the inventory. -/
def checkInventories (assetId privilegeLevel : String) (breakGlass : Bool) (criticality : F) :
    List Dict → Checked Unit
  | [] => .ok ()
  | attributes :: rest => do
    checkInventory F assetId privilegeLevel breakGlass criticality attributes
    checkInventories assetId privilegeLevel breakGlass criticality rest

/-- `normalized`: the record with the number. -/
def normalizedRecord {F : Type} [EngineFloat F] (fields : Dict) (criticality : F) : Dict :=
  fields.map fun field =>
    if field.1 = "asset_criticality" then (field.1, EngineFloat.toJson criticality) else field

/-- `_validate_case(value)`. -/
def validateCase (value : Json) : Checked (Case F) := do
  let fields ← object "REFERENCE_DECISION_CASE_SHAPE" value
  require (hasFields fields CASE_FIELDS = true) "REFERENCE_DECISION_CASE_SHAPE"
  let caseId ← identifier "REFERENCE_DECISION_CASE" (fields.get "case_id")
  let _ ← timestamp lib "REFERENCE_DECISION_CASE" (fields.get "opened_at")
  let subjectId ← identifier "REFERENCE_DECISION_CASE" (fields.get "subject_id")
  let privilegeLevel ← identifier "REFERENCE_DECISION_CASE" (fields.get "privilege_level")
  let breakGlass ← boolean "REFERENCE_DECISION_CASE" (fields.get "break_glass")
  let assetId ← identifier "REFERENCE_DECISION_CASE" (fields.get "asset_id")
  let criticality : F ← unitNumber "REFERENCE_DECISION_CASE" (fields.get "asset_criticality")
  let rawEvents ← array "REFERENCE_DECISION_CASE_SHAPE" (fields.get "events")
  require (rawEvents ≠ []) "REFERENCE_DECISION_CASE_SHAPE"
  require (rawEvents.length ≤ MAX_EVENTS_PER_CASE) "REFERENCE_DECISION_RESOURCE_LIMIT"
  let events ← rawEvents.mapM (validateEvent lib F caseId)
  require (events.map EvidenceEvent.eventId).Nodup "REFERENCE_DECISION_EVENT_DUPLICATE"
  let inventory := events.filter fun event => event.sourceType = "asset_inventory"
  require (inventory ≠ []) "REFERENCE_DECISION_INVENTORY_MISSING"
  checkInventories F assetId privilegeLevel breakGlass criticality
    (inventory.map EvidenceEvent.attributes)
  return {
    record := normalizedRecord fields criticality
    case := {
      caseId := caseId
      subjectId := subjectId
      privilegeLevel := privilegeLevel
      breakGlass := breakGlass
      assetId := assetId
      assetCriticality := EngineFloat.toJson criticality
      events := events }
    criticality := criticality }

end Cases

/-! ## §4 What is accepted -/

section Accepted

variable {lib : Engine.Library} {F : Type} [EngineFloat F]

/-- The flag of an event is a Boolean from a source for it. -/
def FlagOk (sourceType : String) (attributes : Dict) (entry : String × List String) : Prop :=
  ∀ value, attributes.lookup entry.1 = some value →
    sourceType ∈ entry.2 ∧ ∃ b, value = .bool b

/-- An event of which an accepted record was read. -/
structure ValidEvent (lib : Engine.Library) (F : Type) [EngineFloat F] (fields : Dict)
    (event : EvidenceEvent) : Prop where
  shape : hasFields fields EVENT_FIELDS = true
  caseId : ∃ s, fields.get "case_id" = .str s
  sourceInstance : ∃ s, fields.get "source_instance" = .str s
  eventId : fields.get "event_id" = .str event.eventId
  sourceType : fields.get "source_type" = .str event.sourceType
  source : Replay.IsIdentifier event.sourceType
  observedAt : fields.get "observed_at" = .str event.observedAt
  collectedAt : fields.get "collected_at" = .str event.collectedAt
  times : ∃ observed collected : Int,
    lib.fromisoformat (Replay.replaceZulu event.observedAt) = some (.aware observed) ∧
      lib.fromisoformat (Replay.replaceZulu event.collectedAt) = some (.aware collected) ∧
        observed ≤ collected
  integrity : fields.get "integrity" = .str event.integrity
  provenanceId : fields.get "provenance_id" = .str event.provenanceId
  trustScore : fields.get "trust_score" = event.trustScore
  trust : ∃ x : F, Engine.floatOf F event.trustScore = .ok x
  attributes : fields.get "attributes" = .obj event.attributes
  untrustedText : fields.get "untrusted_text" = .str event.untrustedText
  instructional :
    fields.get "contains_instructional_content" = .bool event.containsInstructionalContent
  flags : ∀ entry ∈ BOOLEAN_FEATURE_SOURCES, FlagOk event.sourceType event.attributes entry
  conflict : FlagOk event.sourceType event.attributes ("source_conflict", SOURCE_CONFLICT_SOURCES)
  logins : ∀ value, event.attributes.lookup "failed_logins" = some value →
    event.sourceType ∈ FAILED_LOGIN_SOURCES ∧ ∃ n, failedLogins F value = .ok n

theorem flagOk_of_check {sourceType : String} {attributes : Dict} {entry : String × List String}
    {u : Unit} (h : checkFlag sourceType attributes entry = .ok u) :
    FlagOk sourceType attributes entry := by
  intro value hvalue
  unfold checkFlag at h
  rw [hvalue] at h
  obtain ⟨_, hsource, h⟩ := bind_eq_ok.mp h
  obtain ⟨b, hb, -⟩ := bind_eq_ok.mp h
  exact ⟨require_eq_ok.mp hsource, b, boolean_eq_ok.mp hb⟩

theorem flagsOk_of_check {sourceType : String} {attributes : Dict}
    {entries : List (String × List String)} {u : Unit}
    (h : checkFlags sourceType attributes entries = .ok u) :
    ∀ entry ∈ entries, FlagOk sourceType attributes entry := by
  induction entries with
  | nil => exact fun entry hentry => absurd hentry List.not_mem_nil
  | cons entry entries ih =>
    obtain ⟨v, hentry, hrest⟩ := bind_eq_ok.mp h
    exact List.forall_mem_cons.mpr ⟨flagOk_of_check hentry, ih hrest⟩

theorem logins_of_check {sourceType : String} {attributes : Dict} {u : Unit}
    (h : checkFailedLogins F sourceType attributes = .ok u) :
    ∀ value, attributes.lookup "failed_logins" = some value →
      sourceType ∈ FAILED_LOGIN_SOURCES ∧ ∃ n, failedLogins F value = .ok n := by
  intro value hvalue
  unfold checkFailedLogins at h
  rw [hvalue] at h
  obtain ⟨_, hsource, h⟩ := bind_eq_ok.mp h
  obtain ⟨n, hn, -⟩ := bind_eq_ok.mp h
  exact ⟨require_eq_ok.mp hsource, n, hn⟩

theorem textOf_eq {fields : Dict} {name s : String} (h : fields.get name = .str s) :
    Replay.textOf fields name = s := by
  unfold Replay.textOf
  rw [h]

/-- What the checks of an event leave to say. -/
theorem validEvent_of_validateEvent {caseId : String} {value : Json} {event : EvidenceEvent}
    (h : validateEvent lib F caseId value = .ok event) :
    ∃ fields, value = .obj fields ∧ ValidEvent lib F fields event := by
  obtain ⟨fields, hobject, h⟩ := bind_eq_ok.mp h
  obtain ⟨_, hfields, h⟩ := bind_eq_ok.mp h
  obtain ⟨eventId, heventId, h⟩ := bind_eq_ok.mp h
  obtain ⟨boundCase, hboundCase, h⟩ := bind_eq_ok.mp h
  obtain ⟨_, _, h⟩ := bind_eq_ok.mp h
  obtain ⟨sourceType, hsourceType, h⟩ := bind_eq_ok.mp h
  obtain ⟨sourceInstance, hsourceInstance, h⟩ := bind_eq_ok.mp h
  obtain ⟨observed, hobserved, h⟩ := bind_eq_ok.mp h
  obtain ⟨collected, hcollected, h⟩ := bind_eq_ok.mp h
  obtain ⟨_, horder, h⟩ := bind_eq_ok.mp h
  obtain ⟨integrity, hintegrity, h⟩ := bind_eq_ok.mp h
  obtain ⟨provenanceId, hprovenanceId, h⟩ := bind_eq_ok.mp h
  obtain ⟨trust, htrust, h⟩ := bind_eq_ok.mp h
  obtain ⟨refs, -, h⟩ := bind_eq_ok.mp h
  obtain ⟨attributes, hattributes, h⟩ := bind_eq_ok.mp h
  obtain ⟨bytes, -, h⟩ := bind_eq_ok.mp h
  obtain ⟨_, _, h⟩ := bind_eq_ok.mp h
  obtain ⟨untrustedText, htext, h⟩ := bind_eq_ok.mp h
  obtain ⟨_, _, h⟩ := bind_eq_ok.mp h
  obtain ⟨instructional, hinstructional, h⟩ := bind_eq_ok.mp h
  obtain ⟨_, hchecked, h⟩ := bind_eq_ok.mp h
  obtain ⟨_, hflags, hrest⟩ := bind_eq_ok.mp hchecked
  obtain ⟨_, hlogins, hconflict⟩ := bind_eq_ok.mp hrest
  obtain ⟨observedAt, hobservedAt, hobservedTime⟩ := timestamp_eq_ok hobserved
  obtain ⟨collectedAt, hcollectedAt, hcollectedTime⟩ := timestamp_eq_ok hcollected
  cases h
  refine ⟨fields, object_eq_ok.mp hobject, ?_⟩
  rw [textOf_eq hobservedAt, textOf_eq hcollectedAt]
  exact {
    shape := require_eq_ok.mp hfields
    caseId := ⟨boundCase, (identifier_eq_ok.mp hboundCase).1⟩
    sourceInstance := ⟨sourceInstance, (identifier_eq_ok.mp hsourceInstance).1⟩
    eventId := (identifier_eq_ok.mp heventId).1
    sourceType := (identifier_eq_ok.mp hsourceType).1
    source := (identifier_eq_ok.mp hsourceType).2
    observedAt := hobservedAt
    collectedAt := hcollectedAt
    times := ⟨observed, collected, hobservedTime, hcollectedTime, require_eq_ok.mp horder⟩
    integrity := (memberText_eq_ok.mp hintegrity).1
    provenanceId := identifierOrEmpty_eq_ok hprovenanceId
    trustScore := rfl
    trust := ⟨trust, (unitNumber_eq_ok htrust).1⟩
    attributes := object_eq_ok.mp hattributes
    untrustedText := text_eq_ok.mp htext
    instructional := boolean_eq_ok.mp hinstructional
    flags := flagsOk_of_check hflags
    conflict := flagOk_of_check hconflict
    logins := logins_of_check hlogins }

/-- A case of which an accepted record was read. -/
structure ValidCase (lib : Engine.Library) (F : Type) [EngineFloat F] (fields : Dict)
    (case : Case F) : Prop where
  shape : hasFields fields CASE_FIELDS = true
  record : case.record = normalizedRecord fields case.criticality
  caseId : fields.get "case_id" = .str case.case.caseId
  identifier : Replay.IsIdentifier case.case.caseId
  openedAt : ∃ s, fields.get "opened_at" = .str s
  subjectId : fields.get "subject_id" = .str case.case.subjectId
  privilegeLevel : fields.get "privilege_level" = .str case.case.privilegeLevel
  breakGlass : fields.get "break_glass" = .bool case.case.breakGlass
  assetId : fields.get "asset_id" = .str case.case.assetId
  criticality : Engine.floatOf F (fields.get "asset_criticality") = .ok case.criticality
  unit : EngineFloat.le (EngineFloat.lit 0) case.criticality = true ∧
    EngineFloat.le case.criticality (EngineFloat.lit 1) = true
  normalized : case.case.assetCriticality = EngineFloat.toJson case.criticality
  events : ∃ rawEvents, fields.get "events" = .arr rawEvents ∧ rawEvents ≠ [] ∧
    rawEvents.mapM (validateEvent lib F case.case.caseId) = .ok case.case.events
  nodup : case.case.eventIds.Nodup

/-- What the checks of a case leave to say. -/
theorem validCase_of_validateCase {value : Json} {case : Case F}
    (h : validateCase lib F value = .ok case) :
    ∃ fields, value = .obj fields ∧ ValidCase lib F fields case := by
  obtain ⟨fields, hobject, h⟩ := bind_eq_ok.mp h
  obtain ⟨_, hfields, h⟩ := bind_eq_ok.mp h
  obtain ⟨caseId, hcaseId, h⟩ := bind_eq_ok.mp h
  obtain ⟨openedAt, hopenedAt, h⟩ := bind_eq_ok.mp h
  obtain ⟨subjectId, hsubjectId, h⟩ := bind_eq_ok.mp h
  obtain ⟨privilegeLevel, hprivilegeLevel, h⟩ := bind_eq_ok.mp h
  obtain ⟨breakGlass, hbreakGlass, h⟩ := bind_eq_ok.mp h
  obtain ⟨assetId, hassetId, h⟩ := bind_eq_ok.mp h
  obtain ⟨criticality, hcriticality, h⟩ := bind_eq_ok.mp h
  obtain ⟨rawEvents, hrawEvents, h⟩ := bind_eq_ok.mp h
  obtain ⟨_, hsome, h⟩ := bind_eq_ok.mp h
  obtain ⟨_, _, h⟩ := bind_eq_ok.mp h
  obtain ⟨events, hevents, h⟩ := bind_eq_ok.mp h
  obtain ⟨_, hnodup, h⟩ := bind_eq_ok.mp h
  obtain ⟨_, _, h⟩ := bind_eq_ok.mp h
  obtain ⟨_, _, h⟩ := bind_eq_ok.mp h
  obtain ⟨openedText, hopenedText, -⟩ := timestamp_eq_ok hopenedAt
  obtain ⟨hfloat, -, hunit⟩ := unitNumber_eq_ok hcriticality
  cases h
  exact ⟨fields, object_eq_ok.mp hobject, {
    shape := require_eq_ok.mp hfields
    record := rfl
    caseId := (identifier_eq_ok.mp hcaseId).1
    identifier := (identifier_eq_ok.mp hcaseId).2
    openedAt := ⟨openedText, hopenedText⟩
    subjectId := (identifier_eq_ok.mp hsubjectId).1
    privilegeLevel := (identifier_eq_ok.mp hprivilegeLevel).1
    breakGlass := boolean_eq_ok.mp hbreakGlass
    assetId := (identifier_eq_ok.mp hassetId).1
    criticality := hfloat
    unit := hunit
    normalized := rfl
    events := ⟨rawEvents, array_eq_ok.mp hrawEvents, require_eq_ok.mp hsome, hevents⟩
    nodup := require_eq_ok.mp hnodup }⟩

/-- Every event of an accepted case is the reading of an accepted record. -/
theorem ValidCase.event {fields : Dict} {case : Case F} (h : ValidCase lib F fields case)
    {event : EvidenceEvent} (hevent : event ∈ case.case.events) :
    ∃ record, ValidEvent lib F record event := by
  obtain ⟨rawEvents, -, -, hevents⟩ := h.events
  obtain ⟨value, -, hvalue⟩ := Lib.exists_of_mem_right (Lib.mapM_eq_ok.mp hevents) hevent
  obtain ⟨record, -, hrecord⟩ := validEvent_of_validateEvent hvalue
  exact ⟨record, hrecord⟩

/-! ## §5 The case of the engine -/

theorem lookup_of_get {fields : Dict} {name : String} {value : Json}
    (h : fields.get name = value) (hvalue : value ≠ .null) : fields.lookup name = some value := by
  unfold Dict.get at h
  cases hlookup : fields.lookup name with
  | none =>
    rw [hlookup] at h
    exact absurd h.symm hvalue
  | some v =>
    rw [hlookup] at h
    exact congrArg some h

theorem exists_lookup {fields : Dict} {names : List String} (h : hasFields fields names = true)
    (name : String) (hname : name ∈ names) : ∃ value, fields.lookup name = some value := by
  refine Option.isSome_iff_exists.mp (Option.ne_none_iff_isSome.mp ?_)
  rw [ne_eq, Dict.lookup_eq_none_iff, not_not]
  exact (hasFields_iff.mp h name).mpr hname

theorem textMember_eq {fields : Dict} {name s : String} (h : fields.get name = .str s) :
    textMember fields name = some s := by
  unfold textMember
  rw [lookup_of_get h (by simp)]

theorem memberOr_eq {α : Type} {fields : Dict} {name : String} {value : Json} {default : Option α}
    {read : Json → Option α} (h : fields.lookup name = some value) :
    Engine.memberOr fields name default read = read value := by
  unfold Engine.memberOr
  rw [h]

/-- The engine reads the same event from the record. -/
theorem ValidEvent.fromDict {fields : Dict} {event : EvidenceEvent}
    (h : ValidEvent lib F fields event) : EvidenceEvent.fromDict (.obj fields) = some event := by
  obtain ⟨caseId, hcaseId⟩ := h.caseId
  obtain ⟨sourceInstance, hsourceInstance⟩ := h.sourceInstance
  obtain ⟨entityRefs, hentityRefs⟩ := exists_lookup h.shape "entity_refs" (by decide)
  obtain ⟨trustScore, htrustScore⟩ := exists_lookup h.shape "trust_score" (by decide)
  have htrust : event.trustScore = trustScore := by
    rw [← h.trustScore, Dict.get, htrustScore]
    rfl
  have hattributes := lookup_of_get h.attributes (by simp)
  have htext := lookup_of_get h.untrustedText (by simp)
  have hflag := lookup_of_get h.instructional (by simp)
  have hnames : ∀ name ∈ fields.map Prod.fst, name ∈ Engine.EVENT_MEMBERS :=
    fun name hname => (hasFields_iff.mp h.shape name).mp hname
  show (if ∀ name ∈ fields.map Prod.fst, name ∈ Engine.EVENT_MEMBERS then _ else none) = _
  rw [if_pos hnames, textMember_eq h.eventId, textMember_eq hcaseId, textMember_eq h.sourceType,
    textMember_eq hsourceInstance, textMember_eq h.observedAt, textMember_eq h.collectedAt,
    textMember_eq h.integrity, textMember_eq h.provenanceId, htrustScore, hentityRefs,
    memberOr_eq hattributes, memberOr_eq htext, memberOr_eq hflag, ← htrust]
  rfl

/-- The engine reads the same events from the records. -/
theorem mapM_fromDict {caseId : String} {values : List Json} {events : List EvidenceEvent}
    (h : values.mapM (validateEvent lib F caseId) = .ok events) :
    Engine.asEvents (.arr values) = some events := by
  refine Lib.mapM_eq_some.mpr ((Lib.mapM_eq_ok.mp h).imp fun value event hvalue => ?_)
  obtain ⟨fields, rfl, hfields⟩ := validEvent_of_validateEvent hvalue
  exact hfields.fromDict

/-- The engine reads the same case from a record with a normal number. -/
theorem ValidCase.fromDict {fields : Dict} {case : Case F} (h : ValidCase lib F fields case)
    (hnormal : fields.get "asset_criticality" = EngineFloat.toJson case.criticality) :
    IdentityCase.fromDict fields = some case.case := by
  obtain ⟨openedAt, hopenedAt⟩ := h.openedAt
  obtain ⟨rawEvents, hrawEvents, -, hevents⟩ := h.events
  have hbreakGlass := lookup_of_get h.breakGlass (by simp)
  have hcriticality := lookup_of_get hnormal (by simp [EngineFloat.toJson])
  have hraw := lookup_of_get hrawEvents (by simp)
  have hnames : ∀ name ∈ fields.map Prod.fst, name ∈ Engine.CASE_MEMBERS :=
    fun name hname => (hasFields_iff.mp h.shape name).mp hname
  unfold IdentityCase.fromDict
  rw [if_pos hnames, textMember_eq h.caseId, textMember_eq hopenedAt, textMember_eq h.subjectId,
    textMember_eq h.privilegeLevel, memberOr_eq hbreakGlass, textMember_eq h.assetId, hcriticality,
    memberOr_eq hraw, mapM_fromDict hevents, ← h.normalized]
  rfl

end Accepted

end DecisionFirewall.Reference
