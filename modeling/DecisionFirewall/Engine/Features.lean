import DecisionFirewall.Engine.Library

/-!
# Cases and Their Features

`schemas.py` and `features.py`: a case with its events, and the features that the model is
given, each with the events it was read from.

- §1 cases
- §2 the context of a case
- §3 features
- §4 traces

Free text is no feature.
-/

namespace DecisionFirewall.Engine

open Replay (MODELED_BOOLEAN_ATTRIBUTE_SOURCES Violation)

/-! ## §1 Cases -/

/-- `EvidenceEvent`, without the source instance and the entity references. -/
structure EvidenceEvent where
  eventId : String
  sourceType : String
  observedAt : String
  collectedAt : String
  integrity : String
  provenanceId : String
  trustScore : Json
  attributes : Dict
  untrustedText : String
  containsInstructionalContent : Bool

/-- `IdentityCase`, without the time it was opened at. -/
structure IdentityCase where
  caseId : String
  subjectId : String
  privilegeLevel : String
  breakGlass : Bool
  assetId : String
  assetCriticality : Json
  events : List EvidenceEvent

namespace IdentityCase

variable (case : IdentityCase)

def eventIds : List String := case.events.map EvidenceEvent.eventId

/-- The events of the asset inventory. -/
def inventory : List EvidenceEvent :=
  case.events.filter fun event => event.sourceType = "asset_inventory"

end IdentityCase

/-- A member that is a text. -/
def textMember (value : Dict) (name : String) : Option String :=
  match value.lookup name with
  | some (.str s) => some s
  | _ => none

/-- A member of another type, with its default; `none` is a member of no such type. -/
def memberOr {α : Type} (value : Dict) (name : String) (default : Option α)
    (read : Json → Option α) : Option α :=
  match value.lookup name with
  | some v => read v
  | none => default

def asFlag : Json → Option Bool
  | .bool b => some b
  | _ => none

def asText : Json → Option String
  | .str s => some s
  | _ => none

def asDict : Json → Option Dict
  | .obj fields => some fields
  | _ => none

/-- The fields of `EvidenceEvent`. -/
def EVENT_MEMBERS : List String :=
  ["event_id", "case_id", "source_type", "source_instance", "observed_at", "collected_at",
    "integrity", "provenance_id", "trust_score", "entity_refs", "attributes", "untrusted_text",
    "contains_instructional_content"]

/-- The fields of `IdentityCase`. -/
def CASE_MEMBERS : List String :=
  ["case_id", "opened_at", "subject_id", "privilege_level", "break_glass", "asset_id",
    "asset_criticality", "events"]

/-- `EvidenceEvent.from_dict(value)` of a value whose members have the declared types. -/
def EvidenceEvent.fromDict (value : Json) : Option EvidenceEvent :=
  match value with
  | .obj fields =>
    if ∀ name ∈ fields.map Prod.fst, name ∈ EVENT_MEMBERS then do
      let eventId ← textMember fields "event_id"
      let _ ← textMember fields "case_id"
      let sourceType ← textMember fields "source_type"
      let _ ← textMember fields "source_instance"
      let observedAt ← textMember fields "observed_at"
      let collectedAt ← textMember fields "collected_at"
      let integrity ← textMember fields "integrity"
      let provenanceId ← textMember fields "provenance_id"
      let trustScore ← fields.lookup "trust_score"
      let _ ← fields.lookup "entity_refs"
      let attributes ← memberOr fields "attributes" (some []) asDict
      let untrustedText ← memberOr fields "untrusted_text" (some "") asText
      let instructional ← memberOr fields "contains_instructional_content" (some false) asFlag
      return {
        eventId, sourceType, observedAt, collectedAt, integrity, provenanceId, trustScore,
        attributes, untrustedText
        containsInstructionalContent := instructional }
    else none
  | _ => none

def asEvents : Json → Option (List EvidenceEvent)
  | .arr events => events.mapM EvidenceEvent.fromDict
  | _ => none

/-- `IdentityCase.from_dict(value)` of a value whose members have the declared types. -/
def IdentityCase.fromDict (fields : Dict) : Option IdentityCase :=
  if ∀ name ∈ fields.map Prod.fst, name ∈ CASE_MEMBERS then do
    let caseId ← textMember fields "case_id"
    let _ ← textMember fields "opened_at"
    let subjectId ← textMember fields "subject_id"
    let privilegeLevel ← textMember fields "privilege_level"
    let breakGlass ← memberOr fields "break_glass" none asFlag
    let assetId ← textMember fields "asset_id"
    let assetCriticality ← fields.lookup "asset_criticality"
    let events ← memberOr fields "events" (some []) asEvents
    return { caseId, subjectId, privilegeLevel, breakGlass, assetId, assetCriticality, events }
  else none

/-! ## §2 The context of a case -/

section Context

variable (lib : Library) (F : Type) [EngineFloat F]

/-- A check of the feature contract. -/
def contractCheck {α : Type} (check : Replay.Checked α) : Checked α :=
  check.mapError fun _ => .featureContract

/-- `validate_canonical_case_feature_context(…)`. -/
def validateCaseContext (case : IdentityCase) : Checked F := do
  contractCheck do
    let assetId ← Replay.featureIdentifier "case.asset_id" (.str case.assetId)
    let privilegeLevel ← Replay.featureIdentifier "case.privilege_level" (.str case.privilegeLevel)
    let criticality ← Replay.unitInterval (lib.contract F) (.featureNumeric "case.asset_criticality")
      (.featureUnitInterval "case.asset_criticality") case.assetCriticality
    Replay.ensure (case.inventory ≠ []) (.inventoryMissing case.caseId)
    Replay.checkInventories (lib.contract F) assetId privilegeLevel case.breakGlass criticality
      (case.inventory.map EvidenceEvent.attributes)
  floatOf F case.assetCriticality

/-- `select_modeled_attributes(event.source_type, event.attributes, …)`. -/
def modeledAttributes (event : EvidenceEvent) : Checked Dict :=
  contractCheck do
    let _ ← Replay.featureIdentifier "event.source_type" (.str event.sourceType)
    Replay.selectModeledAttributes (lib.contract F) 0 event.sourceType event.attributes

/-- `select_evidence_attributes(event.source_type, event.attributes, …)`. -/
def evidenceAttributes (event : EvidenceEvent) : Checked Dict :=
  contractCheck do
    let _ ← Replay.featureIdentifier "event.source_type" (.str event.sourceType)
    Replay.selectEvidenceAttributes 0 event.sourceType event.attributes

end Context

/-! ## §3 Features -/

def FEATURE_NAMES : List String :=
  ["failed_login_intensity", "new_device", "impossible_travel", "threat_ip", "mfa_fatigue",
    "token_reuse", "credential_dumping", "lateral_movement", "unusual_admin_action",
    "edr_malware", "after_hours", "privilege_global_admin", "asset_criticality", "known_vpn",
    "approved_travel", "maintenance_window", "service_account_baseline", "strong_mfa",
    "device_noncompliant", "oauth_grant"]

/-- `MODELED_BOOLEAN_ATTRIBUTE_NAMES`. -/
def MODELED_BOOLEAN_ATTRIBUTE_NAMES : List String := MODELED_BOOLEAN_ATTRIBUTE_SOURCES.map Prod.fst

/-- A dictionary with values of one type, in the order in which keys were inserted. -/
abbrev Values (α : Type) := List (String × α)

namespace Values

variable {α : Type}

/-- `values[name] = value`. -/
def set (values : Values α) (name : String) (value : α) : Values α :=
  if name ∈ values.map Prod.fst then
    values.map fun entry => if entry.1 = name then (name, value) else entry
  else values ++ [(name, value)]

/-- `trace[name].extend(ids)` of a `defaultdict(list)`. -/
def extend (trace : Values (List α)) (name : String) (ids : List α) : Values (List α) :=
  trace.set name ((trace.lookup name).getD [] ++ ids)

end Values

/-- The values and the trace that the loop builds. -/
structure Extraction (F : Type) where
  values : Values F
  trace : Values (List String)

section Extraction

variable {F : Type} [EngineFloat F]

namespace Extraction

/-- `values[name]` of a name that is there. -/
def value (x : Extraction F) (name : String) : F :=
  (x.values.lookup name).getD (EngineFloat.lit 0)

/-- The count of failed logins of an event. -/
def addFailedLogins (x : Extraction F) (eventId : String) (modeled : Dict) : Extraction F :=
  match modeled.lookup "failed_logins" with
  | some (.int n) =>
    { values := x.values.set "failed_login_intensity"
        (EngineFloat.max (x.value "failed_login_intensity")
          (EngineFloat.min (EngineFloat.ratio n 20) (EngineFloat.lit 1)))
      trace := x.trace.extend "failed_login_intensity" [eventId] }
  | _ => x

/-- One Boolean attribute of an event. -/
def addFlag (eventId : String) (modeled : Dict) (x : Extraction F) (name : String) :
    Extraction F :=
  match modeled.lookup name with
  | some (.bool flag) =>
    let numeric : F := EngineFloat.lit (if flag then 1 else 0)
    { values := if EngineFloat.lt (x.value name) numeric then x.values.set name numeric else x.values
      trace := x.trace.extend name [eventId] }
  | _ => x

/-- The attributes of an event that the model sees. -/
def addEvent (x : Extraction F) (eventId : String) (modeled : Dict) : Extraction F :=
  MODELED_BOOLEAN_ATTRIBUTE_NAMES.foldl (addFlag eventId modeled)
    (x.addFailedLogins eventId modeled)

end Extraction

/-- The loop over the events. -/
def extractEvents (lib : Library) (x : Extraction F) : List EvidenceEvent → Checked (Extraction F)
  | [] => .ok x
  | event :: events => do
    let modeled ← modeledAttributes lib F event
    extractEvents lib (x.addEvent event.eventId modeled) events

/-- `extract_features(case)`. -/
def extractFeatures (lib : Library) (case : IdentityCase) : Checked (Extraction F) := do
  let criticality ← validateCaseContext lib F case
  let zeros : Values F := FEATURE_NAMES.map fun name => (name, EngineFloat.lit 0)
  let values := (zeros.set "privilege_global_admin"
    (EngineFloat.lit (if case.privilegeLevel = "global_admin" then 1 else 0))).set
      "asset_criticality" criticality
  let x ← extractEvents lib ⟨values, []⟩ case.events
  let inventoryEvents := case.inventory.map EvidenceEvent.eventId
  return ⟨x.values, (x.trace.extend "privilege_global_admin" inventoryEvents).extend
    "asset_criticality" inventoryEvents⟩

/-- `vectorize(features)`. -/
def vectorize (features : Values F) : List F :=
  FEATURE_NAMES.map fun name => (features.lookup name).getD (EngineFloat.lit 0)

end Extraction

end DecisionFirewall.Engine
