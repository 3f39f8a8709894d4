import DecisionFirewall.Engine.Features
import DecisionFirewall.Lib.Sorting

/-!
# The Evidence of a Case

`evidence.py`: how complete, fresh and trustworthy the events of a case are, which of them
support or oppose a compromise, and which carry instructions to the reader.

- §1 tables
- §2 one event
- §3 scores
- §4 the assessment
-/

namespace DecisionFirewall.Engine

open EngineFloat (lit ratio add sub mul div)

/-! ## §1 Tables -/

def INSTRUCTION_PATTERNS : List String :=
  ["\\bignore\\s+(all\\s+)?(prior|previous)\\b", "\\b(system|assistant)\\s*:\\s*",
    "\\bdo\\s+not\\s+ask\\b", "\\bdisable\\s+(the\\s+)?account\\b"]

def POSITIVE_INDICATORS : List String :=
  ["threat_ip", "token_reuse", "credential_dumping", "lateral_movement", "edr_malware",
    "mfa_fatigue", "oauth_grant", "unusual_admin_action", "new_device", "impossible_travel"]

def BENIGN_INDICATORS : List String :=
  ["known_vpn", "approved_travel", "maintenance_window", "service_account_baseline", "strong_mfa"]

/-- `sorted(EXPECTED_SOURCES)`. -/
def EXPECTED_SOURCES : List String :=
  ["asset_inventory", "change_management", "endpoint", "identity", "network", "threat_intel",
    "user_context"]

/-! ## §2 One event -/

/-- What the loop reads off an event. -/
structure EventFacts (F : Type) where
  eventId : String
  sourceType : String
  freshness : F
  positive : Bool
  benign : Bool
  conflict : Bool
  instructional : Bool

section Event

variable (lib : Library) {F : Type} [EngineFloat F]

/-- `clamp(value)`. -/
def clamp (value : F) : F := EngineFloat.max (lit 0) (EngineFloat.min (lit 1) value)

/-- `_parse_time(value)`. -/
def parseTime (value : String) : Checked Datetime :=
  match lib.fromisoformat value with
  | some t => .ok t
  | none => .error .valueError

/-- `collected - observed`, in microseconds. -/
def difference : Datetime → Datetime → Checked Int
  | .naive collected, .naive observed => .ok (collected - observed)
  | .aware collected, .aware observed => .ok (collected - observed)
  | .naive _, .aware _ | .aware _, .naive _ => .error .typeError

/-- Full credit below five minutes; none from two hours on. -/
def freshnessOf (delaySeconds : F) : F :=
  clamp (sub (lit 1)
    (div (EngineFloat.max (lit 0) (sub delaySeconds (lit 300))) (lit 6900)))

/-- `modeled.get(key) is True` for one of the names. -/
def anyTrue (modeled : Dict) (names : List String) : Bool :=
  names.any fun name => match modeled.lookup name with
    | some (.bool b) => b
    | _ => false

/-- `text_is_instructional`. -/
def isInstructional (event : EvidenceEvent) : Bool :=
  event.containsInstructionalContent ||
    INSTRUCTION_PATTERNS.any fun pattern => lib.search pattern event.untrustedText

/-- One iteration of the loop. -/
def assessEvent (event : EvidenceEvent) : Checked (EventFacts F) := do
  let collected ← parseTime lib event.collectedAt
  let observed ← parseTime lib event.observedAt
  let delay ← difference collected observed
  let modeled ← modeledAttributes lib F event
  let selected ← evidenceAttributes event
  return {
    eventId := event.eventId
    sourceType := event.sourceType
    freshness := freshnessOf (EngineFloat.max (lit 0) (EngineFloat.totalSeconds delay))
    positive := anyTrue modeled POSITIVE_INDICATORS
    benign := anyTrue modeled BENIGN_INDICATORS
    conflict := anyTrue selected ["source_conflict"]
    instructional := isInstructional lib event }

end Event

/-! ## §3 Scores -/

section Scores

variable {F : Type} [EngineFloat F]

/-- `math.fsum(values) / count`. -/
def meanOf (values : List F) (count : Nat) : Checked F :=
  match EngineFloat.fsum values with
  | some total => .ok (div total (lit count))
  | none => .error .overflowError

/-- `1.0 if flag else 0.0`. -/
def indicator (flag : Bool) : F := lit (if flag then 1 else 0)

/-- The weighted sum and its deductions. -/
def qualityOf (provenance integrity freshness diversity trust : F) (conflicts : Nat)
    (poisoned : Bool) (missing : Nat) : F :=
  let weighted := add (add (add (add (mul (ratio 27 100) provenance)
    (mul (ratio 23 100) integrity)) (mul (ratio 18 100) freshness))
      (mul (ratio 17 100) diversity)) (mul (ratio 15 100) trust)
  let agreed := sub weighted (EngineFloat.min (ratio 25 100) (mul (ratio 10 100) (lit conflicts)))
  let clean := if poisoned then sub agreed (ratio 30 100) else agreed
  clamp (if 2 ≤ missing then sub clean (ratio 12 100) else clean)

/-- The reasons, each where its condition holds. -/
def reasonsOf (provenance integrity freshness : F) (missing : List String) (conflicts : Nat)
    (poisoned : Bool) : List String :=
  let flag (condition : Bool) (reason : String) : List String := if condition then [reason] else []
  let reasons :=
    flag (EngineFloat.lt provenance (lit 1))
        "One or more evidence events lack verifiable provenance." ++
      flag (EngineFloat.lt integrity (lit 1))
        "One or more evidence events failed integrity verification or remain unverified." ++
      flag (EngineFloat.lt freshness (ratio 80 100)) "One or more telemetry sources are stale." ++
      flag (missing != [])
        ("Expected evidence sources are missing: " ++ ", ".intercalate missing ++ ".") ++
      flag (conflicts != 0) "Independent telemetry sources conflict." ++
      flag poisoned ("Untrusted content contains instructions directed at an AI agent; " ++
        "content is excluded from model input and blocks autonomous action.")
  if reasons = [] then
    ["Evidence provenance, integrity, freshness, and source diversity meet the POC baseline."]
  else reasons

end Scores

/-! ## §4 The assessment -/

/-- `EvidenceAssessment`. -/
structure EvidenceAssessment (F : Type) where
  evidenceQuality : F
  provenanceValidRatio : F
  integrityVerifiedRatio : F
  freshnessScore : F
  sourceDiversityScore : F
  meanSourceTrust : F
  independentSupportingSources : Nat
  positiveEventIds : List String
  benignEventIds : List String
  missingExpectedSources : List String
  conflictCount : Nat
  poisonedEvidence : Bool
  poisonedEventIds : List String
  reasons : List String

/-- A list of texts as a JSON array. -/
def texts (xs : List String) : Json := .arr (xs.map .str)

section Assessment

variable (lib : Library) {F : Type} [EngineFloat F]

/-- `to_dict()`. -/
def EvidenceAssessment.toDict (e : EvidenceAssessment F) : Dict :=
  [("evidence_quality", EngineFloat.toJson e.evidenceQuality),
    ("provenance_valid_ratio", EngineFloat.toJson e.provenanceValidRatio),
    ("integrity_verified_ratio", EngineFloat.toJson e.integrityVerifiedRatio),
    ("freshness_score", EngineFloat.toJson e.freshnessScore),
    ("source_diversity_score", EngineFloat.toJson e.sourceDiversityScore),
    ("mean_source_trust", EngineFloat.toJson e.meanSourceTrust),
    ("independent_supporting_sources", .int e.independentSupportingSources),
    ("positive_event_ids", texts e.positiveEventIds),
    ("benign_event_ids", texts e.benignEventIds),
    ("missing_expected_sources", texts e.missingExpectedSources),
    ("conflict_count", .int e.conflictCount),
    ("poisoned_evidence", .bool e.poisonedEvidence),
    ("poisoned_event_ids", texts e.poisonedEventIds),
    ("reasons", texts e.reasons)]

/-- The assessment of a case without events. -/
def noEvidence : EvidenceAssessment F where
  evidenceQuality := lit 0
  provenanceValidRatio := lit 0
  integrityVerifiedRatio := lit 0
  freshnessScore := lit 0
  sourceDiversityScore := lit 0
  meanSourceTrust := lit 0
  independentSupportingSources := 0
  positiveEventIds := []
  benignEventIds := []
  missingExpectedSources := EXPECTED_SOURCES
  conflictCount := 0
  poisonedEvidence := false
  poisonedEventIds := []
  reasons := ["No evidence events were supplied."]

/-- The identifiers of the events with a property. -/
def idsWhere (p : EventFacts F → Bool) (facts : List (EventFacts F)) : List String :=
  (facts.filter p).map EventFacts.eventId

/-- What is made of the tallies of the loop. -/
def summarize (events : List EvidenceEvent) (facts : List (EventFacts F)) :
    Checked (EvidenceAssessment F) := do
  let count := events.length
  let provenance ← meanOf (events.map fun event => indicator (event.provenanceId != "")) count
  let integrity ← meanOf (events.map fun event => indicator (event.integrity == "verified")) count
  let freshness ← meanOf (facts.map EventFacts.freshness) count
  let sources := (events.map EvidenceEvent.sourceType).dedup
  let diversity := clamp (ratio sources.length EXPECTED_SOURCES.length)
  let trustScores ← events.mapM fun event => floatOf F event.trustScore
  let trust ← meanOf trustScores count
  let missing := EXPECTED_SOURCES.filter fun source => source ∉ sources
  let conflicts := facts.countP EventFacts.conflict
  let poisonedIds := idsWhere EventFacts.instructional facts
  let poisoned := poisonedIds != []
  return {
    evidenceQuality := EngineFloat.round6
      (qualityOf provenance integrity freshness diversity trust conflicts poisoned missing.length)
    provenanceValidRatio := EngineFloat.round6 provenance
    integrityVerifiedRatio := EngineFloat.round6 integrity
    freshnessScore := EngineFloat.round6 freshness
    sourceDiversityScore := EngineFloat.round6 diversity
    meanSourceTrust := EngineFloat.round6 trust
    independentSupportingSources :=
      ((facts.filter EventFacts.positive).map EventFacts.sourceType).dedup.length
    positiveEventIds := idsWhere EventFacts.positive facts
    benignEventIds := idsWhere EventFacts.benign facts
    missingExpectedSources := missing
    conflictCount := conflicts
    poisonedEvidence := poisoned
    poisonedEventIds := poisonedIds
    reasons := reasonsOf provenance integrity freshness missing conflicts poisoned }

/-- `assess_evidence(case)`. -/
def assessEvidence (case : IdentityCase) : Checked (EvidenceAssessment F) :=
  if case.events = [] then .ok noEvidence
  else do
    let facts ← case.events.mapM (assessEvent lib)
    summarize case.events facts

end Assessment

end DecisionFirewall.Engine
