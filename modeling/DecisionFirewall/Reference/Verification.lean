import DecisionFirewall.Reference.Acceptance

/-!
# The Reference Accepts What the Engine Records, and Nothing Else

Whole inputs of `verify_reference_decision_path`: the decisions of an engine that executes
nothing are accepted, in whatever order they stand, and what is accepted has for every case the
final surface that the engine gives to it, unless two texts have one digest.

- §1 the loops over the inputs
- §2 all cases
- §3 an example
-/

namespace DecisionFirewall.Reference

open Engine (EngineFloat LawfulEngineFloat DecisionFirewallEngine Decision LogisticRiskModel Justified
  process EngineM Op Ans)
open Engine.EngineFloat (le)
open Lib (bind_eq_ok)
open Lib.Prog (Trace Event)

/-! ## §1 The loops over the inputs -/

section Loops

variable {α β : Type} {read : α → Checked β} {key : β → String} {code : String}

end Loops

/-! ## §2 All cases -/

section AllCases

variable {lib : Engine.Library} {F : Type} [EngineFloat F] [LawfulEngineFloat F]
variable {engine : DecisionFirewallEngine F} {rawCases rows rawDecisions : List Dict}
variable {rawModel rawPolicy : Json} {modelSource policySource : String} {cases : List (Case F)}

/-- The record of a case whose stages agree. -/
def Agrees (case : Case F) (record : Record) : Prop :=
  record.caseId = case.id ∧ record.expected = record.observed ∧
    record.expectedPath = record.observedPath

section Tables

variable {decisions : List (String × Dict)}

end Tables

end AllCases

/-! ## §3 An example -/

section Example

/-- Sixty-four digits for a text. -/
def sampleDigest (text : String) : String :=
  let n := text.toList.foldl (fun n c => (n * 257 + c.toNat) % 16 ^ 64) 1
  String.ofList ((List.range 64).map fun i => Json.hexDigit (n / 16 ^ i % 16))

def sampleLibrary : Engine.Library := { Engine.sampleLibrary with sha256 := sampleDigest }

def sampleThresholds : Dict :=
  [("no_action_max_probability", .int 0), ("human_escalation_min_probability", .int 1),
    ("autonomous_containment_min_probability", .int 1)]

def sampleEvidence : Dict :=
  [("minimum_quality", .int 0), ("minimum_provenance_ratio", .int 0),
    ("minimum_integrity_verified_ratio", .int 0), ("minimum_independent_supporting_sources", .int 0),
    ("maximum_missing_expected_sources_for_decision", .int 7),
    ("maximum_conflicts_for_automation", .int 0)]

def sampleAuthority : Dict :=
  [("maximum_asset_criticality_for_automation", .int 1), ("break_glass_requires_human", .bool true),
    ("autonomous_actions", .arr [.str "increase_monitoring"]),
    ("human_only_actions", .arr [.str "disable_account"])]

def sampleSafety : Dict :=
  [("poisoned_evidence_blocks_automation", .bool true),
    ("require_independent_verifier", .bool true), ("require_rollback_plan", .bool true),
    ("authorization_token_ttl_seconds", .int 60)]

def samplePolicy : Dict :=
  [("policy_id", .str "policy"), ("version", .str "1"), ("thresholds", .obj sampleThresholds),
    ("evidence", .obj sampleEvidence), ("authority", .obj sampleAuthority),
    ("safety", .obj sampleSafety)]

def sampleAttributes : Dict :=
  [("asset_id", .str "asset"), ("privilege_level", .str "user"), ("break_glass", .bool false),
    ("asset_criticality", .float "0.5")]

def sampleEvent : Dict :=
  [("event_id", .str "event"), ("case_id", .str "case"), ("source_type", .str "asset_inventory"),
    ("source_instance", .str "inventory"), ("observed_at", .str "1970-01-01T00:01:00+00:00"),
    ("collected_at", .str "1970-01-01T00:01:00+00:00"), ("integrity", .str "verified"),
    ("provenance_id", .str "provenance"), ("trust_score", .int 1), ("entity_refs", .arr []),
    ("attributes", .obj sampleAttributes), ("untrusted_text", .str ""),
    ("contains_instructional_content", .bool false)]

def sampleRecord : Dict :=
  [("case_id", .str "case"), ("opened_at", .str "1970-01-01T00:01:00+00:00"),
    ("subject_id", .str "subject"), ("privilege_level", .str "user"), ("break_glass", .bool false),
    ("asset_id", .str "asset"), ("asset_criticality", .float "0.5"),
    ("events", .arr [.obj sampleEvent])]

/-- The event of the record. -/
def sampleReading : Engine.EvidenceEvent where
  eventId := "event"
  sourceType := "asset_inventory"
  observedAt := "1970-01-01T00:01:00+00:00"
  collectedAt := "1970-01-01T00:01:00+00:00"
  integrity := "verified"
  provenanceId := "provenance"
  trustScore := .int 1
  attributes := sampleAttributes
  untrustedText := ""
  containsInstructionalContent := false

/-- The case of the record. -/
def sampleCase : Case ℚ where
  record := sampleRecord
  case := {
    caseId := "case"
    subjectId := "subject"
    privilegeLevel := "user"
    breakGlass := false
    assetId := "asset"
    assetCriticality := .float "0.5"
    events := [sampleReading] }
  criticality := 1 / 2

/-- The model of the document. -/
def sampleRiskModel : LogisticRiskModel ℚ :=
  ⟨"1", List.replicate 20 0, List.replicate 20 1, List.replicate 20 0, 0⟩

/-- The policy of the document. -/
def sampleConfig : Engine.PolicyConfig :=
  ⟨.str "policy", .str "1", sampleThresholds, sampleEvidence, sampleAuthority, sampleSafety⟩

def sampleEngine : DecisionFirewallEngine ℚ where
  assess := sampleRiskModel.assess sampleLibrary
  config := sampleConfig
  mode := .historicalReplay
  signingKey := "key"

end Example

end DecisionFirewall.Reference
