import DecisionFirewall.Engine.Actions
import DecisionFirewall.Lib.Prog

/-!
# The Decision Firewall Engine

`execution.py` and `engine.py`: a case goes through the assessments, the policy and the verifier;
in a simulation an authorized proposal is executed on the target, in the other modes nothing is.

- §1 modes and operations
- §2 decisions
- §3 the path of a case
- §4 the world of an engine
-/

namespace DecisionFirewall.Engine

open Lib (Prog)

/-! ## §1 Modes and operations -/

inductive ExecutionMode where
  | syntheticSimulation
  | historicalReplay
  | shadowReadOnly
  deriving DecidableEq, Repr

namespace ExecutionMode

def value : ExecutionMode → String
  | .syntheticSimulation => "synthetic_simulation"
  | .historicalReplay => "historical_replay"
  | .shadowReadOnly => "shadow_read_only"

def isReadOnly : ExecutionMode → Bool
  | .syntheticSimulation => false
  | .historicalReplay | .shadowReadOnly => true

end ExecutionMode

/-- What `process` calls outside itself: the audit logger, the clocks, the random identifiers and
the target. -/
inductive Op where
  | append (recordType : String) (payload : Dict)
  | now
  | uuid
  /-- `round((time.perf_counter() - started) * 1000.0, 3)` -/
  | latency
  | initializeCase (case : IdentityCase)
  | apply (caseId : String) (action : Json)

/-- What an operation answers. -/
abbrev Ans : Op → Type
  | .append _ _ => Checked Unit
  | .now => Int
  | .uuid => String
  | .latency => Json
  | .initializeCase _ => Unit
  | .apply _ _ => Checked ActionResult

/-- A part of the engine. -/
abbrev EngineM (α : Type) := Prog Op Ans Raised α

/-- `self.audit.append(record_type, payload)`. -/
def appendRow (recordType : String) (payload : Dict) : EngineM Unit :=
  .call (.append recordType payload) .ofExcept

def now : EngineM Int := .perform Op.now

def uuid : EngineM String := .perform Op.uuid

/-! ## §2 Decisions -/

/-- What became of the actions of a proposal. -/
structure Execution where
  counterfactualActions : List Json
  token : Option AuthorizationToken
  authorizationError : String
  authorizationAttempted : Bool
  actionResults : List ActionResult
  brokerInvocations : Nat
  postAction : Dict
  operationalEffects : Nat

/-- What `process` returns, without the digest of the record. -/
structure Decision (F : Type) where
  case : IdentityCase
  mode : ExecutionMode
  decisionId : String
  createdAt : String
  latency : Json
  evidence : EvidenceAssessment F
  model : ModelAssessment F
  originalDisposition : Disposition
  proposal : DecisionProposal
  verification : VerificationResult
  execution : Execution

section Documents

variable (lib : Library) {F : Type} [EngineFloat F] (config : PolicyConfig)

/-- `token.permitted_actions if token else []`. -/
def permittedActions (token : Option AuthorizationToken) : List Json :=
  (token.map AuthorizationToken.permittedActions).getD []

/-- `token.token_id if token else ""`. -/
def tokenIdOf (token : Option AuthorizationToken) : String :=
  (token.map AuthorizationToken.tokenId).getD ""

/-- The members of the decision. -/
def Decision.core (d : Decision F) : Dict :=
  [("decision_id", .str d.decisionId),
    ("case_id", .str d.case.caseId),
    ("subject_id", .str d.case.subjectId),
    ("asset_id", .str d.case.assetId),
    ("asset_criticality", d.case.assetCriticality),
    ("break_glass", .bool d.case.breakGlass),
    ("created_at", .str d.createdAt),
    ("policy_id", config.policyId),
    ("policy_version", config.version),
    ("model_version", .str d.model.modelVersion),
    ("execution_mode", .str d.mode.value),
    ("original_disposition", .str d.originalDisposition.value),
    ("final_disposition", .str d.proposal.disposition.value),
    ("counterfactual_actions", .arr d.execution.counterfactualActions),
    ("compromise_probability", EngineFloat.toJson d.model.compromiseProbability),
    ("evidence_assessment", .obj d.evidence.toDict),
    ("model_assessment", .obj d.model.toDict),
    ("proposal", .obj d.proposal.toDict),
    ("independent_verification", .obj d.verification.toDict),
    ("authorization", .obj [
      ("issued", .bool d.execution.token.isSome),
      ("token_id", .str (tokenIdOf d.execution.token)),
      ("decision_hash", .str ((d.execution.token.map AuthorizationToken.decisionHash).getD "")),
      ("permitted_actions", .arr (permittedActions d.execution.token)),
      ("error", .str d.execution.authorizationError)]),
    ("action_results", .arr (d.execution.actionResults.map fun r => .obj r.toDict)),
    ("post_action_verification", .obj d.execution.postAction),
    ("execution_control", .obj [
      ("mode", .str d.mode.value),
      ("read_only", .bool d.mode.isReadOnly),
      ("status", .str (if d.mode.isReadOnly then "SUPPRESSED_READ_ONLY"
        else "SYNTHETIC_SIMULATION")),
      ("authorization_attempted", .bool d.execution.authorizationAttempted),
      ("broker_invocations", .int d.execution.brokerInvocations),
      ("operational_effects", .int d.execution.operationalEffects)]),
    ("latency_ms", d.latency),
    ("traceability", .obj [
      ("input_event_ids", texts d.case.eventIds),
      ("cited_evidence_event_ids", texts d.proposal.evidenceEventIds),
      ("feature_trace", .obj (d.model.featureTrace.map fun entry => (entry.1, texts entry.2)))])]

/-- `sha256_json(decision_core)`. -/
def Decision.recordHash (d : Decision F) : String := lib.sha256Json (.obj (d.core config))

/-- The decision that is returned. -/
def Decision.toDict (d : Decision F) : Dict :=
  d.core config ++ [("decision_record_hash", .str (d.recordHash lib config))]

/-- The payload of the policy row. -/
def policyPayload (mode : ExecutionMode) (proposal : DecisionProposal) : Dict :=
  if mode.isReadOnly then
    { proposal with executableActions := [] }.toDict ++
      [("counterfactual_actions", .arr proposal.executableActions)]
  else proposal.toDict

end Documents

/-! ## §3 The path of a case -/

/-- The engine of a policy in a mode. The model is what `assess` says of a case. -/
structure DecisionFirewallEngine (F : Type) where
  assess : IdentityCase → Checked (ModelAssessment F)
  config : PolicyConfig
  mode : ExecutionMode
  signingKey : String

/-- What a case and a policy lead to before anything is authorized. -/
structure Assessed (F : Type) where
  evidence : EvidenceAssessment F
  model : ModelAssessment F
  proposal : DecisionProposal
  verification : VerificationResult

/-- The proposal that a failed verification leaves. -/
def downgrade (proposal : DecisionProposal) (verification : VerificationResult) :
    DecisionProposal :=
  if proposal.executableActions ≠ [] ∧ verification.passed = false then
    { disposition := .investigate
      executableActions := []
      recommendedHumanActions := []
      investigationActions :=
        ["resolve_independent_verifier_failure", "collect_additional_evidence"]
      rationale := proposal.rationale ++ ["Independent verification failed; the action proposal " ++
        "was downgraded to investigation."]
      policyRulesApplied := proposal.policyRulesApplied ++ ["FAIL-SAFE-VERIFIER-DOWNGRADE"]
      evidenceEventIds := proposal.evidenceEventIds
      requiredAuthority := "read_only_automation"
      rollbackPlan := [] }
  else proposal

/-- The proposal of a mode that executes nothing. -/
def observed (proposal : DecisionProposal) : DecisionProposal :=
  { proposal with
    executableActions := []
    requiredAuthority := "read_only_observation"
    rollbackPlan := [] }

/-- The post-action verification where nothing was executed. -/
def notApplicable (passed : Json) : Dict :=
  [("applicable", .bool false), ("status", .str "NOT_APPLICABLE"), ("passed", passed),
    ("checks", .arr [])]

section Path

variable (lib : Library) {F : Type} [EngineFloat F] (engine : DecisionFirewallEngine F) (case : IdentityCase)

/-- The payload of a stage: the case, and what the stage found. -/
def stagePayload (found : Dict) : Dict := ("case_id", .str case.caseId) :: found

/-- The stages up to the verifier. -/
def assessCase : EngineM (Assessed F) := do
  appendRow "CASE_RECEIVED" (stagePayload case
    [("subject_id", .str case.subjectId), ("event_ids", texts case.eventIds)])
  let evidence : EvidenceAssessment F ← .ofExcept (assessEvidence lib case)
  appendRow "EVIDENCE_ASSESSED" (stagePayload case evidence.toDict)
  let model ← .ofExcept (engine.assess case)
  appendRow "MODEL_ASSESSED" (stagePayload case model.toDict)
  let proposal ← .ofExcept (propose lib engine.config case model evidence)
  appendRow "POLICY_PROPOSED" (stagePayload case (policyPayload engine.mode proposal))
  let verification ← .ofExcept (verify lib engine.config case model evidence proposal)
  appendRow "INDEPENDENTLY_VERIFIED" (stagePayload case verification.toDict)
  return ⟨evidence, model, proposal, verification⟩

/-- The row about the authorization. -/
def authorizationRow (attempted : Bool) (token : Option AuthorizationToken) (error : String) :
    EngineM Unit :=
  appendRow "AUTHORIZATION_EVALUATED" (stagePayload case
    [("execution_mode", .str engine.mode.value), ("attempted", .bool attempted),
      ("issued", .bool token.isSome), ("token_id", .str (tokenIdOf token)),
      ("permitted_actions", .arr (permittedActions token)), ("error", .str error)])

/-- Nothing is executed. -/
def suppress (proposal : DecisionProposal) : EngineM Execution := do
  appendRow "EXECUTION_SUPPRESSED" (stagePayload case
    [("execution_mode", .str engine.mode.value),
      ("reason", .str "Historical replay and shadow modes are observation-only."),
      ("counterfactual_actions", .arr proposal.executableActions),
      ("authorization_attempted", .bool false), ("broker_invocations", .int 0),
      ("operational_effects", .int 0)])
  authorizationRow engine case false none ""
  return {
    counterfactualActions := proposal.executableActions
    token := none
    authorizationError := ""
    authorizationAttempted := false
    actionResults := []
    brokerInvocations := 0
    postAction := notApplicable .null
    operationalEffects := 0 }

/-- `gate.authorize(case, proposal, verification)`, with what it refuses as a text. The clock and
the identifier are drawn also where they are not needed. -/
def requestToken (proposal : DecisionProposal) (verification : VerificationResult) :
    EngineM (Option AuthorizationToken × String) := do
  let instant ← now
  let id ← uuid
  match authorize lib F engine.config engine.signingKey case proposal verification instant id with
  | .ok token => return (token, "")
  | .error (.authorization message) => return (none, message)
  | .error e => .raise e

/-- `broker.execute(case, action, token)`. -/
def brokerExecute (token : AuthorizationToken) (action : Json) : EngineM (Checked ActionResult) := do
  let instant ← now
  match validate lib F engine.signingKey token case.caseId action instant with
  | .error e => return .error e
  | .ok () =>
    let _ ← (.perform (Op.initializeCase case) : EngineM Unit)
    (.perform (Op.apply case.caseId action) : EngineM (Checked ActionResult))

/-- The result of an action that was refused. -/
def rejected (action : Json) (message : String) : ActionResult where
  action := action
  success := false
  stateBefore := []
  stateAfter := []
  message := message
  rollbackReference := "none"

/-- One iteration of the loop over the actions. -/
def executeAction (token : AuthorizationToken) (action : Json) : EngineM ActionResult := do
  let result ← brokerExecute lib engine case token action
  match result with
  | .ok result =>
    appendRow "ACTION_EXECUTED" (stagePayload case result.toDict)
    return result
  | .error (.authorization message) =>
    appendRow "ACTION_REJECTED" (stagePayload case (rejected action message).toDict)
    return rejected action message
  | .error e => .raise e

/-- The loop over the actions. -/
def executeActions (token : AuthorizationToken) : List Json → EngineM (List ActionResult)
  | [] => return []
  | action :: actions => do
    let result ← executeAction lib engine case token action
    let results ← executeActions token actions
    return result :: results

/-- Without a token the loop is skipped. -/
def executeProposal (token : Option AuthorizationToken) (actions : List Json) :
    EngineM (List ActionResult) :=
  match token with
  | none => return []
  | some token => executeActions lib engine case token actions

/-- The post-action verification of a simulation. -/
def postActionOf (results : List ActionResult) : Checked Dict :=
  if results = [] then .ok (notApplicable (.bool true))
  else (verifyResults F lib results).map fun verified =>
    [("applicable", .bool true), ("status", .str (if verified.1 then "VERIFIED" else "FAILED")),
      ("passed", .bool verified.1), ("checks", .arr (verified.2.map PostCheck.toJson))]

/-- The row about the post-action verification, where there are results. -/
def recordPostAction (results : List ActionResult) (postAction : Dict) : EngineM Unit :=
  if results = [] then return ()
  else appendRow "POST_ACTION_VERIFIED" (stagePayload case postAction)

/-- The proposal is authorized and executed. -/
def simulate (proposal : DecisionProposal) (verification : VerificationResult) :
    EngineM Execution := do
  let (token, error) ← requestToken lib engine case proposal verification
  authorizationRow engine case true token error
  let results ← executeProposal lib engine case token proposal.executableActions
  let postAction ← .ofExcept (postActionOf (F := F) lib results)
  recordPostAction case results postAction
  return {
    counterfactualActions := []
    token := token
    authorizationError := error
    authorizationAttempted := true
    actionResults := results
    brokerInvocations := results.length
    postAction := postAction
    operationalEffects := results.countP ActionResult.success }

/-- The record of the decision. -/
def finalize (assessed : Assessed F) (proposal : DecisionProposal) (execution : Execution) :
    EngineM (Decision F) := do
  let latency ← (.perform Op.latency : EngineM Json)
  let id ← uuid
  let instant ← now
  let createdAt ← .ofExcept (isoformatOf lib (instant - instant % 1000000))
  let decision : Decision F := {
    case := case
    mode := engine.mode
    decisionId := "dec-" ++ id
    createdAt := createdAt
    latency := latency
    evidence := assessed.evidence
    model := assessed.model
    originalDisposition := assessed.proposal.disposition
    proposal := proposal
    verification := assessed.verification
    execution := execution }
  appendRow "DECISION_FINALIZED" (stagePayload case
    [("decision_id", .str decision.decisionId),
      ("final_disposition", .str proposal.disposition.value),
      ("decision_record_hash", .str (decision.recordHash lib engine.config))])
  return decision

/-- `process(case)`. -/
def process : EngineM (Decision F) := do
  let assessed ← assessCase lib engine case
  let proposal := downgrade assessed.proposal assessed.verification
  if engine.mode.isReadOnly then
    let execution ← suppress engine case proposal
    finalize lib engine case assessed (observed proposal) execution
  else
    let execution ← simulate lib engine case proposal assessed.verification
    finalize lib engine case assessed proposal execution

end Path

end DecisionFirewall.Engine
