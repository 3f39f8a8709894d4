import DecisionFirewall.Base.PyVal
import DecisionFirewall.Phase3.Models

/-!
# The Simulated Execution Boundary

`adf_poc/phase3/simulation.py`: the target states behind one closure, the broker that
authorizes and executes a command, and `verify_execution`, which compares what the
broker reports with what it observes.

- §1 conversions
- §2 commands
- §3 the boundary
- §4 the broker
- §5 post-action verification

The metrics are left out. `verify_execution` is a function of the answer that
`observe_state` gives it, so that a failed observation is one more input.
-/

namespace DecisionFirewall.Phase3

open StageA (TargetState Command Binding AdapterConfig AdapterStore AdapterError VerificationStatus
  SYNTHETIC_ADAPTER_ID SYNTHETIC_ADAPTER_CONTRACT_VERSION SYNTHETIC_EXECUTION_MODE
  syntheticAdapterContractSha256)

/-! ## §1 Conversions -/

/-- The conversions of the interpreter that the boundary uses; `none` is an exception. -/
structure Conversions (rt : Runtime) where
  /-- `datetime.fromisoformat(text).astimezone(timezone.utc)`: a naive text is local time -/
  instant : String → Option Int
  /-- `int(text)` -/
  intOfText : String → Option Int
  /-- `int(x)` of the float that the text is written for -/
  intOfFloat : String → Option Int
  /-- a text with an offset does not depend on the local time zone -/
  instant_of_offset : ∀ s t, rt.fromisoformat s = some t → instant s = some t

namespace Conversions

variable {rt : Runtime} (lib : Conversions rt)

/-- `int(value)`. -/
def int : Json → Option Int
  | .bool b => some (if b then 1 else 0)
  | .int n => some n
  | .float text => lib.intOfFloat text
  | .str s => lib.intOfText s
  | .null | .arr _ | .obj _ => none

end Conversions

/-- `bool(value)`. -/
def truth (F : Type) [PyFloat F] : Json → Bool
  | .null => false
  | .bool b => b
  | .int n => n != 0
  | .float text => !PyFloat.eqTextInt F text 0
  | .str s => s != ""
  | .arr xs => !xs.isEmpty
  | .obj fields => !fields.isEmpty

/-- `v == w`. -/
def jsonEq (F : Type) [PyFloat F] (v w : Json) : Bool := PyVal.pyEq F (.ofJson v) (.ofJson w)

/-- `d == e`. -/
def dictEq (F : Type) [PyFloat F] (d e : Dict) : Bool := jsonEq F (.obj d) (.obj e)

/-! ## §2 Commands -/

def NETWORK_ISOLATE_ACTION : String := "NETWORK_ISOLATE"

def COMMAND_KEYS : List String := ["type", "target", "parameters"]

/-- `_normalize_command(value)`; a JSON value is its own exact copy. -/
def normalizeCommand : Json → Option Command
  | .obj fields =>
    if (∀ f ∈ fields, f.1 ∈ COMMAND_KEYS) ∧ ∀ k ∈ COMMAND_KEYS, k ∈ fields.map Prod.fst then
      match fields.lookup "type", fields.lookup "target", fields.lookup "parameters" with
      | some (.str type), some (.str target), some (.obj parameters) =>
        if type ≠ "" ∧ target ≠ "" then some ⟨type, target, parameters⟩ else none
      | _, _, _ => none
    else none
  | _ => none

/-! ## §3 The boundary -/

/-- The configuration that the closures hold. -/
structure BoundaryConfig where
  adapter : AdapterConfig
  authorizationKeyDomainId : String

/-- What the closures share: the states, which are used where there is no adapter store,
and the digests of the attempts, `none` while an attempt is reserved. -/
structure Boundary where
  states : List (String × TargetState)
  attemptBindingDigests : List (String × Option String)
  adapterStore : Option AdapterStore

namespace Boundary

variable (rt : Runtime) (cfg : BoundaryConfig)

/-- `build_simulated_execution_boundary(...)`. -/
def build (adapterStore : Option AdapterStore) : Boundary where
  states := cfg.adapter.inventory.map fun target =>
    (target.1, TargetState.initial target.1 target.2)
  attemptBindingDigests := []
  adapterStore := adapterStore

/-- `observe_state(target_id)`; the error is the reason code of a
`SimulationBoundaryError`. -/
def observeState (b : Boundary) (targetId : String) : Except String TargetState :=
  match b.adapterStore with
  | some store => (store.observe cfg.adapter rt targetId).mapError AdapterError.reasonCode
  | none => match b.states.lookup targetId with
    | some state => .ok state
    | none => .error "TARGET_UNKNOWN"

/-- `attempt_binding_digests[attempt_id] = digest`. -/
def setAttempt (b : Boundary) (attemptId : String) (digest : Option String) : Boundary :=
  { b with attemptBindingDigests :=
      (attemptId, digest) :: b.attemptBindingDigests.filter fun a => a.1 ≠ attemptId }

/-- `attempt_binding_digests.pop(attempt_id, None)`. -/
def popAttempt (b : Boundary) (attemptId : String) : Boundary :=
  { b with attemptBindingDigests := b.attemptBindingDigests.filter fun a => a.1 ≠ attemptId }

/-- `attempt_binding_digests.get(attempt_id)`: a reserved attempt reads as `None`, too. -/
def attemptDigest (b : Boundary) (attemptId : String) : Option String :=
  (b.attemptBindingDigests.lookup attemptId).join

/-- `states[target_id] = state`. -/
def setState (b : Boundary) (targetId : String) (state : TargetState) : Boundary :=
  { b with states := b.states.map fun s => if s.1 = targetId then (s.1, state) else s }

end Boundary

/-! ## §4 The broker -/

/-- The arguments of `execute`. -/
structure ExecuteArgs where
  token : Option AuthorizationToken
  command : Json
  requestId : String
  decisionId : String
  agentId : String
  policyId : String
  policyVersion : String
  policySha256 : String
  decisionContextSha256 : String
  requestSha256 : Option String
  decisionAuthorizationSha256 : Option String
  /-- `recovery_summary` is a dictionary -/
  recoverySummaryGiven : Bool

/-- How `validate_and_consume` can fail: with an `AuthorizationError` or otherwise. -/
inductive ConsumeFailure where
  | authorization (reasonCode : String)
  | other
  deriving DecidableEq, Repr

/-- What a call of the broker meets outside the boundary: the identifiers that are
allocated, the clock, whose naive reading is `none`, and the gate. -/
structure BrokerAnswers (rt : Runtime) where
  attemptId : String
  receiptId : String
  now : Option {t : Int // rt.IsDatetime t}
  consumption : Except ConsumeFailure Unit
  /-- `record_adapter_receipt` returns -/
  receiptRecorded : Bool

/-- The exceptions that leave the broker. -/
inductive BrokerFailure where
  | authorization (reasonCode : String)
  | simulation (reasonCode : String)
  | other
  deriving DecidableEq, Repr

/-- An attempt with its authorization and command: what the recorded digest is taken of. -/
structure Attempt where
  token : AuthorizationToken
  command : Command
  result : BrokerResult

/-- `token.to_dict(include_signature=True)`. -/
def AuthorizationToken.signedDict (t : AuthorizationToken) : Dict :=
  t.unsignedDict ++ [("signature", .str t.signature)]

/-- `attempt_binding`. -/
def Attempt.binding (a : Attempt) : Json :=
  .obj [("authorization", .obj a.token.signedDict), ("permitted_command", a.command.toJson),
    ("broker_result", .obj a.result.toDict)]

/-- How a call of the broker ends: what it returns or raises, the boundary it leaves, and
the attempt that it recorded the digest of. -/
structure BrokerOutcome where
  result : Except BrokerFailure BrokerResult
  boundary : Boundary
  recorded : Option Attempt

/-- What the synthetic target reports, with the state after. -/
structure Report where
  reportedSuccess : Bool
  message : String
  stateAfter : TargetState

section Broker

variable {rt : Runtime} (lib : Conversions rt) (cfg : BoundaryConfig) (F : Type) [PyFloat F]

variable (rt) in
/-- The durable binding of an attempt. -/
def durableBinding (a : ExecuteArgs) (token : AuthorizationToken) (command : Command)
    (requestSha256 decisionAuthorizationSha256 : String) (stateBefore : TargetState) : Binding where
  adapterId := SYNTHETIC_ADAPTER_ID
  adapterContractVersion := SYNTHETIC_ADAPTER_CONTRACT_VERSION
  adapterContractSha256 := syntheticAdapterContractSha256 rt
  executionMode := SYNTHETIC_EXECUTION_MODE
  tokenId := token.tokenId
  unsignedTokenSha256 := rt.sha256Json (.obj token.unsignedDict)
  issuerInstanceId := token.issuerInstanceId
  authorizationKeyDomainId := cfg.authorizationKeyDomainId
  principalId := a.agentId
  requestId := a.requestId
  requestSha256 := requestSha256
  decisionId := a.decisionId
  decisionAuthorizationSha256 := decisionAuthorizationSha256
  decisionContextSha256 := a.decisionContextSha256
  agentId := a.agentId
  command := command
  policyId := a.policyId
  policyVersion := a.policyVersion
  policySha256 := a.policySha256
  targetStateSha256 := stateBefore.sha256 rt

/-- The mutation of the in-memory target under its lock. A failed check raises a
`SimulationBoundaryError`, which becomes the message; `none` is another exception, and what
was written before it stays written. -/
def mutate (token : AuthorizationToken) (command : Command) (attemptId : String)
    (attemptedAt : Int) (b : Boundary) : Option (Except String Report) × Boundary :=
  match b.states.lookup command.target with
  | none => (some (.error
    "TARGET_UNKNOWN: Target is not present in the synthetic simulation inventory."), b)
  | some state =>
    if state.sha256 rt ≠ token.targetStateSha256 then
      (some (.error
        "TARGET_STATE_PRECONDITION_CHANGED: Target state changed after authorization validation."),
        b)
    else if command.type ≠ NETWORK_ISOLATE_ACTION then
      (some (.error
        "ACTION_NOT_IMPLEMENTED: The synthetic target implements only NETWORK_ISOLATE."), b)
    else if cfg.adapter.faultMode command.target = .failed then
      (some (.ok ⟨false, "Injected synthetic downstream failure; no state changed.", state⟩), b)
    else
      match (command.parameters.lookup "duration_seconds").bind lib.int,
          command.parameters.lookup "preserve_management" with
      | some durationSeconds, some preserve =>
        let isolated := { state with lastActionId := some attemptId, networkState := .isolated }
        if cfg.adapter.faultMode command.target = .partialEffect then
          let after := { isolated with isolationExpiresAt := none }
          (some (.ok ⟨true, "Injected partial transition in the synthetic target.", after⟩),
            b.setState command.target after)
        else
          let managed := { isolated with managementChannel := truth F preserve }
          match rt.addSeconds attemptedAt durationSeconds with
          | none => (none, b.setState command.target managed)
          | some expires =>
            let applied := { managed with
              isolationExpiresAt := some (rt.isoformat (Runtime.truncate expires)) }
            if cfg.adapter.faultMode command.target = .unexpectedEffect then
              let after := { applied with serviceHealth := .degraded }
              (some (.ok ⟨true,
                "Synthetic action completed with an injected unexpected effect.", after⟩),
                b.setState command.target after)
            else
              (some (.ok ⟨true,
                "Synthetic network isolation applied to the in-memory target.", applied⟩),
                b.setState command.target applied)
      | _, _ => (none, b)

/-- The execution in the process: after a failed check the target is observed. -/
def executeInProcess (token : AuthorizationToken) (command : Command) (attemptId : String)
    (attemptedAt : Int) (b : Boundary) : Except BrokerFailure Report × Boundary :=
  match mutate lib cfg F token command attemptId attemptedAt b with
  | (some (.ok report), b') => (.ok report, b')
  | (some (.error message), b') =>
    match b'.observeState rt cfg command.target with
    | .ok state => (.ok ⟨false, message, state⟩, b')
    | .error reason => (.error (.simulation reason), b')
  | (none, b') => (.error .other, b')

/-- The execution in the adapter store. -/
def executeDurably (binding : Binding) (answers : BrokerAnswers rt) (attemptedAt : Int)
    (store : AdapterStore) (b : Boundary) : Except BrokerFailure Report × Boundary :=
  match store.executeOnce cfg.adapter rt ⟨answers.receiptId, binding.sha256 rt, binding,
      answers.attemptId, rt.isoformat attemptedAt⟩ with
  | ⟨.error .overflow, store'⟩ => (.error .other, { b with adapterStore := some store' })
  | ⟨.error e, store'⟩ => (.error (.simulation e.reasonCode), { b with adapterStore := some store' })
  | ⟨.ok receipt, store'⟩ =>
    let b' := { b with adapterStore := some store' }
    match b'.observeState rt cfg binding.command.target with
    | .ok state => (.ok ⟨receipt.reportedSuccess, receipt.message, state⟩, b')
    | .error reason => (.error (.simulation reason), b')

variable (rt) in
/-- The result of an attempt. -/
def brokerResult (token : AuthorizationToken) (command : Command) (attemptId : String)
    (attemptedAt : Int) (stateBefore : TargetState) (report : Report) : BrokerResult where
  attemptId := attemptId
  tokenId := token.tokenId
  requestId := token.requestId
  decisionId := token.decisionId
  actionType := command.type
  targetId := command.target
  parameters := command.parameters
  executedAt := rt.isoformat attemptedAt
  attempted := true
  accepted := true
  reportedSuccess := report.reportedSuccess
  message := report.message
  stateBeforeSha256 := stateBefore.sha256 rt
  stateAfterSha256 := report.stateAfter.sha256 rt

/-- An authorized attempt: the execution, the result and its digest. -/
def attempt (a : ExecuteArgs) (answers : BrokerAnswers rt) (token : AuthorizationToken)
    (command : Command) (attemptedAt : Int) (stateBefore : TargetState) (b : Boundary) :
    BrokerOutcome :=
  let executed : Except BrokerFailure Report × Boundary :=
    match b.adapterStore with
    | none => executeInProcess lib cfg F token command answers.attemptId attemptedAt b
    | some store => executeDurably cfg (durableBinding rt cfg a token command
        (a.requestSha256.getD "") (a.decisionAuthorizationSha256.getD "") stateBefore)
        answers attemptedAt store b
  match executed with
  | (.error e, b') => ⟨.error e, b', none⟩
  | (.ok report, b') =>
    let result := brokerResult rt token command answers.attemptId attemptedAt stateBefore report
    let made : Attempt := ⟨token, command, result⟩
    let b'' := b'.setAttempt answers.attemptId (some (rt.sha256Json made.binding))
    ⟨if answers.receiptRecorded then .ok result else .error .other, b'', some made⟩

/-- `authorize_and_execute(...)`. -/
def authorizeAndExecute (a : ExecuteArgs) (answers : BrokerAnswers rt) (b : Boundary) :
    BrokerOutcome :=
  match a.token, normalizeCommand a.command with
  | none, _ => ⟨.error (.authorization "AUTHORIZATION_MISSING"), b, none⟩
  | some _, none => ⟨.error (.authorization "AUTHORIZATION_COMMAND_SHAPE_INVALID"), b, none⟩
  | some token, some command =>
    match b.observeState rt cfg command.target with
    | .error reason => ⟨.error (.authorization reason), b, none⟩
    | .ok stateBefore =>
      if answers.attemptId = "" then ⟨.error (.simulation "ATTEMPT_ID_INVALID"), b, none⟩
      else if answers.attemptId ∈ b.attemptBindingDigests.map Prod.fst then
        ⟨.error (.simulation "ATTEMPT_ID_COLLISION"), b, none⟩
      else
        let reserved := b.setAttempt answers.attemptId none
        match answers.now with
        | none =>
          ⟨.error (.simulation "SIMULATION_CLOCK_INVALID"), reserved.popAttempt answers.attemptId,
            none⟩
        | some now =>
          if b.adapterStore.isSome ∧ ¬ (a.requestSha256.isSome ∧
              a.decisionAuthorizationSha256.isSome ∧ a.recoverySummaryGiven) then
            ⟨.error (.simulation "DURABLE_ADAPTER_BINDING_MISSING"), reserved, none⟩
          else
            match answers.consumption with
            | .error (.authorization reason) =>
              ⟨.error (.authorization reason), reserved.popAttempt answers.attemptId, none⟩
            | .error .other => ⟨.error .other, reserved, none⟩
            | .ok () =>
              attempt lib cfg F a answers token command (Runtime.truncate now.1) stateBefore
                reserved

end Broker

/-! ## §5 Post-action verification -/

/-- The arguments of `verify_execution`. -/
structure VerificationArgs where
  token : AuthorizationToken
  permittedCommand : Json
  requestId : String
  decisionId : String
  brokerResult : BrokerResult
  stateBefore : TargetState

/-- `if p: binding_reasons.append(reason)`. -/
def reasonIf (p : Prop) [Decidable p] (reason : String) : List String :=
  if p then [reason] else []

@[simp] theorem reasonIf_eq_nil {p : Prop} [Decidable p] {reason : String} :
    reasonIf p reason = [] ↔ ¬ p := by
  unfold reasonIf
  split_ifs with h <;> simp [h]

/-- `_changed_fields(before, observed)`. -/
def changedFields (F : Type) [PyFloat F] (before observed : Dict) : List String :=
  (((before.map Prod.fst ++ observed.map Prod.fst).eraseDups).filter fun key =>
    !jsonEq F (before.get key) (observed.get key)).mergeSort fun a b => decide (a ≤ b)

/-- `allowed_changes`. -/
def ALLOWED_CHANGES : List String :=
  ["network_state", "management_channel", "isolation_expires_at", "last_action_id"]

/-- The status of a verification, its rollback flag and its reasons. -/
structure Verdict where
  status : VerificationStatus
  rollbackRequired : Bool
  reasons : List String

/-- The verdict on an attempt that is refused for `reasons`. -/
def refusedVerdict (reasons : List String) (stateChanged : Bool) : Verdict :=
  if stateChanged then ⟨.rollbackRequired, true, reasons ++ ["ROLLBACK_REQUIRED"]⟩
  else ⟨.failed, false, reasons⟩

/-- The verdict on a bound attempt from its unexpected fields and its transition checks. -/
def transitionVerdict (unexpected : List String) (checks : List Bool) (reportedSuccess : Bool) :
    Verdict :=
  let matched := checks.countP id
  if unexpected ≠ [] then
    ⟨.unexpectedEffect, true, ["UNEXPECTED_TARGET_STATE_CHANGE", "ROLLBACK_REQUIRED"]⟩
  else if matched = checks.length ∧ reportedSuccess then
    ⟨.verified, false, ["EXPECTED_STATE_OBSERVED"]⟩
  else if matched = checks.length then
    ⟨.unexpectedEffect, true, ["BROKER_REPORT_STATE_DISAGREEMENT", "ROLLBACK_REQUIRED"]⟩
  else if 0 < matched ∧ matched < checks.length then
    ⟨.partialEffect, true, ["PARTIAL_STATE_TRANSITION", "ROLLBACK_REQUIRED"]⟩
  else ⟨.failed, false, ["EXPECTED_STATE_NOT_OBSERVED"]⟩

namespace VerificationArgs

variable {rt : Runtime} (lib : Conversions rt) (F : Type) [PyFloat F] (a : VerificationArgs)

/-- `executed_at`, `token_issued` and `token_expires`. -/
def instants : Option (Int × Int × Int) := do
  let executedAt ← lib.instant a.brokerResult.executedAt
  let issued ← lib.instant a.token.issuedAt
  let expires ← lib.instant a.token.expiresAt
  pure (executedAt, issued, expires)

def timeReasons : List String :=
  match a.instants lib with
  | some (executedAt, issued, expires) =>
    reasonIf (¬ (issued ≤ executedAt ∧ executedAt < expires)) "VERIFICATION_EXECUTION_TIME_INVALID"
  | none => ["VERIFICATION_EXECUTION_TIME_INVALID"]

def commandReasons : List String :=
  match normalizeCommand a.permittedCommand with
  | none => ["VERIFICATION_COMMAND_SHAPE_INVALID"]
  | some command =>
    reasonIf (command.type ≠ a.token.actionType) "VERIFICATION_COMMAND_ACTION_MISMATCH" ++
    reasonIf (command.target ≠ a.token.targetId) "VERIFICATION_COMMAND_TARGET_MISMATCH" ++
    reasonIf (dictEq F command.parameters a.token.permittedParameters = false)
      "VERIFICATION_COMMAND_PARAMETERS_MISMATCH"

/-- The binding reasons that are collected before the target is observed. -/
def recordReasons : List String :=
  let r := a.brokerResult
  reasonIf (a.requestId ≠ a.token.requestId) "VERIFICATION_REQUEST_MISMATCH" ++
  reasonIf (a.decisionId ≠ a.token.decisionId) "VERIFICATION_DECISION_MISMATCH" ++
  reasonIf (r.tokenId ≠ a.token.tokenId) "VERIFICATION_TOKEN_MISMATCH" ++
  reasonIf (r.requestId ≠ a.token.requestId) "VERIFICATION_BROKER_REQUEST_MISMATCH" ++
  reasonIf (r.decisionId ≠ a.token.decisionId) "VERIFICATION_BROKER_DECISION_MISMATCH" ++
  a.commandReasons F ++
  reasonIf (r.actionType ≠ a.token.actionType) "VERIFICATION_ACTION_MISMATCH" ++
  reasonIf (r.targetId ≠ a.token.targetId) "VERIFICATION_TARGET_MISMATCH" ++
  reasonIf (dictEq F r.parameters a.token.permittedParameters = false)
    "VERIFICATION_PARAMETERS_MISMATCH" ++
  a.timeReasons lib ++
  reasonIf (¬ (r.attempted = true ∧ r.accepted = true)) "VERIFICATION_BROKER_DISPOSITION_INVALID" ++
  reasonIf (r.attemptId = "") "VERIFICATION_ATTEMPT_INVALID" ++
  reasonIf (a.stateBefore.sha256 rt ≠ a.token.targetStateSha256)
    "VERIFICATION_PRESTATE_AUTHORIZATION_MISMATCH" ++
  reasonIf (r.stateBeforeSha256 ≠ a.stateBefore.sha256 rt) "VERIFICATION_BROKER_PRESTATE_MISMATCH"

/-- `observed_attempt_digest`. -/
def attemptDigest (rt : Runtime) : Option String :=
  (normalizeCommand a.permittedCommand).map fun command =>
    rt.sha256Json (Attempt.binding ⟨a.token, command, a.brokerResult⟩)

/-- The recorded digest is the digest of what is presented. -/
def Originated (rt : Runtime) (recorded : Option String) : Prop :=
  recorded.isSome = true ∧ recorded = a.attemptDigest rt

instance (recorded : Option String) : Decidable (a.Originated rt recorded) :=
  inferInstanceAs (Decidable (_ ∧ _))

/-- `binding_reasons`, where `recorded` is the digest under the attempt's identifier. -/
def bindingReasons (recorded : Option String) (observed : TargetState) : List String :=
  a.recordReasons lib F ++
  reasonIf (a.brokerResult.stateAfterSha256 ≠ observed.sha256 rt)
    "VERIFICATION_BROKER_POSTSTATE_MISMATCH" ++
  reasonIf (observed.lastActionId ≠ some a.brokerResult.attemptId)
    "VERIFICATION_ATTEMPT_STATE_MISMATCH" ++
  reasonIf (¬ a.Originated rt recorded) "VERIFICATION_ATTEMPT_ORIGIN_UNVERIFIED"

/-- `(executed_at + timedelta(seconds=int(..))).replace(microsecond=0).isoformat()`, where
the parameters have a duration; `none` is an exception. -/
def expiryText (executedAt : Int) : Option String := do
  let duration ← a.token.permittedParameters.lookup "duration_seconds"
  let seconds ← lib.int duration
  let expires ← rt.addSeconds executedAt seconds
  pure (rt.isoformat (Runtime.truncate expires))

/-- `expected["isolation_expires_at"]`; the outer `none` is an exception. -/
def expectedExpiry : Option (Option String) :=
  match a.instants lib with
  | some (executedAt, _, _) => (a.expiryText lib executedAt).map some
  | none => some none

/-- `expected`. -/
def expectedState (expiry : Option String) : Dict :=
  [("action_type", .str a.token.actionType),
    ("target_id", .str a.token.targetId),
    ("parameters", .obj a.token.permittedParameters),
    ("network_state", .str "isolated"),
    ("management_channel", .bool (truth F (a.token.permittedParameters.get "preserve_management"))),
    ("isolation_expires_at_present", .bool true),
    ("isolation_expires_at", .ofOption expiry),
    ("last_action_id", .str a.brokerResult.attemptId)]

/-- `unexpected_fields`. -/
def unexpectedFields (observed : TargetState) : List String :=
  (changedFields F a.stateBefore.toDict observed.toDict).filter (· ∉ ALLOWED_CHANGES)

def transitionChecks (observed : TargetState) (preserve : Json) (expiry : Option String) :
    List Bool :=
  [observed.networkState == .isolated,
    observed.managementChannel == truth F preserve,
    observed.isolationExpiresAt.isSome,
    observed.isolationExpiresAt == expiry,
    observed.lastActionId == some a.brokerResult.attemptId]

/-- The three branches after the binding reasons; `none` is a `KeyError`. -/
def verdict (recorded : Option String) (observed : TargetState) (expiry : Option String) :
    Option Verdict :=
  let stateChanged := observed != a.stateBefore
  let reasons := a.bindingReasons lib F recorded observed
  if reasons ≠ [] then some (refusedVerdict ("POST_ACTION_BINDING_FAILED" :: reasons) stateChanged)
  else if a.token.actionType ≠ NETWORK_ISOLATE_ACTION then
    some (refusedVerdict ["ACTION_VERIFICATION_UNSUPPORTED"] stateChanged)
  else (a.token.permittedParameters.lookup "preserve_management").map fun preserve =>
    transitionVerdict (a.unexpectedFields F observed)
      (a.transitionChecks F observed preserve expiry) a.brokerResult.reportedSuccess

/-- The verification that a failed observation gives. -/
def unavailable (rt : Runtime) (verificationId : String) : PostActionVerification where
  verificationId := verificationId
  requestId := a.token.requestId
  decisionId := a.token.decisionId
  attemptId := a.brokerResult.attemptId
  tokenId := a.token.tokenId
  actionType := a.token.actionType
  targetId := a.token.targetId
  parametersSha256 := rt.sha256Json (.obj a.token.permittedParameters)
  status := .failed
  expectedState := [("action_type", .str a.token.actionType), ("target_id", .str a.token.targetId),
    ("last_action_id", .str a.brokerResult.attemptId)]
  observedState := []
  changedFields := []
  unexpectedFields := []
  rollbackRequired := false
  reasonCodes := ["TARGET_OBSERVATION_UNAVAILABLE"]

/-- The verification of an observed state. -/
def judged (rt : Runtime) (verificationId : String) (observed : TargetState)
    (expiry : Option String) (v : Verdict) : PostActionVerification where
  verificationId := verificationId
  requestId := a.token.requestId
  decisionId := a.token.decisionId
  attemptId := a.brokerResult.attemptId
  tokenId := a.token.tokenId
  actionType := a.token.actionType
  targetId := a.token.targetId
  parametersSha256 := rt.sha256Json (.obj a.token.permittedParameters)
  status := v.status
  expectedState := a.expectedState F expiry
  observedState := observed.toDict
  changedFields := changedFields F a.stateBefore.toDict observed.toDict
  unexpectedFields := a.unexpectedFields F observed
  rollbackRequired := v.rollbackRequired
  reasonCodes := v.reasons.eraseDups

end VerificationArgs

/-- `verify_execution(...)`, where `recorded` is the digest under the attempt's identifier
and `observation` is what `observe_state` answers; `none` is an exception that leaves it. -/
def verifyExecution {rt : Runtime} (lib : Conversions rt) (F : Type) [PyFloat F]
    (verificationId : String) (recorded : Option String) (a : VerificationArgs)
    (observation : Option TargetState) : Option PostActionVerification :=
  match observation with
  | none => some (a.unavailable rt verificationId)
  | some observed => do
    let expiry ← a.expectedExpiry lib
    let v ← a.verdict lib F recorded observed expiry
    pure (a.judged F rt verificationId observed expiry v)

end DecisionFirewall.Phase3
