import DecisionFirewall.Engine.Verifier

/-!
# Authorization and Execution

`actions.py`: the gate that signs a token for a proposal and checks it again before each action,
the simulated target, and the verification of what the actions have done.

- §1 tokens
- §2 the gate
- §3 the target
- §4 post-action verification
-/

namespace DecisionFirewall.Engine

/-! ## §1 Tokens -/

/-- `AuthorizationToken`. -/
structure AuthorizationToken where
  tokenId : String
  caseId : String
  decisionHash : String
  permittedActions : List Json
  issuedAt : String
  expiresAt : String
  signature : String

/-- `unsigned_dict()`. -/
def AuthorizationToken.unsignedDict (t : AuthorizationToken) : Dict :=
  [("token_id", .str t.tokenId), ("case_id", .str t.caseId), ("decision_hash", .str t.decisionHash),
    ("permitted_actions", .arr t.permittedActions), ("issued_at", .str t.issuedAt),
    ("expires_at", .str t.expiresAt)]

/-- `ActionResult`. -/
structure ActionResult where
  action : Json
  success : Bool
  stateBefore : Dict
  stateAfter : Dict
  message : String
  rollbackReference : String

/-- `to_dict()`. -/
def ActionResult.toDict (r : ActionResult) : Dict :=
  [("action", r.action), ("success", .bool r.success), ("state_before", .obj r.stateBefore),
    ("state_after", .obj r.stateAfter), ("message", .str r.message),
    ("rollback_reference", .str r.rollbackReference)]

/-! ## §2 The gate -/

section Gate

variable (lib : Library) (F : Type) [EngineFloat F] (config : PolicyConfig) (signingKey : String)

/-- `_sign(payload)`. -/
def sign (payload : Dict) : String := lib.hmac signingKey (canonicalJson (.obj payload))

/-- The digest of what is decided. -/
def decisionHash (case : IdentityCase) (proposal : DecisionProposal) : String :=
  lib.sha256Json (.obj [("case_id", .str case.caseId), ("disposition", .str proposal.disposition.value),
    ("actions", .arr proposal.executableActions), ("rules", texts proposal.policyRulesApplied),
    ("evidence_event_ids", texts proposal.evidenceEventIds)])

/-- `isoformat()` of an instant; there is none outside the calendar. -/
def isoformatOf (instant : Int) : Checked String :=
  match lib.isoformat instant with
  | some s => .ok s
  | none => .error .overflowError

/-- `authorize(case, proposal, verification)` at an instant, with the identifier drawn. -/
def authorize (case : IdentityCase) (proposal : DecisionProposal) (verification : VerificationResult)
    (now : Int) (uuid : String) : Checked (Option AuthorizationToken) :=
  if proposal.executableActions = [] then .ok none
  else if !verification.passed then
    .error (.authorization
      "Independent verification failed; authorization token cannot be issued.")
  else do
    let issued := now - now % 1000000
    let ttl ← item config.safety "authorization_token_ttl_seconds" >>= intOf F lib
    let issuedAt ← isoformatOf lib issued
    let expiresAt ← isoformatOf lib (issued + ttl * 1000000)
    let unsigned : AuthorizationToken :=
      { tokenId := "auth-" ++ uuid
        caseId := case.caseId
        decisionHash := decisionHash lib case proposal
        permittedActions := proposal.executableActions
        issuedAt := issuedAt
        expiresAt := expiresAt
        signature := "" }
    return some { unsigned with signature := sign lib signingKey unsigned.unsignedDict }

/-- `validate(token, case_id, action)` at an instant. -/
def validate (token : AuthorizationToken) (caseId : String) (action : Json) (now : Int) :
    Checked Unit :=
  if sign lib signingKey token.unsignedDict ≠ token.signature then
    .error (.authorization "Authorization token signature is invalid.")
  else if token.caseId ≠ caseId then
    .error (.authorization "Authorization token does not match the case.")
  else if !memberOf F action token.permittedActions then
    .error (.authorization "Action is not permitted by the authorization token.")
  else match lib.fromisoformat token.expiresAt with
    | none => .error .valueError
    | some (.naive _) => .error .typeError
    | some (.aware expires) =>
      if expires < now then .error (.authorization "Authorization token has expired.") else .ok ()

end Gate

/-! ## §3 The target -/

/-- The state of an identity. -/
structure TargetState where
  subjectId : String
  activeSessions : Nat
  stepUpRequired : Bool
  monitoringLevel : String
  accountEnabled : Bool
  deriving DecidableEq, Repr

/-- `dict(state)`. -/
def TargetState.toDict (s : TargetState) : Dict :=
  [("subject_id", .str s.subjectId), ("active_sessions", .int s.activeSessions),
    ("step_up_required", .bool s.stepUpRequired), ("monitoring_level", .str s.monitoringLevel),
    ("account_enabled", .bool s.accountEnabled)]

/-- The state that `initialize_case` creates. -/
def TargetState.initial (subjectId : String) : TargetState where
  subjectId := subjectId
  activeSessions := 2
  stepUpRequired := false
  monitoringLevel := "baseline"
  accountEnabled := true

/-- `SimulatedIdentityProvider.states`. -/
abbrev Targets := List (String × TargetState)

namespace Targets

/-- `initialize_case(case)`. -/
def initializeCase (states : Targets) (case : IdentityCase) : Targets :=
  if (states.lookup case.caseId).isSome then states
  else states ++ [(case.caseId, TargetState.initial case.subjectId)]

/-- `states[case_id] = state`. -/
def set (states : Targets) (caseId : String) (state : TargetState) : Targets :=
  states.map fun entry => if entry.1 = caseId then (caseId, state) else entry

end Targets

/-- What an action makes of a state, with its rollback reference; the simulator implements three
actions. -/
def TargetState.act (s : TargetState) (action : Json) : Option (TargetState × String) :=
  match action with
  | .str "revoke_active_sessions" => some ({ s with activeSessions := 0 }, "reauthentication_required")
  | .str "force_step_up_auth" =>
    some ({ s with stepUpRequired := true }, "remove_temporary_step_up_policy")
  | .str "increase_monitoring" =>
    some ({ s with monitoringLevel := "enhanced" }, "restore_baseline_monitoring")
  | _ => none

section Target

variable (lib : Library)

/-- The value of the first eight digits of a digest. -/
def leadingDigits (digest : String) : Nat :=
  (digest.toList.take 8).foldl (fun n c =>
    16 * n + if c.isDigit then c.toNat - '0'.toNat else c.toNat - 'a'.toNat + 10) 0

/-- `deterministic_failure`. -/
def deterministicFailure (caseId : String) (action : Json) : Bool :=
  leadingDigits (lib.sha256 (caseId ++ ":" ++ lib.str action)) % 53 == 0

/-- `apply(case_id, action)`: what it returns or raises, and the states it leaves. -/
def Targets.apply (states : Targets) (caseId : String) (action : Json) :
    Checked ActionResult × Targets :=
  match states.lookup caseId with
  | none => (.error (.keyError caseId), states)
  | some state =>
    if deterministicFailure lib caseId action then
      (.ok {
        action := action
        success := false
        stateBefore := state.toDict
        stateAfter := state.toDict
        message := "Synthetic downstream control-plane failure; no state change occurred."
        rollbackReference := "not_required_no_change" }, states)
    else match state.act action with
      | none => (.error (.authorization
          ("The simulator does not implement action: " ++ lib.str action)), states)
      | some (after, rollback) =>
        (.ok {
          action := action
          success := true
          stateBefore := state.toDict
          stateAfter := after.toDict
          message := "Synthetic action applied to the in-memory identity state."
          rollbackReference := rollback }, states.set caseId after)

end Target

/-! ## §4 Post-action verification -/

/-- `EXPECTED_STATE[action]`. -/
def expectedState (action : Json) : Option (String × Json) :=
  match action with
  | .str "revoke_active_sessions" => some ("active_sessions", .int 0)
  | .str "force_step_up_auth" => some ("step_up_required", .bool true)
  | .str "increase_monitoring" => some ("monitoring_level", .str "enhanced")
  | _ => none

/-- An entry of the checks. -/
structure PostCheck where
  action : Json
  passed : Bool
  field : String
  expected : Json
  actual : Json

def PostCheck.toJson (c : PostCheck) : Json :=
  .obj [("action", c.action), ("passed", .bool c.passed), ("field", .str c.field),
    ("expected", c.expected), ("actual", c.actual)]

section PostAction

variable (F : Type) [EngineFloat F] (lib : Library)

/-- The check of one result. -/
def postCheck (result : ActionResult) : Checked PostCheck :=
  match expectedState result.action with
  | none => .error (.keyError (lib.str result.action))
  | some (field, expected) =>
    let actual := result.stateAfter.get field
    .ok {
      action := result.action
      passed := result.success && sameMember F actual expected
      field := field
      expected := expected
      actual := actual }

/-- `PostActionVerifier().verify(results)`. -/
def verifyResults (results : List ActionResult) : Checked (Bool × List PostCheck) := do
  let checks ← results.mapM (postCheck F lib)
  return (checks.all PostCheck.passed, checks)

end PostAction

end DecisionFirewall.Engine
