import DecisionFirewall.Base.JsonText
import DecisionFirewall.Phase3.ShippedPolicy
import DecisionFirewall.Phase3.Simulation

/-!
# What a Verification Certifies

The two sides of `verify_execution`: a verdict of `VERIFIED` certifies one exact effect of
a recorded attempt, and a change of the target is never passed over in silence.

- §1 target states as dictionaries
- §2 the verdicts
- §3 what `VERIFIED` says
- §4 runs of the broker
- §5 the certified effect
- §6 an isolation in the process
-/

namespace DecisionFirewall.Phase3

open StageA (TargetState Command VerificationStatus)

/-! ## §1 Target states as dictionaries -/

section States

variable (F : Type) [PyFloat F]

@[simp] theorem jsonEq_str (s t : String) : jsonEq F (.str s) (.str t) = decide (s = t) := by
  simp [jsonEq, PyVal.ofJson, PyVal.pyEq]

@[simp] theorem jsonEq_bool (b c : Bool) : jsonEq F (.bool b) (.bool c) = decide (b = c) := by
  cases b <;> cases c <;> rfl

@[simp] theorem jsonEq_ofOption (s t : Option String) :
    jsonEq F (.ofOption s) (.ofOption t) = decide (s = t) := by
  cases s <;> cases t <;> simp [Json.ofOption, jsonEq, PyVal.ofJson, PyVal.pyEq]

@[simp] theorem toDict_get_targetId (s : TargetState) :
    Dict.get s.toDict "target_id" = .str s.targetId := rfl

@[simp] theorem toDict_get_targetType (s : TargetState) :
    Dict.get s.toDict "target_type" = .str s.targetType := rfl

@[simp] theorem toDict_get_serviceHealth (s : TargetState) :
    Dict.get s.toDict "service_health" = .str s.serviceHealth.text := rfl

theorem networkState_text_inj {s t : StageA.NetworkState} : s.text = t.text ↔ s = t := by
  cases s <;> cases t <;> decide

theorem serviceHealth_text_inj {s t : StageA.ServiceHealth} : s.text = t.text ↔ s = t := by
  cases s <;> cases t <;> decide

/-- Two target states are equal as dictionaries only if they are one state. -/
theorem dictEq_toDict {s t : TargetState} : dictEq F s.toDict t.toDict = true ↔ s = t := by
  have hoption : ∀ u v : Option String, PyVal.pyEq F (.ofJson (.ofOption u)) (.ofJson (.ofOption v)) =
      decide (u = v) := jsonEq_ofOption F
  have hbool : (PyVal.bool t.managementChannel).asInt =
      some (if s.managementChannel = true then 1 else 0) ↔
        s.managementChannel = t.managementChannel := by
    cases s.managementChannel <;> cases t.managementChannel <;> decide
  simp only [dictEq, jsonEq, TargetState.toDict, PyVal.ofJson, PyVal.ofJsonFields, PyVal.pyEq,
    PyVal.pyEqFields, List.lookup, List.length_cons, List.length_nil, decide_true, Bool.true_and,
    Bool.and_eq_true, decide_eq_true_eq, beq_self_eq_true, String.reduceBEq, hoption,
    networkState_text_inj, serviceHealth_text_inj, hbool, and_true]
  obtain ⟨a, b, c, d, e, f, g⟩ := s
  obtain ⟨a', b', c', d', e', f', g'⟩ := t
  simp only [TargetState.mk.injEq]

theorem dictEq_toDict_self (s : TargetState) : dictEq F s.toDict s.toDict = true :=
  (dictEq_toDict F).mpr rfl

/-- A dictionary with another number of members is not a target state. -/
theorem dictEq_of_length {d : Dict} {s : TargetState} (h : d.length ≠ 7) :
    dictEq F d s.toDict = false := by
  have hlength : (PyVal.ofJsonFields s.toDict).length = 7 := rfl
  have hfields : (PyVal.ofJsonFields d).length = d.length := by
    rw [← List.length_map Prod.fst, Json.ofJsonFields_map_fst, List.length_map]
  simp [dictEq, jsonEq, PyVal.ofJson, PyVal.pyEq, hlength, hfields, h]

/-- A member that is not reported as changed is equal. -/
theorem jsonEq_of_notMem {before observed : Dict} {key : String} (hkey : key ∈ before.map Prod.fst)
    (h : key ∉ changedFields F before observed) :
    jsonEq F (before.get key) (observed.get key) = true := by
  by_contra hne
  apply h
  rw [changedFields, List.mem_mergeSort, List.mem_filter]
  refine ⟨?_, by simpa using hne⟩
  rw [List.mem_eraseDups]
  exact List.mem_append_left _ hkey

end States

/-! ## §2 The verdicts -/

/-- A refused attempt is never verified, and a change of the state asks for a rollback. -/
theorem refusedVerdict_spec (reasons : List String) (stateChanged : Bool) :
    (refusedVerdict reasons stateChanged).status ≠ .verified ∧
      (refusedVerdict reasons stateChanged).rollbackRequired = stateChanged := by
  cases stateChanged
  · exact ⟨by simp [refusedVerdict], rfl⟩
  · exact ⟨by simp [refusedVerdict], rfl⟩

/-- All checks passed. -/
theorem countP_eq_length {checks : List Bool} :
    checks.countP id = checks.length ↔ ∀ c ∈ checks, c = true := by
  rw [List.countP_eq_length]
  rfl

/-- A bound attempt is verified exactly if nothing else changed, every check passed and the
broker reported success. -/
theorem transitionVerdict_verified_iff {unexpected : List String} {checks : List Bool}
    {reportedSuccess : Bool} :
    (transitionVerdict unexpected checks reportedSuccess).status = .verified ↔
      unexpected = [] ∧ (∀ c ∈ checks, c = true) ∧ reportedSuccess = true := by
  rw [← countP_eq_length]
  unfold transitionVerdict
  generalize checks.countP id = matched, checks.length = total
  by_cases hunexpected : unexpected = []
  · by_cases hall : matched = total
    · cases reportedSuccess <;> simp [hunexpected, hall]
    · by_cases hsome : 0 < matched ∧ matched < total
      · simp [hunexpected, hall, hsome]
      · simp [hunexpected, hall, hsome]
  · simp [hunexpected]

/-- A bound attempt of which a check passed is verified or asks for a rollback. -/
theorem transitionVerdict_rollback {unexpected : List String} {checks : List Bool}
    {reportedSuccess : Bool} (h : ∃ c ∈ checks, c = true) :
    (transitionVerdict unexpected checks reportedSuccess).status = .verified ∨
      (transitionVerdict unexpected checks reportedSuccess).rollbackRequired = true := by
  have hpos : 0 < checks.countP id := List.countP_pos_iff.mpr h
  have hle : checks.countP id ≤ checks.length := List.countP_le_length
  unfold transitionVerdict
  generalize checks.countP id = matched, checks.length = total at hpos hle
  by_cases hunexpected : unexpected = []
  · by_cases hall : matched = total
    · cases reportedSuccess <;> simp [hunexpected, hall]
    · -- some checks passed and some did not
      have hlt : matched < total := lt_of_le_of_ne hle hall
      simp [hunexpected, hall, hpos, hlt]
  · simp [hunexpected]

/-! ## §3 What `VERIFIED` says -/

section Verified

variable {rt : Runtime} {lib : Conversions rt} {F : Type} [PyFloat F]

/-- The request, decision, token, attempt, target and action bindings of a verified attempt. -/
structure Bound (F : Type) [PyFloat F] (a : VerificationArgs) : Prop where
  request : a.requestId = a.token.requestId ∧ a.brokerResult.requestId = a.token.requestId
  decision : a.decisionId = a.token.decisionId ∧ a.brokerResult.decisionId = a.token.decisionId
  token : a.brokerResult.tokenId = a.token.tokenId
  attempt : a.brokerResult.attemptId ≠ ""
  action : a.token.actionType = NETWORK_ISOLATE_ACTION ∧
    a.brokerResult.actionType = a.token.actionType
  target : a.brokerResult.targetId = a.token.targetId
  parameters : dictEq F a.brokerResult.parameters a.token.permittedParameters = true
  disposition : a.brokerResult.attempted = true ∧ a.brokerResult.accepted = true ∧
    a.brokerResult.reportedSuccess = true

/-- The permitted command is the token's. -/
structure CommandBound (F : Type) [PyFloat F] (a : VerificationArgs) (command : Command) :
    Prop where
  normalized : normalizeCommand a.permittedCommand = some command
  action : command.type = a.token.actionType
  target : command.target = a.token.targetId
  parameters : dictEq F command.parameters a.token.permittedParameters = true

/-- The digests of the states before and after. -/
structure StatesBound (rt : Runtime) (a : VerificationArgs) (observed : TargetState) : Prop where
  authorized : a.token.targetStateSha256 = a.stateBefore.sha256 rt
  before : a.brokerResult.stateBeforeSha256 = a.stateBefore.sha256 rt
  after : a.brokerResult.stateAfterSha256 = observed.sha256 rt

/-- The state after an isolation by this attempt. -/
def VerificationArgs.isolated (F : Type) [PyFloat F] (a : VerificationArgs) (preserve : Json)
    (expiry : String) : TargetState :=
  { a.stateBefore with
    networkState := .isolated
    managementChannel := truth F preserve
    isolationExpiresAt := some expiry
    lastActionId := some a.brokerResult.attemptId }

theorem VerificationArgs.commandReasons_eq_nil {a : VerificationArgs}
    (h : a.commandReasons F = []) : ∃ command, CommandBound F a command := by
  unfold VerificationArgs.commandReasons at h
  cases hcommand : normalizeCommand a.permittedCommand with
  | none => simp [hcommand] at h
  | some command =>
    simp only [hcommand, List.append_eq_nil_iff, reasonIf_eq_nil, not_not,
      Bool.not_eq_false] at h
    exact ⟨command, hcommand, h.1.1, h.1.2, h.2⟩

theorem VerificationArgs.timeReasons_eq_nil {a : VerificationArgs} (h : a.timeReasons lib = []) :
    ∃ executedAt issued expires, a.instants lib = some (executedAt, issued, expires) ∧
      issued ≤ executedAt ∧ executedAt < expires := by
  unfold VerificationArgs.timeReasons at h
  cases hinstants : a.instants lib with
  | none => simp [hinstants] at h
  | some t =>
    obtain ⟨executedAt, issued, expires⟩ := t
    simp only [hinstants, reasonIf_eq_nil, not_not] at h
    exact ⟨executedAt, issued, expires, rfl, h.1, h.2⟩

/-- Without an unexpected field the three fields that no isolation touches are unchanged. -/
theorem VerificationArgs.unchanged {a : VerificationArgs} {observed : TargetState}
    (h : a.unexpectedFields F observed = []) :
    observed.targetId = a.stateBefore.targetId ∧ observed.targetType = a.stateBefore.targetType ∧
      observed.serviceHealth = a.stateBefore.serviceHealth := by
  have hunchanged : ∀ key ∈ a.stateBefore.toDict.map Prod.fst, key ∉ ALLOWED_CHANGES →
      jsonEq F (a.stateBefore.toDict.get key) (observed.toDict.get key) = true := by
    intro key hkey hallowed
    apply jsonEq_of_notMem F hkey
    intro hmem
    have hin : key ∈ a.unexpectedFields F observed :=
      List.mem_filter.mpr ⟨hmem, by simpa using hallowed⟩
    rw [h] at hin
    exact List.not_mem_nil hin
  have hid := hunchanged "target_id" (by simp [TargetState.toDict]) (by decide)
  have htype := hunchanged "target_type" (by simp [TargetState.toDict]) (by decide)
  have hhealth := hunchanged "service_health" (by simp [TargetState.toDict]) (by decide)
  simp only [toDict_get_targetId, toDict_get_targetType, toDict_get_serviceHealth, jsonEq_str,
    decide_eq_true_eq, serviceHealth_text_inj] at hid htype hhealth
  exact ⟨hid.symm, htype.symm, hhealth.symm⟩

/-- A duration that the parameters permit, and the instant at which it ends. -/
theorem VerificationArgs.expiryText_eq_some {a : VerificationArgs} {executedAt : Int}
    {expiry : String} (h : a.expiryText lib executedAt = some expiry) :
    ∃ seconds, (a.token.permittedParameters.lookup "duration_seconds").bind lib.int = some seconds ∧
      expiry = rt.isoformat (Runtime.truncate (executedAt + seconds * 1000000)) := by
  simp only [VerificationArgs.expiryText, Option.bind_eq_bind, Option.bind_eq_some_iff] at h
  obtain ⟨duration, hduration, seconds, hseconds, ends, hends, hexpiry⟩ := h
  refine ⟨seconds, by rw [hduration]; exact hseconds, ?_⟩
  unfold Runtime.addSeconds at hends
  split_ifs at hends
  cases hends
  exact (Option.some.inj hexpiry).symm

/-- `VERIFIED` certifies the bindings, the interval, the origin and one exact state. -/
theorem verified_spec {verificationId : String} {recorded : Option String} {a : VerificationArgs}
    {observation : Option TargetState} {v : PostActionVerification}
    (h : verifyExecution lib F verificationId recorded a observation = some v)
    (hstatus : v.status = .verified) :
    ∃ observed, observation = some observed ∧ Bound F a ∧ StatesBound rt a observed ∧
      (∃ command, CommandBound F a command) ∧ a.Originated rt recorded ∧
      ∃ executedAt issued expires, a.instants lib = some (executedAt, issued, expires) ∧
        issued ≤ executedAt ∧ executedAt < expires ∧
        ∃ seconds preserve,
          (a.token.permittedParameters.lookup "duration_seconds").bind lib.int = some seconds ∧
          a.token.permittedParameters.lookup "preserve_management" = some preserve ∧
          observed = a.isolated F preserve
            (rt.isoformat (Runtime.truncate (executedAt + seconds * 1000000))) := by
  cases observation with
  | none =>
    cases h
    exact absurd hstatus (by simp [VerificationArgs.unavailable])
  | some observed =>
    simp only [verifyExecution, Option.bind_eq_bind, Option.bind_eq_some_iff] at h
    obtain ⟨expiry, hexpiry, verdict, hverdict, hv⟩ := h
    cases hv
    have hverified : verdict.status = .verified := hstatus
    unfold VerificationArgs.verdict at hverdict
    dsimp only at hverdict
    split_ifs at hverdict with hreasons haction
    · cases hverdict
      exact absurd hverified (refusedVerdict_spec _ _).1
    · cases hverdict
      exact absurd hverified (refusedVerdict_spec _ _).1
    · rw [not_not] at hreasons haction
      obtain ⟨preserve, hpreserve, rfl⟩ := Option.map_eq_some_iff.mp hverdict
      obtain ⟨hunexpected, hchecks, hreported⟩ := transitionVerdict_verified_iff.mp hverified
      -- no binding reason was collected
      simp only [VerificationArgs.bindingReasons, VerificationArgs.recordReasons,
        List.append_eq_nil_iff, reasonIf_eq_nil, not_not, Bool.not_eq_false] at hreasons
      obtain ⟨⟨⟨⟨⟨⟨⟨⟨⟨⟨⟨⟨⟨⟨⟨⟨hrequest, hdecision⟩, htoken⟩, hbrokerRequest⟩, hbrokerDecision⟩,
        hcommand⟩, hbrokerAction⟩, htarget⟩, hparameters⟩, htime⟩, hdisposition⟩, hattempt⟩,
        hauthorized⟩, hbefore⟩, hafter⟩, hlast⟩, horigin⟩ := hreasons
      obtain ⟨executedAt, issued, expires, hinstants, hissued, hexpires⟩ :=
        VerificationArgs.timeReasons_eq_nil htime
      -- the expected expiry is the one of the execution time
      simp only [VerificationArgs.expectedExpiry, hinstants] at hexpiry
      obtain ⟨text, htext, rfl⟩ := Option.map_eq_some_iff.mp hexpiry
      obtain ⟨seconds, hseconds, rfl⟩ := VerificationArgs.expiryText_eq_some htext
      obtain ⟨hid, htype, hhealth⟩ := VerificationArgs.unchanged hunexpected
      simp only [VerificationArgs.transitionChecks, List.mem_cons, List.not_mem_nil, or_false,
        forall_eq_or_imp, forall_eq, beq_iff_eq] at hchecks
      obtain ⟨hnetwork, hmanagement, -, hexpires', -⟩ := hchecks
      refine ⟨observed, rfl, ⟨⟨hrequest, hbrokerRequest⟩, ⟨hdecision, hbrokerDecision⟩, htoken,
        hattempt, ⟨haction, hbrokerAction⟩, htarget, hparameters, ⟨hdisposition.1, hdisposition.2,
        hreported⟩⟩, ⟨hauthorized.symm, hbefore, hafter⟩,
        VerificationArgs.commandReasons_eq_nil hcommand, horigin, executedAt, issued, expires,
        hinstants, hissued, hexpires, seconds, preserve, hseconds, hpreserve, ?_⟩
      obtain ⟨_, _, _, _, _, _, _⟩ := observed
      simp only at hid htype hhealth hnetwork hmanagement hexpires' hlast
      subst hid htype hhealth hnetwork hmanagement hexpires' hlast
      rfl

/-- An isolation changes no field that it may not change. -/
theorem VerificationArgs.unexpectedFields_isolated (a : VerificationArgs) (preserve : Json)
    (expiry : String) : a.unexpectedFields F (a.isolated F preserve expiry) = [] := by
  unfold VerificationArgs.unexpectedFields
  rw [List.filter_eq_nil_iff]
  intro key hkey
  rw [changedFields, List.mem_mergeSort, List.mem_filter, List.mem_eraseDups] at hkey
  obtain ⟨hmem, hne⟩ := hkey
  have hname : key ∈ a.stateBefore.toDict.map Prod.fst := by
    rcases List.mem_append.mp hmem with h | h
    · exact h
    · simpa [VerificationArgs.isolated, TargetState.toDict] using h
  simp only [TargetState.toDict, List.map_cons, List.map_nil, List.mem_cons, List.not_mem_nil,
    or_false] at hname
  -- the three other fields are equal, so they are not among the changed ones
  rcases hname with rfl | rfl | rfl | rfl | rfl | rfl | rfl
  · simp [VerificationArgs.isolated] at hne
  · simp [VerificationArgs.isolated] at hne
  · simp [ALLOWED_CHANGES]
  · simp [ALLOWED_CHANGES]
  · simp [ALLOWED_CHANGES]
  · simp [VerificationArgs.isolated] at hne
  · simp [ALLOWED_CHANGES]

/-- Conversely, a bound attempt whose exact effect is observed is verified. -/
theorem verified_of_isolated {verificationId : String} {recorded : Option String}
    {a : VerificationArgs} {command : Command} {executedAt issued expires seconds : Int}
    {preserve : Json} (hbound : Bound F a) (hcommand : CommandBound F a command)
    (horigin : a.Originated rt recorded)
    (hinstants : a.instants lib = some (executedAt, issued, expires))
    (hissued : issued ≤ executedAt) (hexpires : executedAt < expires)
    (hseconds : (a.token.permittedParameters.lookup "duration_seconds").bind lib.int = some seconds)
    (hdatetime : rt.IsDatetime (executedAt + seconds * 1000000))
    (hpreserve : a.token.permittedParameters.lookup "preserve_management" = some preserve)
    (hstates : StatesBound rt a (a.isolated F preserve
      (rt.isoformat (Runtime.truncate (executedAt + seconds * 1000000))))) :
    ∃ v, verifyExecution lib F verificationId recorded a (some (a.isolated F preserve
        (rt.isoformat (Runtime.truncate (executedAt + seconds * 1000000))))) = some v ∧
      v.status = .verified := by
  have hexpiry : a.expectedExpiry lib =
      some (some (rt.isoformat (Runtime.truncate (executedAt + seconds * 1000000)))) := by
    obtain ⟨duration, hduration, hint⟩ := Option.bind_eq_some_iff.mp hseconds
    simp [VerificationArgs.expectedExpiry, hinstants, VerificationArgs.expiryText, hduration, hint,
      Runtime.addSeconds, hdatetime]
  generalize rt.isoformat (Runtime.truncate (executedAt + seconds * 1000000)) = expiry
    at hexpiry hstates ⊢
  have hreasons : a.bindingReasons lib F recorded (a.isolated F preserve expiry) = [] := by
    have hlast : (a.isolated F preserve expiry).lastActionId = some a.brokerResult.attemptId := rfl
    simp [VerificationArgs.bindingReasons, VerificationArgs.recordReasons,
      VerificationArgs.commandReasons, VerificationArgs.timeReasons, hinstants,
      hcommand.normalized, hcommand.action, hcommand.target, hcommand.parameters, hissued, hexpires,
      hbound.request.1, hbound.request.2, hbound.decision.1, hbound.decision.2, hbound.token,
      hbound.attempt, hbound.action.2, hbound.target, hbound.parameters, hbound.disposition.1,
      hbound.disposition.2.1, hstates.authorized, hstates.before, hstates.after, hlast, horigin]
  have hchecks : ∀ c ∈ a.transitionChecks F (a.isolated F preserve expiry) preserve (some expiry),
      c = true := by
    simp [VerificationArgs.transitionChecks, VerificationArgs.isolated]
  refine ⟨_, by
    simp only [verifyExecution, hexpiry, VerificationArgs.verdict, hreasons, ne_eq,
      not_true_eq_false, if_false, hbound.action.1, hpreserve, Option.map_some,
      Option.bind_eq_bind, Option.bind_some]
    rfl, ?_⟩
  exact transitionVerdict_verified_iff.mpr
    ⟨a.unexpectedFields_isolated preserve expiry, hchecks, hbound.disposition.2.2⟩

end Verified

/-! ## §4 Runs of the broker -/

section Runs

variable {rt : Runtime} {lib : Conversions rt} {cfg : BoundaryConfig} {F : Type} [PyFloat F]

/-- The execution time that the broker writes is a whole second. -/
def Attempt.WholeSecond (rt : Runtime) (made : Attempt) : Prop :=
  ∃ t, rt.IsDatetime t ∧ Runtime.truncate t = t ∧ made.result.executedAt = rt.isoformat t

/-- The boundaries that calls of the broker lead to, with the attempts whose digests were
recorded. Another process may write to the adapter store between the calls. -/
inductive Reaches (lib : Conversions rt) (cfg : BoundaryConfig) (F : Type) [PyFloat F] :
    Boundary → List Attempt → Prop where
  | build (store : Option StageA.AdapterStore) : Reaches lib cfg F (Boundary.build cfg store) []
  | execute {b : Boundary} {attempts : List Attempt} (a : ExecuteArgs) (answers : BrokerAnswers rt) :
      Reaches lib cfg F b attempts →
      Reaches lib cfg F (authorizeAndExecute lib cfg F a answers b).boundary
        (attempts ++ (authorizeAndExecute lib cfg F a answers b).recorded.toList)
  | share {b : Boundary} {attempts : List Attempt} (store : StageA.AdapterStore) :
      Reaches lib cfg F b attempts → b.adapterStore.isSome = true →
      Reaches lib cfg F { b with adapterStore := some store } attempts

/-- Every recorded digest is the digest of an attempt at a whole second. -/
def Recorded (rt : Runtime) (b : Boundary) (attempts : List Attempt) : Prop :=
  ∀ attemptId digest, (attemptId, some digest) ∈ b.attemptBindingDigests →
    ∃ made ∈ attempts, made.result.attemptId = attemptId ∧
      digest = rt.sha256Json made.binding ∧ made.WholeSecond rt

@[simp] theorem setState_attemptBindingDigests (b : Boundary) (targetId : String)
    (state : TargetState) :
    (b.setState targetId state).attemptBindingDigests = b.attemptBindingDigests := rfl

theorem mem_setAttempt {b : Boundary} {attemptId : String} {digest : Option String}
    {entry : String × Option String}
    (h : entry ∈ (b.setAttempt attemptId digest).attemptBindingDigests) :
    entry = (attemptId, digest) ∨ entry ∈ b.attemptBindingDigests := by
  rcases List.mem_cons.mp h with h | h
  · exact .inl h
  · exact .inr (List.mem_filter.mp h).1

theorem mem_popAttempt {b : Boundary} {attemptId : String} {entry : String × Option String}
    (h : entry ∈ (b.popAttempt attemptId).attemptBindingDigests) :
    entry ∈ b.attemptBindingDigests :=
  (List.mem_filter.mp h).1

variable (lib cfg F) in
/-- The in-memory mutation records no digest. -/
theorem mutate_attemptBindingDigests (token : AuthorizationToken) (command : Command)
    (attemptId : String) (attemptedAt : Int) (b : Boundary) :
    (mutate lib cfg F token command attemptId attemptedAt b).2.attemptBindingDigests =
      b.attemptBindingDigests := by
  unfold mutate
  -- every branch returns the boundary itself or one with another state
  repeat' split
  all_goals rfl

variable (lib cfg F) in
theorem executeInProcess_attemptBindingDigests (token : AuthorizationToken) (command : Command)
    (attemptId : String) (attemptedAt : Int) (b : Boundary) :
    (executeInProcess lib cfg F token command attemptId attemptedAt b).2.attemptBindingDigests =
      b.attemptBindingDigests := by
  have hmutate := mutate_attemptBindingDigests lib cfg F token command attemptId attemptedAt b
  unfold executeInProcess
  generalize mutate lib cfg F token command attemptId attemptedAt b = outcome at hmutate ⊢
  obtain ⟨report, b'⟩ := outcome
  rcases report with _ | ⟨message | report⟩
  · exact hmutate
  · dsimp only
    cases b'.observeState rt cfg command.target <;> exact hmutate
  · exact hmutate

variable (cfg) in
theorem executeDurably_attemptBindingDigests (binding : StageA.Binding)
    (answers : BrokerAnswers rt) (attemptedAt : Int) (store : StageA.AdapterStore) (b : Boundary) :
    (executeDurably cfg binding answers attemptedAt store b).2.attemptBindingDigests =
      b.attemptBindingDigests := by
  unfold executeDurably
  split
  · rfl
  · rfl
  · dsimp only
    split <;> rfl

/-- What a call adds to the recorded digests: at most the one of its attempt. -/
def RecordsOnly (rt : Runtime) (b : Boundary) (outcome : BrokerOutcome) : Prop :=
  ∀ attemptId digest, (attemptId, some digest) ∈ outcome.boundary.attemptBindingDigests →
    (attemptId, some digest) ∈ b.attemptBindingDigests ∨
      ∃ made, outcome.recorded = some made ∧ made.result.attemptId = attemptId ∧
        digest = rt.sha256Json made.binding ∧ made.WholeSecond rt

theorem recordsOnly_of_subset {b : Boundary} {outcome : BrokerOutcome}
    (h : ∀ attemptId digest, (attemptId, some digest) ∈ outcome.boundary.attemptBindingDigests →
      (attemptId, some digest) ∈ b.attemptBindingDigests) : RecordsOnly rt b outcome :=
  fun attemptId digest hmem => .inl (h attemptId digest hmem)

/-- A reserved attempt has no digest. -/
theorem mem_reserved {b : Boundary} {reserved attemptId digest : String}
    (h : (attemptId, some digest) ∈ (b.setAttempt reserved none).attemptBindingDigests) :
    (attemptId, some digest) ∈ b.attemptBindingDigests := by
  rcases mem_setAttempt h with h | h
  · cases h
  · exact h

theorem attempt_recordsOnly (a : ExecuteArgs) (answers : BrokerAnswers rt)
    (token : AuthorizationToken) (command : Command) {attemptedAt : Int}
    (hdatetime : rt.IsDatetime attemptedAt) (hsecond : Runtime.truncate attemptedAt = attemptedAt)
    (stateBefore : TargetState) (b : Boundary) :
    RecordsOnly rt b (attempt lib cfg F a answers token command attemptedAt stateBefore b) := by
  intro attemptId digest hmem
  unfold attempt at hmem ⊢
  cases hstore : b.adapterStore with
  | none =>
    have hframe := executeInProcess_attemptBindingDigests lib cfg F token command
      answers.attemptId attemptedAt b
    simp only [hstore] at hmem ⊢
    generalize executeInProcess lib cfg F token command answers.attemptId attemptedAt b = outcome
      at hframe hmem ⊢
    obtain ⟨_ | report, b'⟩ := outcome
    · exact .inl (hframe ▸ hmem)
    · rcases mem_setAttempt hmem with h | h
      · cases h
        exact .inr ⟨_, rfl, rfl, rfl, attemptedAt, hdatetime, hsecond, rfl⟩
      · exact .inl (hframe ▸ h)
  | some store =>
    have hframe := executeDurably_attemptBindingDigests cfg (durableBinding rt cfg a token command
      (a.requestSha256.getD "") (a.decisionAuthorizationSha256.getD "") stateBefore) answers
      attemptedAt store b
    simp only [hstore] at hmem ⊢
    generalize executeDurably cfg _ answers attemptedAt store b = outcome at hframe hmem ⊢
    obtain ⟨_ | report, b'⟩ := outcome
    · exact .inl (hframe ▸ hmem)
    · rcases mem_setAttempt hmem with h | h
      · cases h
        exact .inr ⟨_, rfl, rfl, rfl, attemptedAt, hdatetime, hsecond, rfl⟩
      · exact .inl (hframe ▸ h)

/-- One call of the broker records at most one digest, of an attempt at a whole second. -/
theorem authorizeAndExecute_recordsOnly (a : ExecuteArgs) (answers : BrokerAnswers rt)
    (b : Boundary) : RecordsOnly rt b (authorizeAndExecute lib cfg F a answers b) := by
  unfold authorizeAndExecute
  cases a.token with
  | none => exact recordsOnly_of_subset fun _ _ h => h
  | some token =>
    cases normalizeCommand a.command with
    | none => exact recordsOnly_of_subset fun _ _ h => h
    | some command =>
      dsimp only
      cases b.observeState rt cfg command.target with
      | error reason => exact recordsOnly_of_subset fun _ _ h => h
      | ok stateBefore =>
        dsimp only
        by_cases hid : answers.attemptId = ""
        · rw [if_pos hid]
          exact recordsOnly_of_subset fun _ _ h => h
        by_cases hused : answers.attemptId ∈ b.attemptBindingDigests.map Prod.fst
        · rw [if_neg hid, if_pos hused]
          exact recordsOnly_of_subset fun _ _ h => h
        rw [if_neg hid, if_neg hused]
        -- the identifier is reserved from here on
        cases answers.now with
        | none => exact recordsOnly_of_subset fun _ _ h => mem_reserved (mem_popAttempt h)
        | some now =>
          dsimp only
          by_cases hbinding : b.adapterStore.isSome ∧ ¬ (a.requestSha256.isSome ∧
              a.decisionAuthorizationSha256.isSome ∧ a.recoverySummaryGiven)
          · rw [if_pos hbinding]
            exact recordsOnly_of_subset fun _ _ h => mem_reserved h
          rw [if_neg hbinding]
          cases answers.consumption with
          | error failure =>
            cases failure with
            | authorization reason =>
              exact recordsOnly_of_subset fun _ _ h => mem_reserved (mem_popAttempt h)
            | other => exact recordsOnly_of_subset fun _ _ h => mem_reserved h
          | ok consumed =>
            -- the gate consumed the token
            intro attemptId digest hmem
            rcases attempt_recordsOnly a answers token command now.2.truncate
              (Runtime.truncate_truncate now.1) _ _ attemptId digest hmem with h | h
            · exact .inl (mem_reserved h)
            · exact .inr h

/-- The step lemma: a call keeps the recorded digests digests of attempts. -/
theorem Recorded.step {b : Boundary} {attempts : List Attempt} {outcome : BrokerOutcome}
    (h : Recorded rt b attempts) (hstep : RecordsOnly rt b outcome) :
    Recorded rt outcome.boundary (attempts ++ outcome.recorded.toList) := by
  intro attemptId digest hmem
  rcases hstep attemptId digest hmem with hold | ⟨made, hmade, hnew⟩
  · obtain ⟨made, hmade, hspec⟩ := h attemptId digest hold
    exact ⟨made, List.mem_append_left _ hmade, hspec⟩
  · exact ⟨made, by simp [hmade], hnew⟩

/-- The run lemma. -/
theorem Reaches.recorded {b : Boundary} {attempts : List Attempt}
    (h : Reaches lib cfg F b attempts) : Recorded rt b attempts := by
  induction h with
  | build store =>
    intro attemptId digest hmem
    exact absurd hmem List.not_mem_nil
  | execute a answers _ ih => exact ih.step (authorizeAndExecute_recordsOnly a answers _)
  | share store _ _ ih => exact ih

theorem Recorded.attemptDigest {b : Boundary} {attempts : List Attempt} {attemptId digest : String}
    (h : Recorded rt b attempts) (hdigest : b.attemptDigest attemptId = some digest) :
    ∃ made ∈ attempts, made.result.attemptId = attemptId ∧
      digest = rt.sha256Json made.binding ∧ made.WholeSecond rt := by
  unfold Boundary.attemptDigest at hdigest
  cases hlookup : b.attemptBindingDigests.lookup attemptId with
  | none => simp [hlookup] at hdigest
  | some entry =>
    rw [hlookup] at hdigest
    obtain ⟨l₁, l₂, hentries, -⟩ := List.lookup_eq_some_iff.mp hlookup
    apply h attemptId digest
    have hentry : entry = some digest := by simpa using hdigest
    rw [hentries, hentry]
    simp

end Runs

/-! ## §5 The certified effect -/

section Soundness

variable {rt : Runtime} {lib : Conversions rt} {cfg : BoundaryConfig} {F : Type} [PyFloat F]

/-- What is presented to the verifier as an attempt. -/
def VerificationArgs.presented (a : VerificationArgs) (command : Command) : Attempt :=
  ⟨a.token, command, a.brokerResult⟩

/-- `sha256_json` tells the recorded attempts from the presented one, where they differ by
more than the order of members. -/
def DigestsTell (rt : Runtime) (attempts : List Attempt) (a : VerificationArgs) : Prop :=
  ∀ made ∈ attempts, ∀ command, normalizeCommand a.permittedCommand = some command →
    rt.sha256Json made.binding = rt.sha256Json (a.presented command).binding →
      made.binding.sorted = (a.presented command).binding.sorted

/-- The attempt that is presented is one that the broker made. -/
def MadeByBroker (attempts : List Attempt) (a : VerificationArgs) (command : Command) : Prop :=
  ∃ made ∈ attempts, made.result.attemptId = a.brokerResult.attemptId ∧
    made.binding.sorted = (a.presented command).binding.sorted

/-- Attempts with one binding have one execution time. -/
theorem executedAt_eq_of_sorted {made presented : Attempt}
    (h : made.binding.sorted = presented.binding.sorted) :
    made.result.executedAt = presented.result.executedAt := by
  unfold Attempt.binding at h
  have hmembers := Json.values_eq_of_sorted (by rfl) (by simp) h
  simp only [List.map_cons, List.map_nil, List.cons.injEq, and_true] at hmembers
  have hresult := Json.values_eq_of_sorted (by rfl) (by simp [BrokerResult.toDict])
    hmembers.2.2
  simp only [BrokerResult.toDict, List.map_cons, List.map_nil, Json.sorted, List.cons.injEq,
    Json.str.injEq] at hresult
  exact hresult.2.2.2.2.2.2.2.1

/-- An expiry that is counted from a whole second is a whole second. -/
theorem truncate_add_seconds {t : Int} (h : Runtime.truncate t = t) (seconds : Int) :
    Runtime.truncate (t + seconds * 1000000) = t + seconds * 1000000 := by
  unfold Runtime.truncate at h ⊢
  omega

/-- Soundness of `VERIFIED`: the bindings match, the broker made the attempt, it executed
inside the token's validity, and the observed state is the state before with exactly the
isolation that the permitted parameters say. -/
theorem verified_sound {b : Boundary} {attempts : List Attempt} {verificationId : String}
    {a : VerificationArgs} {observation : Option TargetState} {v : PostActionVerification}
    (hrun : Reaches lib cfg F b attempts) (hdigest : DigestsTell rt attempts a)
    (hverify : verifyExecution lib F verificationId (b.attemptDigest a.brokerResult.attemptId) a
      observation = some v)
    (hstatus : v.status = .verified) :
    ∃ observed, observation = some observed ∧ Bound F a ∧ StatesBound rt a observed ∧
      (∃ command, CommandBound F a command ∧ MadeByBroker attempts a command) ∧
      ∃ executedAt issued expires, a.instants lib = some (executedAt, issued, expires) ∧
        issued ≤ executedAt ∧ executedAt < expires ∧
        ∃ seconds preserve,
          (a.token.permittedParameters.lookup "duration_seconds").bind lib.int = some seconds ∧
          a.token.permittedParameters.lookup "preserve_management" = some preserve ∧
          observed = a.isolated F preserve (rt.isoformat (executedAt + seconds * 1000000)) := by
  obtain ⟨observed, hobserved, hbound, hstates, ⟨command, hcommand⟩, horigin, executedAt, issued,
    expires, hinstants, hissued, hexpires, seconds, preserve, hseconds, hpreserve, heffect⟩ :=
    verified_spec hverify hstatus
  -- the digest under the identifier is the one of a recorded attempt
  obtain ⟨digest, hrecorded⟩ := Option.isSome_iff_exists.mp horigin.1
  obtain ⟨made, hmade, hattemptId, hmadeDigest, t, hdatetime, hsecond, hexecuted⟩ :=
    hrun.recorded.attemptDigest hrecorded
  have hpresented : rt.sha256Json made.binding = rt.sha256Json (a.presented command).binding := by
    have horigin' := horigin.2
    rw [hrecorded, VerificationArgs.attemptDigest, hcommand.normalized, hmadeDigest] at horigin'
    exact Option.some.inj horigin'
  have hsorted := hdigest made hmade command hcommand.normalized hpresented
  -- so the execution time is the whole second that the broker wrote
  have htext : a.brokerResult.executedAt = rt.isoformat t := by
    rw [← hexecuted]
    exact (executedAt_eq_of_sorted hsorted).symm
  have hinstant : lib.instant a.brokerResult.executedAt = some t := by
    rw [htext]
    exact lib.instant_of_offset _ _ hdatetime.2.2
  have hexecutedAt : executedAt = t := by
    simp only [VerificationArgs.instants, hinstant, Option.bind_eq_bind, Option.bind_some,
      Option.bind_eq_some_iff] at hinstants
    obtain ⟨_, _, _, _, hpair⟩ := hinstants
    simpa using (congrArg Prod.fst (Option.some.inj hpair)).symm
  subst hexecutedAt
  rw [truncate_add_seconds hsecond] at heffect
  exact ⟨observed, hobserved, hbound, hstates, ⟨command, hcommand, made, hmade, hattemptId,
    hsorted⟩, executedAt, issued, expires, hinstants, hissued, hexpires, seconds, preserve,
    hseconds, hpreserve, heffect⟩

end Soundness

/-! ## §6 An isolation in the process -/

def exampleConversions : Conversions newYearRuntime where
  instant := newYearRuntime.fromisoformat
  intOfText _ := none
  intOfFloat _ := none
  instant_of_offset _ _ h := h

def exampleBoundaryConfig : BoundaryConfig := ⟨⟨[("device-1", "workstation")], []⟩, "domain-1"⟩

def exampleParameters : Dict := [("duration_seconds", .int 1), ("preserve_management", .bool true)]

def exampleCommand : Command := ⟨NETWORK_ISOLATE_ACTION, "device-1", exampleParameters⟩

def exampleToken : AuthorizationToken where
  tokenId := "token-1"
  issuerInstanceId := "issuer-1"
  requestId := "request-1"
  decisionId := "decision-1"
  agentId := "agent-1"
  actionType := NETWORK_ISOLATE_ACTION
  targetId := "device-1"
  permittedParameters := exampleParameters
  issuedAt := "2026-01-01T00:00:00+00:00"
  expiresAt := "2026-01-01T00:00:01+00:00"
  policyId := "policy-1"
  policyVersion := "1"
  policySha256 := zeros
  decisionContextSha256 := zeros
  targetStateSha256 := zeros
  nonce := "nonce-1"
  signature := zeros

def exampleExecuteArgs : ExecuteArgs where
  token := some exampleToken
  command := exampleCommand.toJson
  requestId := "request-1"
  decisionId := "decision-1"
  agentId := "agent-1"
  policyId := "policy-1"
  policyVersion := "1"
  policySha256 := zeros
  decisionContextSha256 := zeros
  requestSha256 := none
  decisionAuthorizationSha256 := none
  recoverySummaryGiven := false

def exampleAnswers : BrokerAnswers newYearRuntime where
  attemptId := "attempt-1"
  receiptId := "receipt-1"
  now := some ⟨1767225600000000, by decide⟩
  consumption := .ok ()
  receiptRecorded := true

/-- The state before the isolation. -/
def exampleState : TargetState := .initial "device-1" "workstation"

/-- The result that the broker returns. -/
def exampleResult : BrokerResult :=
  brokerResult newYearRuntime exampleToken exampleCommand "attempt-1" 1767225600000000
    exampleState ⟨true, "Synthetic network isolation applied to the in-memory target.",
      exampleState⟩

def exampleVerification : VerificationArgs where
  token := exampleToken
  permittedCommand := exampleCommand.toJson
  requestId := "request-1"
  decisionId := "decision-1"
  brokerResult := exampleResult
  stateBefore := exampleState

/-- The boundary after the isolation. -/
def exampleOutcome : BrokerOutcome :=
  authorizeAndExecute exampleConversions exampleBoundaryConfig ℚ exampleExecuteArgs exampleAnswers
    (Boundary.build exampleBoundaryConfig none)

theorem exampleOutcome_recorded :
    exampleOutcome.recorded = some (exampleVerification.presented exampleCommand) := by
  rfl

theorem exampleOutcome_attemptDigest :
    exampleOutcome.boundary.attemptDigest "attempt-1" = exampleVerification.attemptDigest
      newYearRuntime := by
  rfl

theorem exampleOutcome_reaches :
    Reaches exampleConversions exampleBoundaryConfig ℚ exampleOutcome.boundary
      [exampleVerification.presented exampleCommand] := by
  have hbuilt : Reaches exampleConversions exampleBoundaryConfig ℚ
      (Boundary.build exampleBoundaryConfig none) [] := .build none
  have hrun := hbuilt.execute exampleExecuteArgs exampleAnswers
  have hrecorded := exampleOutcome_recorded
  unfold exampleOutcome at hrecorded
  rw [hrecorded] at hrun
  exact hrun

theorem bound_exampleVerification : Bound ℚ exampleVerification where
  request := ⟨rfl, rfl⟩
  decision := ⟨rfl, rfl⟩
  token := rfl
  attempt := by decide
  action := ⟨rfl, rfl⟩
  target := rfl
  parameters := by decide
  disposition := ⟨rfl, rfl, rfl⟩

theorem commandBound_exampleCommand : CommandBound ℚ exampleVerification exampleCommand where
  normalized := by rfl
  action := rfl
  target := rfl
  parameters := by decide

/-- What is presented is what the broker recorded. -/
theorem digestsTell_example :
    DigestsTell newYearRuntime [exampleVerification.presented exampleCommand]
      exampleVerification := by
  intro made hmade command hcommand _
  rw [List.mem_singleton.mp hmade]
  rw [commandBound_exampleCommand.normalized] at hcommand
  rw [Option.some.inj hcommand]

/-- The isolation in the process is verified, and so bound. -/
theorem verified_sound_isolation :
    ∃ v, verifyExecution exampleConversions ℚ "verify-1"
        (exampleOutcome.boundary.attemptDigest exampleVerification.brokerResult.attemptId)
        exampleVerification (some (exampleVerification.isolated ℚ (.bool true)
          "2026-01-01T00:00:01+00:00")) = some v ∧
      v.status = .verified ∧ Bound ℚ exampleVerification := by
  have hinstants : exampleVerification.instants exampleConversions =
      some (1767225600000000, 1767225600000000, 1767225601000000) := by rfl
  have hseconds : (exampleToken.permittedParameters.lookup "duration_seconds").bind
      exampleConversions.int = some 1 := by rfl
  have horigin : exampleVerification.Originated newYearRuntime
      (exampleOutcome.boundary.attemptDigest exampleVerification.brokerResult.attemptId) :=
    ⟨by rfl, exampleOutcome_attemptDigest⟩
  have hstates : StatesBound newYearRuntime exampleVerification (exampleVerification.isolated ℚ
      (.bool true) "2026-01-01T00:00:01+00:00") := ⟨rfl, rfl, rfl⟩
  obtain ⟨v, hverify, hstatus⟩ := verified_of_isolated bound_exampleVerification
    commandBound_exampleCommand horigin hinstants (by decide) (by decide) hseconds (by decide)
    (by rfl) hstates
  obtain ⟨observed, -, hbound, -⟩ := verified_sound exampleOutcome_reaches digestsTell_example
    hverify hstatus
  exact ⟨v, hverify, hstatus, hbound⟩

end DecisionFirewall.Phase3
