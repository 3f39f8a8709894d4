import DecisionFirewall.Phase3.Effects

/-!
# How an Effect Is Accounted For

The engine between a broker result and the final record: it asks for a verification,
observes the target itself if the verifier raises, closes the path in one other record if
an audit row cannot be appended, and counts the operational effects of what was observed.

- §1 the completion of an attempt
- §2 a change is never verified away
- §3 the final record

An audit failure that leaves the durability of a row open ends the call without a result,
and so without a final record.
-/

namespace DecisionFirewall.Phase3

open StageA (TargetState VerificationStatus)

/-! ## §1 The completion of an attempt -/

/-- The record of an executed path whose append failed. -/
inductive FailedRecord where
  | actionAttempted
  | verificationPerformed
  | finalStateRecorded
  deriving DecidableEq, Repr

def FailedRecord.text : FailedRecord → String
  | .actionAttempted => "ACTION_ATTEMPTED"
  | .verificationPerformed => "VERIFICATION_PERFORMED"
  | .finalStateRecorded => "FINAL_STATE_RECORDED"

/-- What the engine meets after an execution: the state that the target is in, whether the
observations of the verifier and of the engine return it, the append that fails, and the
names of the exceptions. -/
structure Aftermath where
  actual : TargetState
  verifierObserves : Bool
  engineObserves : Bool
  failedRecord : Option FailedRecord
  verificationId : String
  verifierException : String
  appendException : String

/-- What `observe_state` answers the verifier. -/
def Aftermath.observation (w : Aftermath) : Option TargetState :=
  if w.verifierObserves then some w.actual else none

/-- `_deterministic_failure_id(kind, *bindings)`. -/
def deterministicFailureId (rt : Runtime) (kind : String) (bindings : List String) : String :=
  kind ++ "-" ++ String.ofList
    ((rt.sha256Json (.arr ((kind :: bindings).map Json.str))).toList.take 24)

/-- `FINAL_STATE_RECORDED` and the result: the verification, the final state and
`operational_effects`. -/
structure FinalRecord where
  verification : PostActionVerification
  finalState : Dict
  operationalEffects : Nat

section Completion

variable {rt : Runtime} (lib : Conversions rt) (F : Type) [PyFloat F]
  (recorded : Option String) (a : VerificationArgs) (w : Aftermath)

/-- What the engine takes for the state after an exception of the verifier. -/
def observedAfterFailure : Dict :=
  if w.engineObserves then w.actual.toDict
  else [("target_id", .str a.token.targetId), ("state_unavailable", .bool true)]

/-- `state_changed`: a failed observation counts as a change. -/
def stateChanged : Bool :=
  !w.engineObserves || !dictEq F (observedAfterFailure a w) a.stateBefore.toDict

/-- The verification that the engine writes after an exception of the verifier. -/
def fallbackVerification (rt : Runtime) (reasons : List String) : PostActionVerification where
  verificationId := deterministicFailureId rt "verify" [a.token.tokenId, a.brokerResult.attemptId]
  requestId := a.token.requestId
  decisionId := a.token.decisionId
  attemptId := a.brokerResult.attemptId
  tokenId := a.token.tokenId
  actionType := a.token.actionType
  targetId := a.token.targetId
  parametersSha256 := rt.sha256Json (.obj a.token.permittedParameters)
  status := if stateChanged F a w then .rollbackRequired else .failed
  expectedState := [("action_type", .str a.token.actionType), ("target_id", .str a.token.targetId),
    ("last_action_id", .str a.brokerResult.attemptId)]
  observedState := observedAfterFailure a w
  changedFields := changedFields F a.stateBefore.toDict (observedAfterFailure a w)
  unexpectedFields := []
  rollbackRequired := stateChanged F a w
  reasonCodes := reasons

def observationReasons : List String :=
  if w.engineObserves then [] else ["POST_ACTION_OBSERVATION_FAILED"]

/-- The verification on the ordinary path. -/
def performVerification : PostActionVerification :=
  (verifyExecution lib F w.verificationId recorded a w.observation).getD
    (fallbackVerification F a w rt
      (["VERIFIER_INTERNAL_FAILURE", w.verifierException] ++ observationReasons w ++
        if stateChanged F a w then ["ROLLBACK_REQUIRED"] else []))

/-- The verification after the attempt itself could not be recorded. -/
def verifyAfterAppendFailure : PostActionVerification :=
  (verifyExecution lib F w.verificationId recorded a w.observation).getD
    (fallbackVerification F a w rt ("POST_EFFECT_VERIFIER_FAILURE" :: observationReasons w))

/-- `int(final_state != state_before)`. -/
def operationalEffects (finalState : Dict) : Nat :=
  if dictEq F finalState a.stateBefore.toDict then 0 else 1

/-- The record that closes the ordinary path. -/
def ordinaryRecord (v : PostActionVerification) : FinalRecord :=
  ⟨v, v.observedState, operationalEffects F a v.observedState⟩

/-- `_close_post_effect_accounting_failure(...)`: any observed change asks for a rollback. -/
def closePostEffectAccountingFailure (failed : FailedRecord) (v : PostActionVerification) :
    FinalRecord :=
  let effects := operationalEffects F a v.observedState
  ⟨{ v with
      status := if effects ≠ 0 then .rollbackRequired else .failed
      rollbackRequired := decide (effects ≠ 0)
      reasonCodes := (v.reasonCodes ++ ["POST_EFFECT_ACCOUNTING_FAILURE", failed.text,
        w.appendException] ++ if effects ≠ 0 then ["ROLLBACK_REQUIRED"] else []).eraseDups },
    v.observedState, effects⟩

/-- The final record of an executed path. -/
def finalRecord : FinalRecord :=
  match w.failedRecord with
  | none => ordinaryRecord F a (performVerification lib F recorded a w)
  | some .actionAttempted =>
    closePostEffectAccountingFailure F a w .actionAttempted
      (verifyAfterAppendFailure lib F recorded a w)
  | some failed =>
    closePostEffectAccountingFailure F a w failed (performVerification lib F recorded a w)

end Completion

/-! ## §2 A change is never verified away -/

section Changes

variable {rt : Runtime} {lib : Conversions rt} {F : Type} [PyFloat F]
  {recorded : Option String} {a : VerificationArgs}

/-- The verdict on a changed state is `VERIFIED` or asks for a rollback: a bound attempt has
left its identifier in the state, so that one check of five has passed. -/
theorem VerificationArgs.verdict_of_changed {observed : TargetState} {expiry : Option String}
    {v : Verdict} (hchanged : observed ≠ a.stateBefore)
    (h : a.verdict lib F recorded observed expiry = some v) :
    v.status = .verified ∨ v.rollbackRequired = true := by
  have hne : (observed != a.stateBefore) = true := bne_iff_ne.mpr hchanged
  unfold VerificationArgs.verdict at h
  dsimp only at h
  split_ifs at h with hreasons haction
  · cases h
    right
    rw [(refusedVerdict_spec _ _).2]
    exact hne
  · cases h
    right
    rw [(refusedVerdict_spec _ _).2]
    exact hne
  · obtain ⟨preserve, -, rfl⟩ := Option.map_eq_some_iff.mp h
    apply transitionVerdict_rollback
    -- no binding reason, so the state carries the attempt
    simp only [ne_eq, not_not, VerificationArgs.bindingReasons, List.append_eq_nil_iff,
      reasonIf_eq_nil] at hreasons
    exact ⟨true, by simp [VerificationArgs.transitionChecks, hreasons.1.2], rfl⟩

/-- A verification of a changed state, or the one of a failed observation. -/
theorem verifyExecution_of_changed {w : Aftermath} {v : PostActionVerification}
    (hchanged : w.actual ≠ a.stateBefore)
    (h : verifyExecution lib F w.verificationId recorded a w.observation = some v) :
    (v.observedState = w.actual.toDict ∧ (v.status = .verified ∨ v.rollbackRequired = true)) ∨
      w.verifierObserves = false ∧ v = a.unavailable rt w.verificationId := by
  unfold Aftermath.observation at h
  cases hobserves : w.verifierObserves with
  | false =>
    rw [hobserves] at h
    exact .inr ⟨rfl, (Option.some.inj h).symm⟩
  | true =>
    rw [hobserves] at h
    simp only [verifyExecution, if_true, Option.bind_eq_bind, Option.bind_eq_some_iff] at h
    obtain ⟨expiry, -, verdict, hverdict, hv⟩ := h
    cases hv
    exact .inl ⟨rfl, VerificationArgs.verdict_of_changed hchanged hverdict⟩

/-- The verification after an exception of the verifier asks for a rollback. -/
theorem fallbackVerification_of_changed {w : Aftermath} (hchanged : w.actual ≠ a.stateBefore)
    (reasons : List String) :
    (fallbackVerification F a w rt reasons).rollbackRequired = true ∧
      dictEq F (fallbackVerification F a w rt reasons).observedState a.stateBefore.toDict =
        false := by
  have hactual : dictEq F w.actual.toDict a.stateBefore.toDict = false := by
    rw [← Bool.not_eq_true, dictEq_toDict]
    exact hchanged
  cases hobserves : w.engineObserves with
  | false =>
    have hdict : dictEq F (observedAfterFailure a w) a.stateBefore.toDict = false := by
      apply dictEq_of_length
      simp [observedAfterFailure, hobserves]
    exact ⟨by simp [fallbackVerification, stateChanged, hobserves], hdict⟩
  | true =>
    have hdict : dictEq F (observedAfterFailure a w) a.stateBefore.toDict = false := by
      rw [observedAfterFailure, hobserves]
      exact hactual
    exact ⟨by simp [fallbackVerification, stateChanged, hdict], hdict⟩

/-- What a verification says about a changed target: it shows a state that differs from the
one before, and it is `VERIFIED` or asks for a rollback, unless it could not observe. -/
def Shows (rt : Runtime) (F : Type) [PyFloat F] (a : VerificationArgs) (w : Aftermath)
    (v : PostActionVerification) : Prop :=
  dictEq F v.observedState a.stateBefore.toDict = false ∧
    (v.status = .verified ∨ v.rollbackRequired = true ∨
      w.verifierObserves = false ∧ v = a.unavailable rt w.verificationId)

theorem shows_of_changed {w : Aftermath} (hchanged : w.actual ≠ a.stateBefore)
    (reasons : List String) :
    Shows rt F a w ((verifyExecution lib F w.verificationId recorded a w.observation).getD
      (fallbackVerification F a w rt reasons)) := by
  cases hverify : verifyExecution lib F w.verificationId recorded a w.observation with
  | none =>
    have hfallback : (fallbackVerification F a w rt reasons).rollbackRequired = true ∧
        dictEq F (fallbackVerification F a w rt reasons).observedState
          a.stateBefore.toDict = false := fallbackVerification_of_changed hchanged reasons
    exact ⟨hfallback.2, .inr (.inl hfallback.1)⟩
  | some v =>
    rcases verifyExecution_of_changed hchanged hverify with ⟨hobserved, hverdict⟩ | hunavailable
    · refine ⟨?_, hverdict.imp_right .inl⟩
      rw [Option.getD_some, hobserved, ← Bool.not_eq_true, dictEq_toDict]
      exact hchanged
    · refine ⟨?_, .inr (.inr hunavailable)⟩
      rw [Option.getD_some, hunavailable.2]
      apply dictEq_of_length
      simp [VerificationArgs.unavailable]

/-! ## §3 The final record -/

/-- The final record of a path with such a verification counts one effect. -/
theorem operationalEffects_of_shows {w : Aftermath} {v : PostActionVerification}
    (h : Shows rt F a w v) : operationalEffects F a v.observedState = 1 := by
  unfold operationalEffects
  rw [h.1]
  rfl

/-- An effect is not hidden: if the target's state differs from the recorded one, the verdict
is `VERIFIED` or asks for a rollback, unless the observation failed, where it is the one of
an unavailable target; and the final record counts one effect in every case. -/
theorem effect_not_hidden {w : Aftermath} (hchanged : w.actual ≠ a.stateBefore) :
    (∀ v, verifyExecution lib F w.verificationId recorded a w.observation = some v →
      v.status = .verified ∨ v.rollbackRequired = true ∨
        w.verifierObserves = false ∧ v.status = .failed ∧
          v.reasonCodes = ["TARGET_OBSERVATION_UNAVAILABLE"]) ∧
      (finalRecord lib F recorded a w).operationalEffects = 1 ∧
      ((finalRecord lib F recorded a w).verification.status = .verified ∨
        (finalRecord lib F recorded a w).verification.rollbackRequired = true ∨
        w.verifierObserves = false ∧ w.failedRecord = none ∧
          (finalRecord lib F recorded a w).verification.reasonCodes =
            ["TARGET_OBSERVATION_UNAVAILABLE"]) := by
  have hordinary : Shows rt F a w (performVerification lib F recorded a w) :=
    shows_of_changed hchanged _
  have hlate : Shows rt F a w (verifyAfterAppendFailure lib F recorded a w) :=
    shows_of_changed hchanged _
  refine ⟨?_, ?_⟩
  · intro v hverify
    rcases verifyExecution_of_changed hchanged hverify with ⟨-, hverdict⟩ | ⟨hfails, rfl⟩
    · exact hverdict.imp_right .inl
    · exact .inr (.inr ⟨hfails, rfl, rfl⟩)
  · unfold finalRecord
    cases hfailed : w.failedRecord with
    | none =>
      refine ⟨operationalEffects_of_shows hordinary, hordinary.2.imp_right fun h => ?_⟩
      refine h.imp_right fun ⟨hfails, hv⟩ => ⟨hfails, rfl, ?_⟩
      show (performVerification lib F recorded a w).reasonCodes = _
      rw [hv]
      rfl
    | some failed =>
      -- the path is closed conservatively
      cases failed with
      | actionAttempted =>
        have heffects := operationalEffects_of_shows hlate
        exact ⟨heffects, .inr (.inl (by simp [closePostEffectAccountingFailure, heffects]))⟩
      | verificationPerformed =>
        have heffects := operationalEffects_of_shows hordinary
        exact ⟨heffects, .inr (.inl (by simp [closePostEffectAccountingFailure, heffects]))⟩
      | finalStateRecorded =>
        have heffects := operationalEffects_of_shows hordinary
        exact ⟨heffects, .inr (.inl (by simp [closePostEffectAccountingFailure, heffects]))⟩

end Changes

/-- The isolation, after which neither the verifier nor the engine can observe the target. -/
def exampleAftermath : Aftermath where
  actual := exampleVerification.isolated ℚ (.bool true) "2026-01-01T00:00:01+00:00"
  verifierObserves := false
  engineObserves := false
  failedRecord := none
  verificationId := "verify-1"
  verifierException := ""
  appendException := ""

theorem exampleAftermath_changed : exampleAftermath.actual ≠ exampleVerification.stateBefore := by
  intro h
  have hnetwork := congrArg TargetState.networkState h
  exact absurd hnetwork (by decide)

/-- The isolation that nobody observes is still counted. -/
theorem effect_not_hidden_unobserved :
    (finalRecord exampleConversions ℚ (exampleOutcome.boundary.attemptDigest "attempt-1")
      exampleVerification exampleAftermath).operationalEffects = 1 :=
  (effect_not_hidden exampleAftermath_changed).2.1

/-- The verdict on the isolation that nobody observes neither is `VERIFIED` nor asks for a
rollback. -/
theorem unobserved_effect_without_rollback :
    ¬ ∀ w : Aftermath, w.actual ≠ exampleVerification.stateBefore →
      ∀ v, verifyExecution exampleConversions ℚ w.verificationId
          (exampleOutcome.boundary.attemptDigest "attempt-1") exampleVerification w.observation =
            some v →
        v.status = .verified ∨ v.rollbackRequired = true := by
  intro h
  rcases h exampleAftermath exampleAftermath_changed _ rfl with hstatus | hrollback
  · cases hstatus
  · cases hrollback

end DecisionFirewall.Phase3
