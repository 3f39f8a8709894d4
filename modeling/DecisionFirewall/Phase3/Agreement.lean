import DecisionFirewall.Phase3.Recomputation

/-!
# Agreement of the Engine and the Verifier

The engine assesses the evidence at the reading of its clock, and the verifier at the whole
second of that reading. The verifier confirms the engine's own decision exactly where the
two cannot tell the instants apart and the request is not ahead of the second.

- §1 evidence at two instants
- §2 the engine's decision
- §3 agreement
- §4 a request ahead of the clock
-/

namespace DecisionFirewall.Phase3

open StageA Lib.Tally

variable {F : Type} [PyFloat F]

/-! ## §1 Evidence at two instants -/

/-- The ages of the items, as the numbers that they are read as, are the same at two
instants. -/
def SameAges (rt : Runtime) (now now' : Int) (items : List (EvidenceItem F)) : Prop :=
  ∀ item ∈ items, ∀ t, parseTimestamp rt item.observedAt = some t →
    (PyFloat.totalSeconds (now - t) : F) = PyFloat.totalSeconds (now' - t)

/-- An iteration of the loop sees the seconds of the age alone. -/
theorem EvidenceTally.add_congr (inputs : EvidenceInputs F) (t : EvidenceTally F)
    (item : EvidenceItem F) {age age' : Int}
    (h : (PyFloat.totalSeconds age : F) = PyFloat.totalSeconds age') :
    add inputs t (item, age) = add inputs t (item, age') := by
  have hfreshness : inputs.freshness age = inputs.freshness age' := by
    simp only [EvidenceInputs.freshness, h]
  have hfactor : inputs.freshnessFactor age = inputs.freshnessFactor age' := by
    simp only [EvidenceInputs.freshnessFactor, hfreshness, h]
  have hreasons : inputs.itemReasons item age = inputs.itemReasons item age' := by
    simp only [EvidenceInputs.itemReasons, hfreshness]
  have hvalid : inputs.valid item age = inputs.valid item age' := by
    simp only [EvidenceInputs.valid, hreasons]
  have hscore : inputs.score item age = inputs.score item age' := by
    simp only [EvidenceInputs.score, hvalid, hfactor]
  have hassessment : inputs.assessment item age = inputs.assessment item age' := by
    simp only [EvidenceInputs.assessment, hfreshness, h, hscore, hreasons]
  have hcorroborates : inputs.corroborates item age = inputs.corroborates item age' := by
    simp only [EvidenceInputs.corroborates, hvalid, hfreshness, hscore]
  have hconflicts : inputs.conflicts item age = inputs.conflicts item age' := by
    simp only [EvidenceInputs.conflicts, hvalid]
  simp only [add, hassessment, hvalid, hfreshness, hcorroborates, hconflicts, hscore, hreasons]

/-- The loop runs alike over two readings of the items. -/
theorem EvidenceTally.foldl_congr (inputs : EvidenceInputs F)
    {rows rows' : List (EvidenceItem F × Int)}
    (h : List.Forall₂ (fun r r' => r.1 = r'.1 ∧
      (PyFloat.totalSeconds r.2 : F) = PyFloat.totalSeconds r'.2) rows rows')
    (t : EvidenceTally F) : rows.foldl (add inputs) t = rows'.foldl (add inputs) t := by
  induction h generalizing t with
  | nil => rfl
  | @cons r r' rows rows' hrow _ ih =>
    obtain ⟨item, age⟩ := r
    obtain ⟨item', age'⟩ := r'
    obtain ⟨rfl, hage⟩ : item = item' ∧ _ := hrow
    rw [List.foldl_cons, List.foldl_cons, add_congr inputs t item hage, ih]

omit [PyFloat F] in
/-- The items are read at both instants or at neither. -/
theorem EvidenceInputs.readItems_at {inputs : EvidenceInputs F} {items : List (EvidenceItem F)}
    {rows : List (EvidenceItem F × Int)} (h : inputs.readItems items = some rows) (now' : Int) :
    ({ inputs with now := now' } : EvidenceInputs F).readItems items =
      some (rows.map fun r => (r.1, r.2 - inputs.now + now')) := by
  have hrows := readItems_eq_some.mp h
  apply readItems_eq_some.mpr
  rw [List.forall₂_map_right_iff]
  refine hrows.imp ?_
  rintro item row ⟨t, ht, rfl⟩
  refine ⟨t, ht, ?_⟩
  have hage : inputs.now - t - inputs.now + now' = now' - t := by omega
  simp only [hage]

omit [PyFloat F] in
/-- Every row is an item with its age. -/
theorem EvidenceInputs.exists_of_readItems {inputs : EvidenceInputs F}
    {items : List (EvidenceItem F)} {rows : List (EvidenceItem F × Int)}
    (h : inputs.readItems items = some rows) {row : EvidenceItem F × Int} (hrow : row ∈ rows) :
    ∃ item ∈ items, ∃ t, parseTimestamp inputs.runtime item.observedAt = some t ∧
      row = (item, inputs.now - t) := by
  have hforall := readItems_eq_some.mp h
  obtain ⟨n, hn, rfl⟩ := List.mem_iff_getElem.mp hrow
  have hlen : n < items.length := hforall.length_eq ▸ hn
  obtain ⟨t, ht, heq⟩ := (List.forall₂_iff_get.mp hforall).2 n hlen hn
  exact ⟨items[n], List.getElem_mem hlen, t, ht, heq⟩

variable (rt : Runtime) (lib : Primitives) (rules : EvidencePolicyRules F)
  (verifier : EvidenceAttestationVerifier)

/-- The assessment sees of the instant what it reads as ages. -/
theorem assessEvidence_eq_of_sameAges {now now' : Int} {request : DecisionRequest F}
    {evidence : EvidenceAssessment F}
    (h : assessEvidence rt lib rules verifier now request = some evidence)
    (hages : SameAges rt now now' request.evidence) :
    assessEvidence rt lib rules verifier now' request = some evidence := by
  obtain ⟨rows, hrows, rfl⟩ := Option.map_eq_some_iff.mp h
  have hrows' := EvidenceInputs.readItems_at hrows now'
  refine Option.map_eq_some_iff.mpr ⟨_, hrows', ?_⟩
  congr 1
  -- the tallies do not read the instant itself
  show List.foldl (EvidenceTally.add _) _ _ = List.foldl (EvidenceTally.add _) _ _
  symm
  apply EvidenceTally.foldl_congr
  rw [List.forall₂_map_right_iff, List.forall₂_same]
  intro row hrow
  refine ⟨rfl, ?_⟩
  obtain ⟨item, hitem, t, ht, rfl⟩ := EvidenceInputs.exists_of_readItems hrows hrow
  have hage : now - t - now + now' = now' - t := by omega
  simp only [hage]
  exact hages item hitem t ht

theorem EvidenceTally.run_assessed (inputs : EvidenceInputs F)
    (rows : List (EvidenceItem F × Int)) :
    (run inputs rows).assessed = rows.map fun row => inputs.assessment row.1 row.2 := by
  have hstep : ∀ (t : EvidenceTally F) (row : EvidenceItem F × Int),
      (add inputs t row).assessed = t.assessed ++ [inputs.assessment row.1 row.2] :=
    fun _ _ => rfl
  have hflat := foldl_append_field assessed hstep empty rows
  rw [run, hflat, List.map_eq_flatMap]
  rfl

/-- Two equal assessments give each item one age. -/
theorem sameAges_of_pyEq [LawfulPyFloat F] {now now' : Int} {request : DecisionRequest F}
    {evidence evidence' : EvidenceAssessment F}
    (h : assessEvidence rt lib rules verifier now request = some evidence)
    (h' : assessEvidence rt lib rules verifier now' request = some evidence')
    (heq : PyVal.pyEq F (.ofJson (.obj evidence.toDict)) (.ofJson (.obj evidence'.toDict)) =
      true) :
    SameAges rt now now' request.evidence := by
  obtain ⟨rows, hrows, rfl⟩ := Option.map_eq_some_iff.mp h
  obtain ⟨rows', hrows', rfl⟩ := Option.map_eq_some_iff.mp h'
  -- the two readings differ in the instant alone
  have hshift := EvidenceInputs.readItems_at hrows now'
  rw [hrows'] at hshift
  cases hshift
  have hentries := Json.pyEq_entries (Json.pyEq_member heq (k := "assessed_items")
    (by simp [EvidenceAssessment.toDict]; rfl) rfl)
  simp only [EvidenceTally.toAssessment, EvidenceTally.run_assessed, List.map_map,
    List.forall₂_map_left_iff, List.forall₂_map_right_iff, List.forall₂_same] at hentries
  intro item hitem t ht
  obtain ⟨t', ht', hmem⟩ := EvidenceInputs.mem_of_readItems hrows hitem
  have hsame : t' = t := Option.some.inj (ht'.symm.trans ht)
  rw [hsame] at hmem
  have hitems := hentries _ hmem
  have hages := Json.pyEq_member hitems (k := "age_seconds")
    (by simp [EvidenceItemAssessment.toDict]; rfl) rfl
  have hinstant : now - t - now + now' = now' - t := by omega
  simp only [Function.comp_apply, EvidenceInputs.assessment, LawfulPyFloat.round6_totalSeconds,
    hinstant] at hages
  exact LawfulPyFloat.eqText_totalSeconds _ _ hages

/-! ## §2 The engine's decision -/

/-- How `build_decision` ends: a rule that does not escalate leaves the preliminary record,
and one that does adds what the issuer gave. -/
theorem buildDecision_cases {rt : Runtime} {inputs : DecisionInputs F}
    {issue : ApprovalIssuer F} {d : DecisionRecord F}
    (h : buildDecision rt inputs (some issue) = some d) :
    ∃ rule, inputs.selectedRule = some rule ∧
      ((rule.outcome ≠ .escalate ∧ d = inputs.preliminary rt rule) ∨
        (rule.outcome = .escalate ∧ ∃ requirement,
          issue { decision := inputs.preliminary rt rule
                  actionType := NETWORK_ISOLATE
                  targetId := inputs.target.id
                  parameters := inputs.request.action.parameters
                  evidenceSha256 := inputs.request.evidenceSha256 rt
                  requiredApprovingAuthority := inputs.requiredAuthority
                  reasonCodes := orderedReasons inputs.reasons } = some requirement ∧
          d = { inputs.preliminary rt rule with approvalRequirement := some requirement })) := by
  unfold buildDecision at h
  obtain ⟨rule, hrule, h⟩ := Option.bind_eq_some_iff.mp h
  refine ⟨rule, hrule, ?_⟩
  by_cases hescalate : rule.outcome ≠ .escalate
  · rw [if_pos hescalate] at h
    exact .inl ⟨hescalate, (Option.some.inj h).symm⟩
  · rw [if_neg hescalate] at h
    obtain ⟨issue', hissue', h⟩ := Option.bind_eq_some_iff.mp h
    cases hissue'
    obtain ⟨requirement, hrequirement, h⟩ := Option.bind_eq_some_iff.mp h
    exact .inr ⟨not_not.mp hescalate, requirement, hrequirement, (Option.some.inj h).symm⟩

/-- The decision is built again at its whole second, with its own approval requirement. -/
theorem evaluateRequest_again {rt : Runtime} {lib : Primitives} {policy : Policy F}
    {verifier : EvidenceAttestationVerifier} {principal : AuthenticatedPrincipal} {now : Int}
    {decisionId : String} {issue : ApprovalIssuer F} {request : DecisionRequest F}
    {d : DecisionRecord F}
    (h : evaluateRequest rt lib policy verifier principal now decisionId (some issue) request =
      some d)
    (hages : SameAges rt now (Runtime.truncate now) request.evidence) :
    evaluateRequest rt lib policy verifier principal (Runtime.truncate now) decisionId
      (some fun _ => d.approvalRequirement) request = some d := by
  obtain ⟨target, evidence, htarget, hevidence, hbuild⟩ := evaluateRequest_eq_some h
  have hevidence' := assessEvidence_eq_of_sameAges rt lib policy.evidence verifier hevidence hages
  obtain ⟨rule, hrule, hcases⟩ := buildDecision_cases hbuild
  unfold evaluateRequest
  rw [htarget, hevidence']
  simp only [Option.bind_eq_bind, Option.bind_some]
  have hrule' : (evaluationInputs policy principal (Runtime.truncate now) decisionId request target
      evidence).selectedRule = some rule := hrule
  -- the record carries the whole second of the instant in both cases
  have hpreliminary : (evaluationInputs policy principal (Runtime.truncate now) decisionId request
        target evidence).preliminary rt rule =
      (evaluationInputs policy principal now decisionId request target evidence).preliminary rt
        rule := by
    simp only [DecisionInputs.preliminary, evaluationInputs, Runtime.truncate_truncate]
    rfl
  unfold buildDecision
  rw [hrule']
  simp only [Option.bind_eq_bind, Option.bind_some, hpreliminary]
  rcases hcases with ⟨houtcome, rfl⟩ | ⟨houtcome, requirement, -, rfl⟩
  · rw [if_pos houtcome]
    rfl
  · rw [if_neg (not_not_intro houtcome)]
    rfl

/-! ## §3 Agreement -/

/-- The arguments are those with which the engine has its own decision on a request
verified: the request passed validation and preflight at the instant of the evaluation, the
resolver resolved the caller, and the gate has registered what it issued. -/
structure EngineDecides (rt : Runtime) (lib : Primitives)
    (v : IndependentDecisionVerifier) (args : VerifyArgs F) (d : DecisionRecord F) : Prop where
  validated : args.request.Validated rt args.evaluatedAt
  preflight : args.request.Preflight rt args.evaluatedAt
  resolved : ∃ sha256 resolutionId credential, v.principalResolver.resolve lib sha256 resolutionId
    credential = .ok args.principalResolution
  principal : args.principal = args.principalResolution.principal
  target : args.policy.targetRecord args.request.action.target = some args.target
  decided : ∃ gate : HumanApprovalGate, ∃ decisionId clock approvalId, rt.IsDatetime clock ∧
    evaluateRequest rt lib args.policy v.attestationVerifier args.principal args.evaluatedAt
      decisionId (some fun a => gate.issueRequirement rt lib clock approvalId a) args.request =
        some d ∧
    v.approvalGate = d.approvalRequirement.elim gate gate.register
  decision : args.decision = d.object

/-- The verifier cannot tell the instant of the evaluation from its whole second, and the
request, in its typed form, is still one that it reads. -/
structure Confirmable (rt : Runtime) (args : VerifyArgs F)
    (readings : VerifyReadings) : Prop where
  notAhead : ∃ t, parseTimestamp rt args.request.timestamp = some t ∧
    t ≤ Runtime.truncate args.evaluatedAt
  clock : |readings.verifierNow - Runtime.truncate args.evaluatedAt| ≤ 5000000
  ages : SameAges rt args.evaluatedAt (Runtime.truncate args.evaluatedAt) args.request.evidence
  size : encodedSize (.obj args.request.toDict) ≤ MAX_REQUEST_BYTES

section Agreement

variable [LawfulPyFloat F] {rt : Runtime} {lib : Primitives} {v : IndependentDecisionVerifier}
  {args : VerifyArgs F} {readings : VerifyReadings} {d : DecisionRecord F}

omit [LawfulPyFloat F] in
/-- A decision carries the assessment of its evidence. -/
theorem exists_assessEvidence {rt : Runtime} {lib : Primitives} {policy : Policy F}
    {verifier : EvidenceAttestationVerifier} {principal : AuthenticatedPrincipal} {now : Int}
    {decisionId : String} {issuer : Option (ApprovalIssuer F)} {request : DecisionRequest F}
    {d : DecisionRecord F}
    (h : evaluateRequest rt lib policy verifier principal now decisionId issuer request = some d) :
    ∃ evidence, assessEvidence rt lib policy.evidence verifier now request = some evidence ∧
      d.object.evidence = .ofJson (.obj evidence.toDict) := by
  obtain ⟨target, evidence, -, hevidence, hbuild⟩ := evaluateRequest_eq_some h
  obtain ⟨rule, requirement, -, rfl⟩ := buildDecision_eq_some hbuild
  exact ⟨evidence, hevidence, rfl⟩

omit [LawfulPyFloat F] in
/-- The engine's own approval requirement is in order. -/
theorem approval_of_engineDecides (h : EngineDecides rt lib v args d) :
    ApprovalPresence args.decision ∧
      approvalValid rt ⟨args.request, args.policy, args.target, d⟩ args.decision lib
        v.approvalGate = some true := by
  obtain ⟨gate, decisionId, clock, approvalId, hclock, hdecided, hgate⟩ := h.decided
  obtain ⟨target, evidence, htarget, -, hbuild⟩ := evaluateRequest_eq_some hdecided
  obtain rfl : args.target = target := Option.some.inj (h.target.symm.trans htarget)
  obtain ⟨rule, -, ⟨houtcome, rfl⟩ | ⟨houtcome, requirement, hissue, rfl⟩⟩ :=
    buildDecision_cases hbuild
  · -- no requirement, and none is due
    have htext : rule.outcome.text ≠ DecisionOutcome.escalate.text := by
      intro heq
      exact houtcome (by cases hrule : rule.outcome <;> simp_all [DecisionOutcome.text])
    rw [h.decision]
    exact ⟨⟨fun heq => absurd heq htext, fun hsome => by cases hsome⟩, rfl⟩
  · have hverified := HumanApprovalGate.verifyRequirement_register hclock hissue
    obtain ⟨expires, -, hrequirement, -, -⟩ := HumanApprovalGate.issueRequirement_eq_some hissue
    rw [h.decision, hgate]
    refine ⟨⟨fun _ => rfl, fun _ => congrArg DecisionOutcome.text houtcome⟩, ?_⟩
    unfold approvalValid
    simp only [DecisionRecord.object, Option.elim, hverified]
    -- the gate wrote the bindings from the decision that it was given
    subst hrequirement
    apply congrArg some
    apply decide_eq_true
    exact ⟨congrArg DecisionOutcome.text houtcome, rfl, rfl, rfl, rfl, rfl, rfl, rfl, rfl, rfl, rfl,
      rfl, rfl⟩

/-- The verifier confirms the engine's decision exactly where it cannot tell the instant
of the evaluation from its whole second, and the request from a past one. -/
theorem verify_engine_decision_iff (h : EngineDecides rt lib v args d) :
    v.Succeeds rt lib args readings ↔ Confirmable rt args readings := by
  obtain ⟨gate, decisionId, clock, approvalId, hclock, hdecided, hgate⟩ := h.decided
  have hdecisionId : args.decision.decisionId = decisionId := by
    rw [h.decision]
    exact (copiesInputs_of_evaluateRequest hdecided).decisionId
  constructor
  · intro hsucceeds
    obtain ⟨requestTime, ⟨request, policy, target, expected⟩, hconfirmed⟩ :=
      IndependentDecisionVerifier.succeeds_iff.mp hsucceeds
    obtain ⟨evidence, hevidence, hobject⟩ := exists_assessEvidence hdecided
    obtain ⟨evidence', hevidence', hobject'⟩ := exists_assessEvidence hconfirmed.recomputed
    have hequal := hconfirmed.evidence
    simp only [EvidenceRecomputed, h.decision, hobject, hobject'] at hequal
    exact {
      notAhead := ⟨requestTime, hconfirmed.timestamp, hconfirmed.chronology.1⟩
      clock := hconfirmed.chronology.2.1
      ages := sameAges_of_pyEq rt lib _ _ hevidence hevidence' hequal
      size := hconfirmed.revalidated.1 }
  · rintro ⟨⟨t, htime, hbefore⟩, hnow, hages, hsize⟩
    have hresolution :
        v.principalResolver.verifyResolution lib args.principalResolution = some args.principal := by
      obtain ⟨sha256, resolutionId, credential, hresolve⟩ := h.resolved
      rw [h.principal]
      exact TrustedPrincipalResolver.verifyResolution_of_resolve hresolve
    have hexpected : v.recompute rt lib args args.principal = some d := by
      unfold IndependentDecisionVerifier.recompute
      rw [hdecisionId, h.decision]
      exact evaluateRequest_again hdecided hages
    have hvalues : args.decision.SameValues F d.object := by
      rw [h.decision]
      exact DecisionObject.SameValues.refl (wellFormed_of_evaluateRequest hdecided)
    have htexts : args.decision.SameTexts d.object := by
      rw [h.decision]
      exact ⟨rfl, rfl, rfl, rfl, rfl, rfl, rfl, rfl, rfl, rfl, rfl⟩
    have hrequested : args.decision.requestedTarget = some (.str args.request.action.target) := by
      obtain ⟨target, evidence, -, -, hbuild⟩ := evaluateRequest_eq_some hdecided
      obtain ⟨rule, requirement, -, rfl⟩ := buildDecision_eq_some hbuild
      rw [h.decision]
      rfl
    obtain ⟨hpresence, happroval⟩ := approval_of_engineDecides h
    exact succeeds_of_same ⟨hsize, h.validated⟩ hresolution h.target rfl htime hbefore hnow
      hexpected htexts hvalues hrequested hpresence happroval

end Agreement

/-! ## §4 A request ahead of the clock -/

/-- A confirmed request is not ahead of the whole second of the evaluation. -/
theorem notAhead_of_succeeds {rt : Runtime} {lib : Primitives}
    {v : IndependentDecisionVerifier} {args : VerifyArgs F} {readings : VerifyReadings}
    (h : v.Succeeds rt lib args readings) : ∃ t, parseTimestamp rt args.request.timestamp = some t ∧
      t ≤ Runtime.truncate args.evaluatedAt := by
  obtain ⟨requestTime, re, hconfirmed⟩ := IndependentDecisionVerifier.succeeds_iff.mp h
  exact ⟨requestTime, hconfirmed.timestamp, hconfirmed.chronology.1⟩

/-- The example request, up to a few minutes ahead of the clock, passes the validation. -/
theorem exampleRequestAt_validated {rt : Runtime} {timestamp : String} {t : Int}
    (hread : parseTimestamp rt "2026-01-01T00:00:00+00:00" = some 1767225600000000)
    (htime : parseTimestamp rt timestamp = some t)
    (hnow : 1767225600000000 ≤ t ∧ t ≤ 1767225600000000 + MAX_REQUEST_FUTURE_SKEW) :
    (exampleRequestAt timestamp).Validated rt 1767225600000000 := by
  have h := exampleRequest_validated hread
  -- only the depth and the times see the timestamp
  have hdepth : jsonDepth (.obj (exampleRequestAt timestamp).toDict) =
      jsonDepth (.obj exampleRequest.toDict) := by
    simp only [DecisionRequest.toDict, jsonDepth, jsonDepthFields]
    rfl
  have htimes : (exampleRequestAt timestamp).TimesValid rt 1767225600000000 := by
    refine ⟨t, htime, hnow.2, ?_⟩
    intro item hitem
    obtain ⟨_, _, _, hitems⟩ := h.times
    obtain ⟨o, ho, hle⟩ := hitems item hitem
    have hobserved : item.observedAt = "2026-01-01T00:00:00+00:00" := by
      simp only [exampleRequestAt, exampleRequest, List.mem_cons, List.not_mem_nil,
        or_false] at hitem
      rcases hitem with rfl | rfl | rfl | rfl | rfl <;> rfl
    rw [hobserved, hread] at ho
    cases ho
    exact ⟨_, by rw [hobserved]; exact hread, by have := hnow.1; omega⟩
  exact ⟨hdepth ▸ h.depth, h.schemaVersion, h.requestId, h.agent, h.action, h.target, h.evidence,
    h.confidence, h.context, h.targetBinding, h.evidenceIds, h.payloads, h.stances, htimes⟩

/-- The engine's arguments for the verification of a decision on the example request. -/
def exampleArgs (timestamp : String) (d : DecisionObject) : VerifyArgs ℚ where
  request := exampleRequestAt timestamp
  principal := degradedPrincipal
  principalResolution := exampleResolver.resolution plainPrimitives "resolution-1" zeros
    degradedPrincipal
  policy := shippedPolicy
  target := workstation042
  decision := d
  evaluatedAt := 1767225600000000

/-- The engine decides on the example request, also when it is ahead of the clock. -/
theorem exists_engineDecides {timestamp : String} {t : Int}
    (htime : parseTimestamp newYearRuntime timestamp = some t)
    (hnow : 1767225600000000 ≤ t ∧ t ≤ 1767225600000000 + MAX_REQUEST_FUTURE_SKEW) :
    ∃ d : DecisionRecord ℚ, EngineDecides newYearRuntime plainPrimitives exampleDecisionVerifier
      (exampleArgs timestamp d.object) d := by
  have hread : parseTimestamp newYearRuntime "2026-01-01T00:00:00+00:00" =
      some 1767225600000000 := by decide +kernel
  have hclock : newYearRuntime.IsDatetime 1767225600000000 := by decide +kernel
  obtain ⟨d, hd, -, -, happroval⟩ := exists_denial hread timestamp (some fun a =>
    exampleGate.issueRequirement newYearRuntime plainPrimitives 1767225600000000 "approval-1" a)
  have hage : -MAX_REQUEST_AGE ≤ 1767225600000000 - t ∧ 1767225600000000 - t ≤ MAX_REQUEST_AGE := by
    have hskew : MAX_REQUEST_FUTURE_SKEW = 300000000 ∧ MAX_REQUEST_AGE = 300000000 := by decide
    omega
  have htarget : (shippedPolicy : Policy ℚ).targetRecord exampleRequest.action.target =
      some workstation042 := by decide +kernel
  refine ⟨d, ?_⟩
  exact {
    validated := exampleRequestAt_validated hread htime hnow
    preflight := ⟨t, htime, hage⟩
    resolved := ⟨fun _ => zeros, "resolution-1", List.replicate 32 5, rfl⟩
    principal := rfl
    target := htarget
    decided := ⟨exampleGate, "decision-1", 1767225600000000, "approval-1", hclock, hd, by
      rw [happroval]; rfl⟩
    decision := rfl }

/-- A decision on a request one second ahead of the clock is not confirmed. -/
theorem verifier_rejects_engine_decision :
    ∃ (rt : Runtime) (lib : Primitives) (v : IndependentDecisionVerifier) (args : VerifyArgs ℚ)
      (readings : VerifyReadings) (d : DecisionRecord ℚ), EngineDecides rt lib v args d ∧
        readings.verifierNow = args.evaluatedAt ∧ ¬ v.Succeeds rt lib args readings := by
  have htime : parseTimestamp newYearRuntime "2026-01-01T00:00:01+00:00" =
      some 1767225601000000 := by decide +kernel
  obtain ⟨d, hd⟩ := exists_engineDecides htime ⟨by decide, by decide⟩
  refine ⟨newYearRuntime, plainPrimitives, exampleDecisionVerifier, _, exampleReadings, d, hd, rfl,
    ?_⟩
  intro hsucceeds
  obtain ⟨t, ht, hle⟩ := notAhead_of_succeeds hsucceeds
  obtain rfl : 1767225601000000 = t := Option.some.inj (htime.symm.trans ht)
  have hahead : ¬ (1767225601000000 : Int) ≤ Runtime.truncate 1767225600000000 := by decide
  exact hahead hle

/-- A decision on a request that is not ahead of the clock is confirmed. -/
theorem verify_engine_decision_on_time :
    ∃ (args : VerifyArgs ℚ) (d : DecisionRecord ℚ),
      EngineDecides newYearRuntime plainPrimitives exampleDecisionVerifier args d ∧
        exampleDecisionVerifier.Succeeds newYearRuntime plainPrimitives args exampleReadings := by
  have hread : parseTimestamp newYearRuntime "2026-01-01T00:00:00+00:00" =
      some 1767225600000000 := by decide +kernel
  obtain ⟨d, hd⟩ := exists_engineDecides hread ⟨le_rfl, by decide⟩
  have hnow : (1767225600000000 : Int) ≤ Runtime.truncate 1767225600000000 ∧
      |(1767225600000000 : Int) - Runtime.truncate 1767225600000000| ≤ 5000000 := by decide
  have hsecond : Runtime.truncate 1767225600000000 = 1767225600000000 := by decide
  refine ⟨_, d, hd, (verify_engine_decision_iff hd).mpr ?_⟩
  exact {
    notAhead := ⟨_, hread, hnow.1⟩
    clock := hnow.2
    ages := by
      intro item _ t _
      simp only [exampleArgs, hsecond]
    size := (exampleRequest_revalidated hread).1 }

end DecisionFirewall.Phase3
