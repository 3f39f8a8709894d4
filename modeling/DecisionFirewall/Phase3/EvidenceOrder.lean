import DecisionFirewall.Phase3.ShippedPolicy
import DecisionFirewall.Phase3.Decision

/-!
# Evidence Order

A request's evidence is a list, and the loop of `assess_evidence` handles it item by
item. What the assessment and the decision say does not depend on that order: the
tallies are multisets, sets and best scores, and these commute. Only the digests of the
request and of the decision context see the order.

- §1 best scores
- §2 tallies of permuted rows
- §3 the assessment
- §4 the decision

The arithmetic is exact.
-/

namespace DecisionFirewall.Phase3

open StageA Lib.Tally

/-! ## §1 Best scores -/

section Best

variable {F : Type} [PyFloat F] (inputs : EvidenceInputs F)

/-- The scores of the corroborating rows of one source. -/
def corroboratingScores (rows : List (EvidenceItem F × Int)) (key : String × String) : List F :=
  (rows.filter fun row => inputs.corroborates row.1 row.2 &&
    decide (EvidenceInputs.sourceKey row.1 = key)).map fun row => inputs.score row.1 row.2

/-- The best of them, `0.0` where there is none. -/
def bestScore (rows : List (EvidenceItem F × Int)) (key : String × String) : F :=
  (corroboratingScores inputs rows key).foldl (fun best score => PyFloat.max score best)
    (PyFloat.ofInt 0)

theorem bestScore_concat (rows : List (EvidenceItem F × Int)) (row : EvidenceItem F × Int)
    (key : String × String) :
    bestScore inputs (rows ++ [row]) key =
      if inputs.corroborates row.1 row.2 = true ∧ EvidenceInputs.sourceKey row.1 = key then
        PyFloat.max (inputs.score row.1 row.2) (bestScore inputs rows key)
      else bestScore inputs rows key := by
  unfold bestScore corroboratingScores
  rw [List.filter_append, List.map_append, List.foldl_append]
  split_ifs with h
  · simp [h.1, h.2]
  · have hnone : (inputs.corroborates row.1 row.2 &&
        decide (EvidenceInputs.sourceKey row.1 = key)) = false := by
      rw [← Bool.not_eq_true, Bool.and_eq_true, decide_eq_true_eq]
      exact h
    simp [hnone]

/-- A source without a corroborating row has no score. -/
theorem bestScore_of_notMem {rows : List (EvidenceItem F × Int)} {key : String × String}
    (h : key ∉ (EvidenceTally.run inputs rows).corroboratingInstances) :
    bestScore inputs rows key = PyFloat.ofInt 0 := by
  have hnone : corroboratingScores inputs rows key = [] := by
    unfold corroboratingScores
    rw [List.map_eq_nil_iff, List.filter_eq_nil_iff]
    intro row hrow hcorroborates
    rw [Bool.and_eq_true, decide_eq_true_eq] at hcorroborates
    exact h (EvidenceTally.mem_corroboratingInstances.mpr
      ⟨row, hrow, hcorroborates.1, hcorroborates.2.symm⟩)
  rw [bestScore, hnone]
  rfl

theorem run_concat (rows : List (EvidenceItem F × Int)) (row : EvidenceItem F × Int) :
    EvidenceTally.run inputs (rows ++ [row]) =
      EvidenceTally.add inputs (EvidenceTally.run inputs rows) row := by
  simp only [EvidenceTally.run, List.foldl_append, List.foldl_cons, List.foldl_nil]

/-- The loop keeps the best score of every corroborating source. -/
theorem run_supportingScores (rows : List (EvidenceItem F × Int)) :
    (EvidenceTally.run inputs rows).supportingScores =
      (EvidenceTally.run inputs rows).corroboratingInstances.map fun key =>
        (key, bestScore inputs rows key) := by
  induction rows using List.reverseRecOn with
  | nil => rfl
  | append_singleton rows row ih =>
    rw [run_concat]
    set t := EvidenceTally.run inputs rows with ht
    show (if inputs.corroborates row.1 row.2 then EvidenceTally.raiseScore t.supportingScores
        (EvidenceInputs.sourceKey row.1) (inputs.score row.1 row.2) else t.supportingScores) =
      (addAll t.corroboratingInstances (flag (inputs.corroborates row.1 row.2 = true)
        (EvidenceInputs.sourceKey row.1))).map _
    cases hrow : inputs.corroborates row.1 row.2 with
    | false =>
      have hsame : ∀ key, bestScore inputs (rows ++ [row]) key = bestScore inputs rows key := by
        intro key
        rw [bestScore_concat, hrow]
        simp
      simp [flag, ih, hsame]
    | true =>
      by_cases hkey : EvidenceInputs.sourceKey row.1 ∈ t.corroboratingInstances
      · -- the entry of the source is raised
        have hany : (t.supportingScores.any fun s =>
            decide (s.1 = EvidenceInputs.sourceKey row.1)) = true := by
          rw [ih, List.any_map, List.any_eq_true]
          exact ⟨_, hkey, by simp⟩
        simp only [EvidenceTally.raiseScore, hany, if_true, flag, addAll, List.foldl_cons,
          List.foldl_nil, if_pos hkey]
        rw [ih, List.map_map]
        apply List.map_congr_left
        intro key _
        simp only [Function.comp, bestScore_concat, hrow, true_and]
        by_cases heq : key = EvidenceInputs.sourceKey row.1
        · subst heq
          simp
        · rw [if_neg heq, if_neg fun h => heq h.symm]
      · -- the source is new
        have hany : ¬ (t.supportingScores.any fun s =>
            decide (s.1 = EvidenceInputs.sourceKey row.1)) = true := by
          rw [ih, List.any_map, List.any_eq_true]
          rintro ⟨key, hmem, heq⟩
          exact hkey (of_decide_eq_true heq ▸ hmem)
        simp only [EvidenceTally.raiseScore, if_neg hany, flag, if_true, addAll, List.foldl_cons,
          List.foldl_nil, if_neg hkey, List.map_append, List.map_cons, List.map_nil]
        rw [bestScore_concat, if_pos ⟨hrow, rfl⟩, bestScore_of_notMem inputs hkey, ih]
        apply congrArg (fun scores => scores ++ [_])
        apply List.map_congr_left
        intro key hmem
        rw [bestScore_concat, if_neg]
        rintro ⟨-, rfl⟩
        exact hkey hmem

end Best

/-! ## §2 Tallies of permuted rows -/

section Permuted

variable {F : Type} [PyFloat F] {inputs : EvidenceInputs F}
  {rows rows' : List (EvidenceItem F × Int)}

/-- The tallies agree but for the order in which they list what they hold. -/
structure SameTally (t t' : EvidenceTally F) : Prop where
  assessed : t'.assessed.length = t.assessed.length
  invalidIds : t'.invalidIds.Perm t.invalidIds
  staleIds : t'.staleIds.Perm t.staleIds
  poisonedIds : t'.poisonedIds.Perm t.poisonedIds
  validSourceTypes : ∀ x, x ∈ t'.validSourceTypes ↔ x ∈ t.validSourceTypes
  corroboratingInstances : t'.corroboratingInstances.Perm t.corroboratingInstances
  conflictInstances : t'.conflictInstances.Perm t.conflictInstances
  aggregateReasons : ∀ r, r ∈ t'.aggregateReasons ↔ r ∈ t.aggregateReasons
  overallStrength : t'.overallStrength = t.overallStrength

theorem run_assessed : (EvidenceTally.run inputs rows).assessed =
    rows.map fun row => inputs.assessment row.1 row.2 := by
  rw [List.map_eq_flatMap]
  exact foldl_append_field EvidenceTally.assessed (fun _ _ => rfl) .empty rows

theorem run_aggregateReasons : (EvidenceTally.run inputs rows).aggregateReasons =
    rows.flatMap fun row => inputs.itemReasons row.1 row.2 :=
  foldl_append_field EvidenceTally.aggregateReasons (fun _ _ => rfl) .empty rows

end Permuted

/-- The best of exact scores does not depend on the order. -/
theorem bestScore_perm {inputs : EvidenceInputs ℚ} {rows rows' : List (EvidenceItem ℚ × Int)}
    (h : rows'.Perm rows) (key : String × String) :
    bestScore inputs rows' key = bestScore inputs rows key := by
  have hmax : ∀ x y : ℚ, PyFloat.max x y = max x y := by
    intro x y
    show (if decide (x < y) = true then y else x) = max x y
    by_cases hxy : x < y
    · simp [hxy, max_eq_right hxy.le]
    · simp [hxy, max_eq_left (not_lt.mp hxy)]
  unfold bestScore
  simp only [hmax]
  apply ((h.filter _).map _).foldl_eq'
  intro x _ y _ z
  exact max_left_comm y x z

theorem sameTally_run {inputs : EvidenceInputs ℚ} {rows rows' : List (EvidenceItem ℚ × Int)}
    (h : rows'.Perm rows) :
    SameTally (EvidenceTally.run inputs rows) (EvidenceTally.run inputs rows') := by
  have hcorroborating : (EvidenceTally.run inputs rows').corroboratingInstances.Perm
      (EvidenceTally.run inputs rows).corroboratingInstances := by
    rw [EvidenceTally.run_corroboratingInstances, EvidenceTally.run_corroboratingInstances]
    exact perm_addAll_nil (h.flatMap_right _)
  refine ⟨?_, ?_, ?_, ?_, ?_, hcorroborating, ?_, ?_, ?_⟩
  · rw [run_assessed, run_assessed, List.length_map, List.length_map]
    exact h.length_eq
  · rw [EvidenceTally.run_invalidIds, EvidenceTally.run_invalidIds]
    exact h.flatMap_right _
  · rw [EvidenceTally.run_staleIds, EvidenceTally.run_staleIds]
    exact h.flatMap_right _
  · rw [EvidenceTally.run_poisonedIds, EvidenceTally.run_poisonedIds]
    exact h.flatMap_right _
  · intro x
    rw [EvidenceTally.run_validSourceTypes, EvidenceTally.run_validSourceTypes]
    exact (perm_addAll_nil (h.flatMap_right _)).mem_iff
  · rw [EvidenceTally.run_conflictInstances, EvidenceTally.run_conflictInstances]
    exact perm_addAll_nil (h.flatMap_right _)
  · intro r
    rw [run_aggregateReasons, run_aggregateReasons]
    exact (h.flatMap_right _).mem_iff
  · -- the same best scores, in another order
    have hscores : ((EvidenceTally.run inputs rows').supportingScores).Perm
        (EvidenceTally.run inputs rows).supportingScores := by
      rw [run_supportingScores, run_supportingScores]
      simp only [bestScore_perm h]
      exact hcorroborating.map _
    have hsum : (((EvidenceTally.run inputs rows').supportingScores).map Prod.snd).sum =
        (((EvidenceTally.run inputs rows).supportingScores).map Prod.snd).sum :=
      (hscores.map _).sum_eq
    have hnil : (EvidenceTally.run inputs rows').supportingScores = [] ↔
        (EvidenceTally.run inputs rows).supportingScores = [] := by
      rw [← List.length_eq_zero_iff, ← List.length_eq_zero_iff, hscores.length_eq]
    unfold EvidenceTally.overallStrength
    rw [hscores.length_eq]
    simp only [hnil]
    show (if _ then _ else PyFloat.div (List.sum _) _) = if _ then _ else PyFloat.div (List.sum _) _
    rw [hsum]

/-! ## §3 The assessment -/

/-- The assessments agree but for the order of the items and of the recorded reasons. -/
structure SameEvidence {F : Type} (e e' : EvidenceAssessment F) : Prop where
  overallStrength : e'.overallStrength = e.overallStrength
  decisionGrade : e'.decisionGrade = e.decisionGrade
  automationGrade : e'.automationGrade = e.automationGrade
  corroboratingSources : e'.corroboratingSources = e.corroboratingSources
  conflictCount : e'.conflictCount = e.conflictCount
  staleEvidenceIds : e'.staleEvidenceIds = e.staleEvidenceIds
  missingExpectedSources : e'.missingExpectedSources = e.missingExpectedSources
  invalidEvidenceIds : e'.invalidEvidenceIds = e.invalidEvidenceIds
  poisonedEvidenceIds : e'.poisonedEvidenceIds = e.poisonedEvidenceIds
  reasonCodes : ∀ r, r ∈ e'.reasonCodes ↔ r ∈ e.reasonCodes

section Assessment

variable {F : Type} [PyFloat F] {rules : EvidencePolicyRules F} {t t' : EvidenceTally F}

theorem SameTally.missing (h : SameTally t t') : t'.missing rules = t.missing rules := by
  simp only [EvidenceTally.missing, h.validSourceTypes]

theorem SameTally.decisionGrade (h : SameTally t t') : t'.decisionGrade = t.decisionGrade := by
  have hinvalid : t'.invalidIds = [] ↔ t.invalidIds = [] := by
    rw [← List.length_eq_zero_iff, ← List.length_eq_zero_iff, h.invalidIds.length_eq]
  have hassessed : t'.assessed = [] ↔ t.assessed = [] := by
    rw [← List.length_eq_zero_iff, ← List.length_eq_zero_iff, h.assessed]
  simp only [EvidenceTally.decisionGrade, hinvalid, ne_eq, hassessed]

theorem SameTally.automationGrade (h : SameTally t t') :
    t'.automationGrade rules = t.automationGrade rules := by
  have hstale : t'.staleIds = [] ↔ t.staleIds = [] := by
    rw [← List.length_eq_zero_iff, ← List.length_eq_zero_iff, h.staleIds.length_eq]
  simp only [EvidenceTally.automationGrade, h.decisionGrade, hstale, h.missing,
    h.conflictInstances.length_eq, h.corroboratingInstances.length_eq, h.overallStrength]

theorem SameTally.mem_reasons (h : SameTally t t') (r : String) :
    r ∈ t'.reasons rules ↔ r ∈ t.reasons rules := by
  have hconflicts : t'.conflictInstances = [] ↔ t.conflictInstances = [] := by
    rw [← List.length_eq_zero_iff, ← List.length_eq_zero_iff, h.conflictInstances.length_eq]
  simp only [EvidenceTally.reasons, List.mem_append, mem_flag, h.aggregateReasons, h.missing, ne_eq,
    hconflicts, h.corroboratingInstances.length_eq, h.overallStrength]

/-- Tallies that agree make assessments that agree. -/
theorem SameTally.toAssessment (h : SameTally t t') :
    SameEvidence (t.toAssessment rules) (t'.toAssessment rules) where
  overallStrength := congrArg PyFloat.round6 h.overallStrength
  decisionGrade := h.decisionGrade
  automationGrade := h.automationGrade
  corroboratingSources := h.corroboratingInstances.length_eq
  conflictCount := h.conflictInstances.length_eq
  staleEvidenceIds := sortedTexts_perm h.staleIds
  missingExpectedSources := h.missing
  invalidEvidenceIds := sortedTexts_perm h.invalidIds
  poisonedEvidenceIds := sortedTexts_perm h.poisonedIds
  reasonCodes r := by
    simp only [EvidenceTally.toAssessment, List.mem_eraseDups]
    exact h.mem_reasons r

omit [PyFloat F] in
/-- Permuted items are read into permuted rows, or neither list is read. -/
theorem EvidenceInputs.readItems_perm (inputs : EvidenceInputs F)
    {items items' : List (EvidenceItem F)} (h : items'.Perm items) :
    Option.Rel (fun rows rows' => rows'.Perm rows) (inputs.readItems items)
      (inputs.readItems items') := by
  by_cases hall : ∀ item ∈ items, (parseTimestamp inputs.runtime item.observedAt).isSome = true
  · have hread : ∀ xs : List (EvidenceItem F), (∀ x ∈ xs, x ∈ items) → inputs.readItems xs =
        some (xs.map fun item =>
          (item, inputs.now - (parseTimestamp inputs.runtime item.observedAt).getD 0)) := by
      intro xs hxs
      rw [readItems_eq_some, List.forall₂_map_right_iff, List.forall₂_same]
      intro item hitem
      obtain ⟨t, ht⟩ := Option.isSome_iff_exists.mp (hall item (hxs item hitem))
      exact ⟨t, ht, by rw [ht]; rfl⟩
    rw [hread items fun _ h => h, hread items' fun x hx => h.mem_iff.mp hx]
    exact .some (h.map _)
  · have hnone : ∀ xs : List (EvidenceItem F), (∀ x, x ∈ xs ↔ x ∈ items) →
        inputs.readItems xs = none := by
      intro xs hxs
      rw [Option.eq_none_iff_forall_not_mem]
      intro rows hrows
      apply hall
      intro item hitem
      obtain ⟨t, ht, -⟩ := mem_of_readItems hrows ((hxs item).mpr hitem)
      rw [ht]
      rfl
    rw [hnone items fun _ => Iff.rfl, hnone items' fun _ => h.mem_iff]
    exact .none

end Assessment

theorem rel_map {α β γ δ : Type} {r : α → β → Prop} {s : γ → δ → Prop} {f : α → γ} {g : β → δ}
    (hfg : ∀ x y, r x y → s (f x) (g y)) {a : Option α} {b : Option β} (h : Option.Rel r a b) :
    Option.Rel s (a.map f) (b.map g) := by
  cases h with
  | none => exact .none
  | some hxy => exact .some (hfg _ _ hxy)

/-- The assessment of permuted evidence agrees, or neither list is assessed. -/
theorem assessEvidence_perm (rt : Runtime) (lib : Primitives) (rules : EvidencePolicyRules ℚ)
    (verifier : EvidenceAttestationVerifier) (now : Int) (request : DecisionRequest ℚ)
    {items : List (EvidenceItem ℚ)} (hperm : items.Perm request.evidence) :
    Option.Rel SameEvidence (assessEvidence rt lib rules verifier now request)
      (assessEvidence rt lib rules verifier now { request with evidence := items }) := by
  unfold assessEvidence
  have hread := EvidenceInputs.readItems_perm
    ⟨rt, lib, verifier, rules, request.action.target, now⟩ hperm
  refine rel_map ?_ hread
  intro rows rows' hrows
  exact (sameTally_run hrows).toAssessment

/-! ## §4 The decision -/

/-- The decisions agree in everything but the digests and the order of the assessed
items. -/
structure SameDecision {F : Type} (d d' : DecisionRecord F) : Prop where
  outcome : d'.outcome = d.outcome
  reasonCodes : d'.reasonCodes = d.reasonCodes
  applicableRules : d'.applicableRules = d.applicableRules
  constraints : d'.constraints = d.constraints
  permittedAction : d'.permittedAction = d.permittedAction
  evidence : Option.Rel SameEvidence d.evidence d'.evidence

section Decision

variable {F : Type} (inputs : DecisionInputs F) (items : List (EvidenceItem F))
  (e : EvidenceAssessment F)

/-- The same decision inputs on another list of items and its assessment. -/
def DecisionInputs.reassessed : DecisionInputs F :=
  { inputs with request := { inputs.request with evidence := items }, evidence := e }

variable {inputs items e}

theorem condition_reassessed (h : SameEvidence inputs.evidence e) (c : RuleCondition) :
    (inputs.reassessed items e).condition c = inputs.condition c := by
  cases c with
  | evidenceFatal =>
    simp only [DecisionInputs.condition, DecisionInputs.reassessed, h.invalidEvidenceIds,
      h.poisonedEvidenceIds]
  | evidenceNotAutomationGrade =>
    simp only [DecisionInputs.condition, DecisionInputs.reassessed, h.automationGrade]
  | _ => rfl

theorem selectedRule_reassessed (h : SameEvidence inputs.evidence e) :
    (inputs.reassessed items e).selectedRule = inputs.selectedRule := by
  unfold DecisionInputs.selectedRule
  simp only [condition_reassessed h]
  rfl

theorem orderedReasons_reassessed (h : SameEvidence inputs.evidence e) :
    orderedReasons (inputs.reassessed items e).reasons = orderedReasons inputs.reasons := by
  apply orderedReasons_congr
  intro r
  show r ∈ inputs.authority.reasonCodes ++ e.reasonCodes ++ inputs.consequence.reasonCodes ++ _ ++
    _ ++ _ ++ _ ++ _ ++ flag (e.automationGrade = true) _ ++ _ ↔ _
  simp only [DecisionInputs.reasons, List.mem_append, h.reasonCodes, h.automationGrade]
  rfl

variable [PyFloat F] {rt : Runtime} {issuer : Option (ApprovalIssuer F)}

/-- Decisions on assessments that agree, agree. -/
theorem sameDecision_reassessed (h : SameEvidence inputs.evidence e) {d d' : DecisionRecord F}
    (hd : buildDecision rt inputs issuer = some d)
    (hd' : buildDecision rt (inputs.reassessed items e) issuer = some d') : SameDecision d d' := by
  obtain ⟨rule, requirement, hrule, rfl⟩ := buildDecision_eq_some hd
  obtain ⟨rule', requirement', hrule', rfl⟩ := buildDecision_eq_some hd'
  rw [selectedRule_reassessed h, hrule] at hrule'
  cases hrule'
  have hreasons := @orderedReasons_reassessed F inputs items e h
  have hconstraints : (inputs.reassessed items e).constraints = inputs.constraints := rfl
  have hpermitted : (inputs.reassessed items e).permittedAction rule.outcome =
      inputs.permittedAction rule.outcome := rfl
  have hevidence : Option.Rel SameEvidence (some inputs.evidence)
      (some (inputs.reassessed items e).evidence) := .some h
  constructor
  case outcome => rfl
  case reasonCodes => exact hreasons
  case applicableRules => rfl
  case constraints => exact hconstraints
  case permittedAction => exact hpermitted
  case evidence => exact hevidence

/-- With an issuer that does not raise both calls return or both raise. -/
theorem buildDecision_reassessed_isSome (h : SameEvidence inputs.evidence e)
    (hissuer : ∀ issue ∈ issuer, ∀ args, (issue args).isSome = true) :
    (buildDecision rt (inputs.reassessed items e) issuer).isSome =
      (buildDecision rt inputs issuer).isSome := by
  unfold buildDecision
  rw [selectedRule_reassessed h]
  cases inputs.selectedRule with
  | none => simp only [Option.bind_eq_bind, Option.bind_none]
  | some rule =>
    by_cases hescalate : rule.outcome = .escalate
    · cases issuer with
      | none => simp [hescalate]
      | some issue =>
        have hbind : ∀ (args : ApprovalArgs F) (f : ApprovalRequirement → DecisionRecord F),
            ((issue args).bind fun x => some (f x)).isSome = true := by
          intro args f
          obtain ⟨requirement, hissue⟩ := Option.isSome_iff_exists.mp (hissuer issue rfl args)
          rw [hissue]
          rfl
        simp [hescalate, hbind]
    · simp [hescalate]

end Decision

/-- The evaluation of a request with another list of items. -/
theorem evaluationInputs_reassessed {F : Type} [PyFloat F] (policy : Policy F)
    (principal : AuthenticatedPrincipal) (now : Int) (decisionId : String)
    (request : DecisionRequest F) (items : List (EvidenceItem F)) (target : TargetRecord)
    (e e' : EvidenceAssessment F) :
    evaluationInputs policy principal now decisionId { request with evidence := items } target e' =
      (evaluationInputs policy principal now decisionId request target e).reassessed items e' :=
  rfl

/-- The order of a request's evidence changes neither the assessment nor the decision: the
same grade, strength and counts, the same lists of stale, missing, invalid and poisoned
entries, and the same outcome, reasons, rules, constraints and permitted action. -/
theorem evidence_order (rt : Runtime) (lib : Primitives) (policy : Policy ℚ)
    (verifier : EvidenceAttestationVerifier) (principal : AuthenticatedPrincipal) (now : Int)
    (decisionId : String) (issuer : Option (ApprovalIssuer ℚ)) (request : DecisionRequest ℚ)
    (items : List (EvidenceItem ℚ)) (hperm : items.Perm request.evidence) :
    let evaluate := evaluateRequest rt lib policy verifier principal now decisionId issuer
    let request' := { request with evidence := items }
    Option.Rel SameEvidence (assessEvidence rt lib policy.evidence verifier now request)
        (assessEvidence rt lib policy.evidence verifier now request') ∧
      (∀ d d', evaluate request = some d → evaluate request' = some d' → SameDecision d d') ∧
      ((∀ issue ∈ issuer, ∀ args, (issue args).isSome = true) →
        (evaluate request').isSome = (evaluate request).isSome) := by
  intro evaluate request'
  have hassess := assessEvidence_perm rt lib policy.evidence verifier now request hperm
  refine ⟨hassess, fun d d' hd hd' => ?_, fun hissuer => ?_⟩
  · obtain ⟨target, e, htarget, he, hbuild⟩ := evaluateRequest_eq_some hd
    obtain ⟨target', e', htarget', he', hbuild'⟩ := evaluateRequest_eq_some hd'
    rw [show policy.targetRecord request'.action.target = some target from htarget] at htarget'
    cases htarget'
    rw [he, he'] at hassess
    cases hassess with
    | some hsame => exact sameDecision_reassessed hsame hbuild hbuild'
  · simp only [evaluate, evaluateRequest]
    generalize assessEvidence rt lib policy.evidence verifier now request = e at hassess ⊢
    generalize assessEvidence rt lib policy.evidence verifier now request' = e' at hassess ⊢
    cases policy.targetRecord request.action.target with
    | none => simp only [Option.bind_eq_bind, Option.bind_none]
    | some target =>
      cases hassess with
      | none => simp only [Option.bind_eq_bind, Option.bind_some, Option.bind_none]
      | @some e e' hsame =>
        simp only [Option.bind_eq_bind, Option.bind_some]
        rw [evaluationInputs_reassessed policy principal now decisionId request items target e e']
        exact buildDecision_reassessed_isSome hsame hissuer

/-- The example request with its evidence in reverse order. -/
theorem evidence_order_reverse :
    Option.Rel SameEvidence
      (assessEvidence newYearRuntime plainPrimitives (shippedPolicy : Policy ℚ).evidence
        exampleVerifier 1767225602000000 exampleRequest)
      (assessEvidence newYearRuntime plainPrimitives (shippedPolicy : Policy ℚ).evidence
        exampleVerifier 1767225602000000
        { exampleRequest with evidence := exampleRequest.evidence.reverse }) :=
  (evidence_order newYearRuntime plainPrimitives shippedPolicy exampleVerifier examplePrincipal
    1767225602000000 "decision-1" none exampleRequest _ (List.reverse_perm _)).1

end DecisionFirewall.Phase3
