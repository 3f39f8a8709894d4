import DecisionFirewall.Phase3.Attestation
import DecisionFirewall.Lib.Tally

/-!
# Evidence Assessment

`assess_evidence` of `phase3/evidence.py`: what one iteration of its loop reads off an
item, the tallies that the loop keeps, and the assessment made of them.

- §1 reason codes
- §2 one item
- §3 the tallies
- §4 the assessment
- §5 valid items
- §6 automation grade
-/

namespace DecisionFirewall.Phase3

open Lib.Tally

variable {F : Type}

/-! ## §1 Reason codes -/

/-- `_INSTRUCTION_PATTERNS`. -/
def INSTRUCTION_PATTERNS : List String :=
  ["\\bignore\\s+(all\\s+)?(prior|previous|policy)\\b",
    "\\b(system|assistant|developer)\\s*:\\s*",
    "\\b(bypass|disable|override)\\s+(the\\s+)?(firewall|policy|control)\\b",
    "\\breturn\\s+(allow|approved)\\b"]

/-- `fatal_reasons`: staleness is not among them. -/
def FATAL_REASONS : List String :=
  ["EVIDENCE_SOURCE_UNTRUSTED", "EVIDENCE_SUBJECT_MISMATCH", "EVIDENCE_SOURCE_TYPE_MISMATCH",
    "EVIDENCE_TRUST_CLAIM_MISMATCH", "EVIDENCE_PROVENANCE_INVALID",
    "EVIDENCE_PROVENANCE_SIGNATURE_INVALID", "EVIDENCE_INTEGRITY_INVALID",
    "EVIDENCE_CONTENT_DIGEST_MISMATCH", "FUTURE_EVIDENCE", "PROMPT_INJECTION_DETECTED",
    "EVIDENCE_RELIABILITY_BELOW_MINIMUM", "EVIDENCE_RELEVANCE_BELOW_MINIMUM"]

/-- `_parse_timestamp(value)`: a final `Z` is read as the UTC offset. -/
def parseTimestamp (rt : Runtime) (value : String) : Option Int :=
  rt.fromisoformat (if value.toList.getLast? = some 'Z' then
    String.ofList (value.toList.dropLast ++ "+00:00".toList) else value)

/-! ## §2 One item -/

/-- What `assess_evidence` is given besides the items. -/
structure EvidenceInputs (F : Type) where
  runtime : Runtime
  lib : Primitives
  verifier : EvidenceAttestationVerifier
  rules : EvidencePolicyRules F
  /-- `request.action.target` -/
  target : String
  /-- `evaluated_at` -/
  now : Int

namespace EvidenceInputs

variable [PyFloat F] (inputs : EvidenceInputs F) (item : EvidenceItem F) (age : Int)

/-- `source_record`. -/
def sourceRecord : Option (TrustedSourcePolicy F) := inputs.rules.trustedSource item.sourceInstance

def registryReliability : F :=
  ((inputs.sourceRecord item).map TrustedSourcePolicy.reliability).getD (PyFloat.ofInt 0)

def registryTrust : TrustLevel :=
  ((inputs.sourceRecord item).map TrustedSourcePolicy.trustLevel).getD .untrusted

/-- The reasons that the source registry gives. -/
def sourceReasons : List String :=
  match inputs.sourceRecord item with
  | none => ["EVIDENCE_SOURCE_UNTRUSTED"]
  | some s =>
    flag (s.sourceType ≠ item.sourceType) "EVIDENCE_SOURCE_TYPE_MISMATCH" ++
      flag (PyFloat.isclose item.reliability s.reliability = false ∨
        item.trustLevel ≠ s.trustLevel) "EVIDENCE_TRUST_CLAIM_MISMATCH"

def signatureValid : Bool := inputs.verifier.verify inputs.lib item

def provenanceVerified : Bool :=
  item.provenance.id ≠ "" && item.provenance.verified && inputs.signatureValid item

def integrityVerified : Bool := item.integrity.status = .verified

def digestMatches : Bool := item.ContentDigestMatches inputs.runtime

/-- `freshness` of an item of the given age in microseconds. -/
def freshness : Freshness :=
  if PyFloat.lt (PyFloat.totalSeconds age : F) (PyFloat.ofInt 0) then .future
  else if PyFloat.lt (PyFloat.ofInt inputs.rules.maximumAgeSeconds)
    (PyFloat.totalSeconds age : F) then .stale
  else .fresh

def freshnessFactor : F :=
  match inputs.freshness age with
  | .fresh => PyFloat.sub (PyFloat.ofInt 1) (PyFloat.mul (PyFloat.ratio 1 4)
      (PyFloat.div (PyFloat.totalSeconds age) (PyFloat.ofInt inputs.rules.maximumAgeSeconds)))
  | .future | .stale => PyFloat.ofInt 0

/-- `serialized_content`. -/
def serializedContent (item : EvidenceItem F) : String :=
  item.untrustedText ++ "\n" ++ canonicalJson (.obj item.payload)

def poisoned : Bool :=
  INSTRUCTION_PATTERNS.any fun pattern => inputs.lib.search pattern (serializedContent item)

/-- `item_reasons`. -/
def itemReasons : List String :=
  flag (item.subjectTargetId ≠ inputs.target) "EVIDENCE_SUBJECT_MISMATCH" ++
    inputs.sourceReasons item ++
    flag (inputs.provenanceVerified item = false) "EVIDENCE_PROVENANCE_INVALID" ++
    flag (inputs.signatureValid item = false) "EVIDENCE_PROVENANCE_SIGNATURE_INVALID" ++
    flag (integrityVerified item = false) "EVIDENCE_INTEGRITY_INVALID" ++
    flag (inputs.digestMatches item = false) "EVIDENCE_CONTENT_DIGEST_MISMATCH" ++
    flag (inputs.freshness age = .future) "FUTURE_EVIDENCE" ++
    flag (inputs.freshness age = .stale) "STALE_EVIDENCE" ++
    flag (inputs.poisoned item = true) "PROMPT_INJECTION_DETECTED" ++
    flag (PyFloat.lt item.reliability inputs.rules.minimumReliability = true)
      "EVIDENCE_RELIABILITY_BELOW_MINIMUM" ++
    flag (PyFloat.lt item.relevance inputs.rules.minimumRelevance = true)
      "EVIDENCE_RELEVANCE_BELOW_MINIMUM"

/-- `valid`: no reason is fatal. -/
def valid : Bool := (inputs.itemReasons item age).all fun r => r ∉ FATAL_REASONS

def trustWeight : F := inputs.rules.trustWeights (inputs.registryTrust item)

/-- `score`, before it is rounded. -/
def score : F :=
  if inputs.valid item age then
    PyFloat.mul (PyFloat.mul (PyFloat.mul (inputs.registryReliability item)
      (inputs.trustWeight item)) item.relevance) (inputs.freshnessFactor age)
  else PyFloat.ofInt 0

def assessment : EvidenceItemAssessment F where
  evidenceId := item.id
  subjectTargetId := item.subjectTargetId
  sourceType := item.sourceType
  sourceInstance := item.sourceInstance
  provenanceVerified := inputs.provenanceVerified item
  integrityVerified := integrityVerified item
  contentDigestMatches := inputs.digestMatches item
  freshness := inputs.freshness age
  ageSeconds := PyFloat.round6 (PyFloat.totalSeconds age)
  reliability := inputs.registryReliability item
  trustWeight := inputs.trustWeight item
  relevance := item.relevance
  supports := item.supports
  contradicts := item.contradicts
  poisoned := inputs.poisoned item
  score := PyFloat.round6 (inputs.score item age)
  reasonCodes := (inputs.itemReasons item age).eraseDups

/-- `source_key`. -/
def sourceKey (item : EvidenceItem F) : String × String := (item.sourceType, item.sourceInstance)

def supportsHypothesis : Bool := inputs.rules.hypothesisClaim ∈ item.supports

def contradictsHypothesis : Bool := inputs.rules.hypothesisClaim ∈ item.contradicts

/-- The item counts as corroboration. -/
def corroborates : Bool :=
  inputs.valid item age && inputs.freshness age = .fresh && inputs.supportsHypothesis item &&
    PyFloat.lt (PyFloat.ofInt 0) (inputs.score item age)

/-- The item counts as a conflict. -/
def conflicts : Bool := inputs.valid item age && inputs.contradictsHypothesis item

end EvidenceInputs

/-! ## §3 The tallies -/

/-- The accumulators of the loop; sets are lists without repetition. -/
structure EvidenceTally (F : Type) where
  assessed : List (EvidenceItemAssessment F)
  invalidIds : List String
  staleIds : List String
  poisonedIds : List String
  validSourceTypes : List String
  corroboratingInstances : List (String × String)
  conflictInstances : List (String × String)
  supportingScores : List ((String × String) × F)
  aggregateReasons : List String

namespace EvidenceTally

def empty : EvidenceTally F := ⟨[], [], [], [], [], [], [], [], []⟩

variable [PyFloat F]

/-- `supporting_scores_by_instance[key] = max(score, …get(key, 0.0))`. -/
def raiseScore (scores : List ((String × String) × F)) (key : String × String) (score : F) :
    List ((String × String) × F) :=
  if scores.any fun s => s.1 = key then
    scores.map fun s => if s.1 = key then (key, PyFloat.max score s.2) else s
  else scores ++ [(key, PyFloat.max score (PyFloat.ofInt 0))]

/-- One iteration of the loop, on an item and its age. -/
def add (inputs : EvidenceInputs F) (t : EvidenceTally F) (row : EvidenceItem F × Int) :
    EvidenceTally F :=
  let (item, age) := row
  let valid := inputs.valid item age
  let corroborates := inputs.corroborates item age
  let key := EvidenceInputs.sourceKey item
  { assessed := t.assessed ++ [inputs.assessment item age]
    invalidIds := t.invalidIds ++ flag (valid = false) item.id
    staleIds := t.staleIds ++ flag (inputs.freshness age = .stale) item.id
    poisonedIds := t.poisonedIds ++ flag (inputs.poisoned item = true) item.id
    validSourceTypes := addAll t.validSourceTypes (flag (valid = true) item.sourceType)
    corroboratingInstances := addAll t.corroboratingInstances (flag (corroborates = true) key)
    conflictInstances := addAll t.conflictInstances (flag (inputs.conflicts item age = true) key)
    supportingScores := if corroborates then
      raiseScore t.supportingScores key (inputs.score item age) else t.supportingScores
    aggregateReasons := t.aggregateReasons ++ inputs.itemReasons item age }

/-- The loop. -/
def run (inputs : EvidenceInputs F) (rows : List (EvidenceItem F × Int)) : EvidenceTally F :=
  rows.foldl (add inputs) empty

end EvidenceTally

/-! ## §4 The assessment -/

section Assess

variable [PyFloat F]

/-- The items with their ages; `none` is a `ValueError` on a timestamp. -/
def EvidenceInputs.readItems (inputs : EvidenceInputs F) (items : List (EvidenceItem F)) :
    Option (List (EvidenceItem F × Int)) :=
  items.mapM fun item =>
    (parseTimestamp inputs.runtime item.observedAt).map fun observedAt =>
      (item, inputs.now - observedAt)

namespace EvidenceTally

variable (rules : EvidencePolicyRules F) (t : EvidenceTally F)

/-- `missing`. -/
def missing : List String :=
  sortedTexts (rules.requiredSourceTypes.dedup.filter (· ∉ t.validSourceTypes))

def overallStrength : F :=
  if t.supportingScores = [] then PyFloat.ofInt 0
  else PyFloat.div (PyFloat.fsum (t.supportingScores.map Prod.snd))
    (PyFloat.ofInt t.supportingScores.length)

def decisionGrade : Bool := t.invalidIds = [] && t.assessed ≠ []

def automationGrade : Bool :=
  t.decisionGrade && t.staleIds = [] && t.missing rules = [] &&
    (t.conflictInstances.length : Int) ≤ rules.maximumConflictsForAllow &&
    rules.minimumCorroboratingSources ≤ t.corroboratingInstances.length &&
    PyFloat.lt (PyFloat.ofInt 0) t.overallStrength &&
    PyFloat.ge t.overallStrength rules.minimumOverallStrengthForAllow

/-- `aggregate_reasons` after the loop. -/
def reasons : List String :=
  t.aggregateReasons ++
    flag (t.missing rules ≠ []) "MISSING_EXPECTED_EVIDENCE" ++
    flag (t.conflictInstances ≠ []) "CONFLICTING_EVIDENCE" ++
    flag ((t.corroboratingInstances.length : Int) < rules.minimumCorroboratingSources)
      "INSUFFICIENT_CORROBORATION" ++
    flag (PyFloat.lt t.overallStrength rules.minimumOverallStrengthForAllow = true)
      "INSUFFICIENT_EVIDENCE_STRENGTH"

def toAssessment : EvidenceAssessment F where
  overallStrength := PyFloat.round6 t.overallStrength
  decisionGrade := t.decisionGrade
  automationGrade := t.automationGrade rules
  corroboratingSources := t.corroboratingInstances.length
  conflictCount := t.conflictInstances.length
  staleEvidenceIds := sortedTexts t.staleIds
  missingExpectedSources := t.missing rules
  invalidEvidenceIds := sortedTexts t.invalidIds
  poisonedEvidenceIds := sortedTexts t.poisonedIds
  assessedItems := t.assessed
  reasonCodes := (t.reasons rules).eraseDups

end EvidenceTally

/-- `assess_evidence(request, …)`. -/
def assessEvidence (rt : Runtime) (lib : Primitives) (rules : EvidencePolicyRules F)
    (verifier : EvidenceAttestationVerifier) (now : Int) (request : DecisionRequest F) :
    Option (EvidenceAssessment F) :=
  let inputs : EvidenceInputs F := ⟨rt, lib, verifier, rules, request.action.target, now⟩
  (inputs.readItems request.evidence).map fun rows =>
    (EvidenceTally.run inputs rows).toAssessment rules

/-! ## §5 Valid items -/

/-- What a valid item has passed. -/
structure Admitted (inputs : EvidenceInputs F) (item : EvidenceItem F) (age : Int) : Prop where
  subject : item.subjectTargetId = inputs.target
  /-- the source is registered, with the type and the trust that the item claims -/
  source : ∃ s, inputs.sourceRecord item = some s ∧ s.sourceType = item.sourceType ∧
    PyFloat.isclose item.reliability s.reliability = true ∧ item.trustLevel = s.trustLevel
  provenance : item.provenance.id ≠ "" ∧ item.provenance.verified = true ∧
    inputs.verifier.verify inputs.lib item = true
  integrity : item.integrity.status = .verified ∧ item.ContentDigestMatches inputs.runtime
  notFuture : inputs.freshness age ≠ .future
  clean : inputs.poisoned item = false
  reliability : PyFloat.lt item.reliability inputs.rules.minimumReliability = false
  relevance : PyFloat.lt item.relevance inputs.rules.minimumRelevance = false

namespace EvidenceInputs

variable (inputs : EvidenceInputs F) (item : EvidenceItem F) (age : Int)

/-- No fatal reason is recorded exactly when each check passes. -/
theorem valid_iff : inputs.valid item age = true ↔
    (∀ r ∈ inputs.sourceReasons item, r ∉ FATAL_REASONS) ∧
      item.subjectTargetId = inputs.target ∧ inputs.provenanceVerified item = true ∧
      inputs.signatureValid item = true ∧ integrityVerified item = true ∧
      inputs.digestMatches item = true ∧ inputs.freshness age ≠ .future ∧
      inputs.poisoned item = false ∧
      PyFloat.lt item.reliability inputs.rules.minimumReliability = false ∧
      PyFloat.lt item.relevance inputs.rules.minimumRelevance = false := by
  have hfatal : ∀ r, decide (r ∉ FATAL_REASONS) = true ↔ r ∉ FATAL_REASONS := by simp
  have hstale : "STALE_EVIDENCE" ∉ FATAL_REASONS := by decide
  simp only [valid, itemReasons, List.all_append, Bool.and_eq_true, all_flag, hfatal]
  simp only [FATAL_REASONS, List.mem_cons]
  simp [List.all_eq_true]
  tauto

/-- The registry gives no reason exactly to an item that claims what it says. -/
theorem sourceReasons_iff : (∀ r ∈ inputs.sourceReasons item, r ∉ FATAL_REASONS) ↔
    ∃ s, inputs.sourceRecord item = some s ∧ s.sourceType = item.sourceType ∧
      PyFloat.isclose item.reliability s.reliability = true ∧
      item.trustLevel = s.trustLevel := by
  have htype : "EVIDENCE_SOURCE_TYPE_MISMATCH" ∈ FATAL_REASONS := by decide
  have htrust : "EVIDENCE_TRUST_CLAIM_MISMATCH" ∈ FATAL_REASONS := by decide
  unfold sourceReasons
  cases hs : inputs.sourceRecord item with
  | none =>
    have huntrusted : "EVIDENCE_SOURCE_UNTRUSTED" ∈ FATAL_REASONS := by decide
    simp [huntrusted]
  | some s =>
    simp only [List.mem_append, mem_flag, Option.some.injEq, exists_eq_left']
    constructor
    · intro h
      have h₁ : s.sourceType = item.sourceType := by
        by_contra hne
        exact h _ (.inl ⟨hne, rfl⟩) htype
      have h₂ : ¬ (PyFloat.isclose item.reliability s.reliability = false ∨
          item.trustLevel ≠ s.trustLevel) := fun hne => h _ (.inr ⟨hne, rfl⟩) htrust
      rw [not_or, Bool.not_eq_false, ne_eq, not_not] at h₂
      exact ⟨h₁, h₂⟩
    · rintro ⟨h₁, h₂, h₃⟩ r (⟨hne, -⟩ | ⟨hne, -⟩)
      · exact absurd h₁ hne
      · rcases hne with hne | hne
        · rw [h₂] at hne
          cases hne
        · exact absurd h₃ hne

/-- An item is valid exactly when it is admitted. -/
theorem valid_iff_admitted : inputs.valid item age = true ↔ Admitted inputs item age := by
  rw [valid_iff, sourceReasons_iff]
  simp only [provenanceVerified, signatureValid, integrityVerified, digestMatches,
    Bool.and_eq_true, decide_eq_true_eq]
  constructor
  · rintro ⟨hsource, hsubject, ⟨⟨hid, hverified⟩, hsignature⟩, -, hstatus, hdigest, hfuture, hclean,
      hreliability, hrelevance⟩
    exact ⟨hsubject, hsource, ⟨hid, hverified, hsignature⟩, ⟨hstatus, hdigest⟩, hfuture, hclean,
      hreliability, hrelevance⟩
  · intro h
    exact ⟨h.source, h.subject, ⟨⟨h.provenance.1, h.provenance.2.1⟩, h.provenance.2.2⟩,
      h.provenance.2.2, h.integrity.1, h.integrity.2, h.notFuture, h.clean, h.reliability,
      h.relevance⟩

end EvidenceInputs

/-! ## §6 Automation grade -/

namespace EvidenceTally

variable {inputs : EvidenceInputs F} {rows : List (EvidenceItem F × Int)}

theorem run_invalidIds : (run inputs rows).invalidIds =
    rows.flatMap fun row => flag (inputs.valid row.1 row.2 = false) row.1.id :=
  foldl_append_field invalidIds (fun _ _ => rfl) empty rows

theorem run_staleIds : (run inputs rows).staleIds =
    rows.flatMap fun row => flag (inputs.freshness row.2 = .stale) row.1.id :=
  foldl_append_field staleIds (fun _ _ => rfl) empty rows

theorem run_poisonedIds : (run inputs rows).poisonedIds =
    rows.flatMap fun row => flag (inputs.poisoned row.1 = true) row.1.id :=
  foldl_append_field poisonedIds (fun _ _ => rfl) empty rows

theorem run_validSourceTypes : (run inputs rows).validSourceTypes =
    addAll [] (rows.flatMap fun row =>
      flag (inputs.valid row.1 row.2 = true) row.1.sourceType) :=
  foldl_addAll_field validSourceTypes (fun _ _ => rfl) empty rows

theorem run_corroboratingInstances : (run inputs rows).corroboratingInstances =
    addAll [] (rows.flatMap fun row =>
      flag (inputs.corroborates row.1 row.2 = true) (EvidenceInputs.sourceKey row.1)) :=
  foldl_addAll_field corroboratingInstances (fun _ _ => rfl) empty rows

theorem run_conflictInstances : (run inputs rows).conflictInstances =
    addAll [] (rows.flatMap fun row =>
      flag (inputs.conflicts row.1 row.2 = true) (EvidenceInputs.sourceKey row.1)) :=
  foldl_addAll_field conflictInstances (fun _ _ => rfl) empty rows

/-- What automation grade says of the items, their sources and the hypothesis. -/
structure AutomationGrade (inputs : EvidenceInputs F) (rows : List (EvidenceItem F × Int)) :
    Prop where
  admitted : ∀ row ∈ rows, Admitted inputs row.1 row.2 ∧ inputs.freshness row.2 = .fresh
  conflicts : ((run inputs rows).conflictInstances.length : Int) ≤
    inputs.rules.maximumConflictsForAllow
  corroboration : inputs.rules.minimumCorroboratingSources ≤
    (run inputs rows).corroboratingInstances.length
  required : ∀ t ∈ inputs.rules.requiredSourceTypes, ∃ row ∈ rows, row.1.sourceType = t

theorem automationGrade_sound (h : (run inputs rows).automationGrade inputs.rules = true) :
    AutomationGrade inputs rows := by
  simp only [automationGrade, decisionGrade, Bool.and_eq_true, decide_eq_true_eq] at h
  obtain ⟨⟨⟨⟨⟨⟨⟨hinvalid, -⟩, hstale⟩, hmissing⟩, hconflicts⟩, hcorroboration⟩, -⟩, -⟩ := h
  have hvalid : ∀ row ∈ rows, inputs.valid row.1 row.2 = true := by
    intro row hrow
    rw [run_invalidIds, List.flatMap_eq_nil_iff] at hinvalid
    simpa [flag_eq_nil] using hinvalid row hrow
  have hfresh : ∀ row ∈ rows, inputs.freshness row.2 ≠ .stale := by
    intro row hrow
    rw [run_staleIds, List.flatMap_eq_nil_iff] at hstale
    simpa [flag_eq_nil] using hstale row hrow
  refine ⟨?_, hconflicts, hcorroboration, ?_⟩
  · intro row hrow
    have hadmitted := (inputs.valid_iff_admitted row.1 row.2).mp (hvalid row hrow)
    refine ⟨hadmitted, ?_⟩
    -- neither from the future nor stale
    have h₁ := hadmitted.notFuture
    have h₂ := hfresh row hrow
    cases hf : inputs.freshness row.2 with
    | future => exact absurd hf h₁
    | stale => exact absurd hf h₂
    | fresh => rfl
  · intro t ht
    by_contra hno
    have hmem : t ∈ (run inputs rows).missing inputs.rules := by
      have hnot : t ∉ (run inputs rows).validSourceTypes := by
        rw [run_validSourceTypes, mem_addAll]
        rintro (h | h)
        · exact absurd h List.not_mem_nil
        · obtain ⟨row, hrow, htype⟩ := List.mem_flatMap.mp h
          exact hno ⟨row, hrow, (mem_flag.mp htype).2.symm⟩
      simp only [missing, sortedTexts, List.mem_mergeSort, List.mem_filter, List.mem_dedup,
        decide_eq_true_eq]
      exact ⟨ht, hnot⟩
    rw [hmissing] at hmem
    exact absurd hmem List.not_mem_nil

/-- Each corroborating instance is the source of an item that corroborates. -/
theorem mem_corroboratingInstances {key : String × String} :
    key ∈ (run inputs rows).corroboratingInstances ↔
      ∃ row ∈ rows, inputs.corroborates row.1 row.2 = true ∧
        key = EvidenceInputs.sourceKey row.1 := by
  rw [run_corroboratingInstances, mem_addAll]
  simp only [List.not_mem_nil, false_or, List.mem_flatMap, mem_flag]

/-- No two corroborating keys name one instance: the registry fixes the type. -/
theorem nodup_corroboratingInstances :
    ((run inputs rows).corroboratingInstances.map Prod.snd).Nodup := by
  have hnodup : (run inputs rows).corroboratingInstances.Nodup := by
    rw [run_corroboratingInstances]
    exact nodup_addAll List.nodup_nil
  refine List.Nodup.map_on ?_ hnodup
  intro key hkey key' hkey' hsnd
  have hregistered : ∀ k ∈ (run inputs rows).corroboratingInstances,
      ∃ s, inputs.rules.trustedSource k.2 = some s ∧ s.sourceType = k.1 := by
    intro k hk
    obtain ⟨row, -, hcorroborates, rfl⟩ := mem_corroboratingInstances.mp hk
    have hvalid : inputs.valid row.1 row.2 = true := by
      simp only [EvidenceInputs.corroborates, Bool.and_eq_true] at hcorroborates
      exact hcorroborates.1.1.1
    obtain ⟨s, hs, htype, -⟩ := ((inputs.valid_iff_admitted _ _).mp hvalid).source
    exact ⟨s, hs, htype⟩
  obtain ⟨s, hs, htype⟩ := hregistered key hkey
  obtain ⟨s', hs', htype'⟩ := hregistered key' hkey'
  rw [← hsnd, hs] at hs'
  cases hs'
  exact Prod.ext (htype.symm.trans htype') hsnd

/-- No valid item contradicts the hypothesis when no conflict is counted. -/
theorem not_contradicts (hconflicts : (run inputs rows).conflictInstances = [])
    {row : EvidenceItem F × Int} (hrow : row ∈ rows)
    (hvalid : inputs.valid row.1 row.2 = true) :
    inputs.rules.hypothesisClaim ∉ row.1.contradicts := by
  intro hcontradicts
  have hmem : EvidenceInputs.sourceKey row.1 ∈ (run inputs rows).conflictInstances := by
    rw [run_conflictInstances, mem_addAll]
    refine .inr (List.mem_flatMap.mpr ⟨row, hrow, mem_flag.mpr ⟨?_, rfl⟩⟩)
    simp only [EvidenceInputs.conflicts, EvidenceInputs.contradictsHypothesis, hvalid,
      hcontradicts, decide_true, Bool.and_self]
  rw [hconflicts] at hmem
  exact absurd hmem List.not_mem_nil

end EvidenceTally

omit [PyFloat F] in
/-- The items are read in order, each with its age. -/
theorem EvidenceInputs.readItems_eq_some {inputs : EvidenceInputs F}
    {items : List (EvidenceItem F)} {rows : List (EvidenceItem F × Int)} :
    inputs.readItems items = some rows ↔
      List.Forall₂ (fun item row => ∃ t, parseTimestamp inputs.runtime item.observedAt = some t ∧
        row = (item, inputs.now - t)) items rows := by
  unfold readItems
  induction items generalizing rows with
  | nil =>
    simp only [List.mapM_nil, Option.pure_def, Option.some.injEq, List.forall₂_nil_left_iff]
    exact eq_comm
  | cons item items ih =>
    cases ht : parseTimestamp inputs.runtime item.observedAt with
    | none => simp [List.mapM_cons, ht, List.forall₂_cons_left_iff]
    | some t =>
      simp only [List.mapM_cons, ht, Option.map_some, List.forall₂_cons_left_iff, Option.some.injEq,
        exists_eq_left', Option.bind_eq_bind, Option.bind_some, Option.bind_eq_some_iff, ih,
        Option.pure_def]
      constructor
      · rintro ⟨rest, hrest, rfl⟩
        exact ⟨_, rest, rfl, hrest, rfl⟩
      · rintro ⟨row, rest, rfl, hrest, rfl⟩
        exact ⟨rest, hrest, rfl⟩

omit [PyFloat F] in
/-- Every row was read from an item. -/
theorem EvidenceInputs.fst_mem_of_readItems {inputs : EvidenceInputs F}
    {items : List (EvidenceItem F)} {rows : List (EvidenceItem F × Int)}
    (h : inputs.readItems items = some rows) {row : EvidenceItem F × Int} (hrow : row ∈ rows) :
    row.1 ∈ items := by
  have hforall := readItems_eq_some.mp h
  obtain ⟨n, hn, rfl⟩ := List.mem_iff_getElem.mp hrow
  have hlen : n < items.length := hforall.length_eq ▸ hn
  obtain ⟨t, -, heq⟩ := (List.forall₂_iff_get.mp hforall).2 n hlen hn
  have hfst : rows[n].1 = items[n] := congrArg Prod.fst heq
  rw [hfst]
  exact List.getElem_mem hlen

omit [PyFloat F] in
/-- Every item is read, at its age. -/
theorem EvidenceInputs.mem_of_readItems {inputs : EvidenceInputs F}
    {items : List (EvidenceItem F)} {rows : List (EvidenceItem F × Int)}
    (h : inputs.readItems items = some rows) {item : EvidenceItem F} (hitem : item ∈ items) :
    ∃ t, parseTimestamp inputs.runtime item.observedAt = some t ∧ (item, inputs.now - t) ∈ rows := by
  have hforall := readItems_eq_some.mp h
  obtain ⟨n, hn, rfl⟩ := List.mem_iff_getElem.mp hitem
  have hlen : n < rows.length := hforall.length_eq ▸ hn
  obtain ⟨t, ht, heq⟩ := (List.forall₂_iff_get.mp hforall).2 n hn hlen
  exact ⟨t, ht, heq ▸ List.getElem_mem hlen⟩

/-- Freshness is a bound on the age in microseconds. -/
theorem EvidenceInputs.freshness_eq_fresh [LawfulPyFloat F] {inputs : EvidenceInputs F} {age : Int}
    (hmax : 0 ≤ inputs.rules.maximumAgeSeconds ∧ inputs.rules.maximumAgeSeconds ≤ 604800) :
    inputs.freshness age = .fresh ↔
      0 ≤ age ∧ age ≤ inputs.rules.maximumAgeSeconds * 1000000 := by
  unfold freshness
  simp only [LawfulPyFloat.totalSeconds_lt 0 _ (by omega) (by omega),
    LawfulPyFloat.lt_totalSeconds _ _ (by omega) hmax.2]
  split_ifs with hfuture hstale
  · simp only [false_iff, not_and]
    omega
  · simp only [false_iff, not_and]
    omega
  · simp only [true_iff]
    omega

end Assess

end DecisionFirewall.Phase3
