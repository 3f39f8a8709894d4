import DecisionFirewall.Phase3.Evidence
import DecisionFirewall.Phase3.ShippedPolicy

/-!
# What an Attestation Pins

Everything that `assess_evidence` derives from a valid item is pinned by its signature,
by the digest of its content, or by the registry entry of its source: two valid items of
one source with one signature contribute the same.

- §1 valid items
- §2 same contribution
- §3 the pinning theorem
-/

namespace DecisionFirewall.Phase3

open Lib.Tally

variable {F : Type} [PyFloat F]

/-! ## §1 Valid items -/

/-- Staleness is the one reason that a valid item can carry. -/
theorem itemReasons_of_admitted {inputs : EvidenceInputs F} {item : EvidenceItem F} {age : Int}
    (h : Admitted inputs item age) :
    inputs.itemReasons item age = flag (inputs.freshness age = .stale) "STALE_EVIDENCE" := by
  obtain ⟨s, hs, htype, hclose, htrust⟩ := h.source
  have hsignature : inputs.signatureValid item = true := h.provenance.2.2
  have hprovenance : inputs.provenanceVerified item = true := by
    simp [EvidenceInputs.provenanceVerified, h.provenance.1, h.provenance.2.1, hsignature]
  have hintegrity : EvidenceInputs.integrityVerified item = true := decide_eq_true h.integrity.1
  have hdigest : inputs.digestMatches item = true := decide_eq_true h.integrity.2
  simp [EvidenceInputs.itemReasons, EvidenceInputs.sourceReasons, hs, htype, hclose, htrust,
    hsignature, hprovenance, hintegrity, hdigest, h.subject, h.notFuture, h.clean, h.reliability,
    h.relevance, flag]

/-! ## §2 Same contribution -/

/-- Two items, at their ages, bring the same into an assessment; their claims are listed
in either order. -/
structure SameContribution (inputs : EvidenceInputs F) (e e' : EvidenceItem F) (age age' : Int) :
    Prop where
  subjectTargetId : e.subjectTargetId = e'.subjectTargetId
  sourceKey : EvidenceInputs.sourceKey e = EvidenceInputs.sourceKey e'
  freshness : inputs.freshness age = inputs.freshness age'
  score : inputs.score e age = inputs.score e' age'
  supports : inputs.supportsHypothesis e = inputs.supportsHypothesis e'
  contradicts : inputs.contradictsHypothesis e = inputs.contradictsHypothesis e'
  poisoned : inputs.poisoned e = inputs.poisoned e'
  contentSha256 : e.computedContentSha256 inputs.runtime = e'.computedContentSha256 inputs.runtime
  reasons : inputs.itemReasons e age = inputs.itemReasons e' age'
  /-- the assessments agree but for the order of the claims -/
  assessment : { inputs.assessment e age with
      supports := e'.supports, contradicts := e'.contradicts } = inputs.assessment e' age'
  claims : e.supports.Perm e'.supports ∧ e.contradicts.Perm e'.contradicts
  /-- the tallies that decide the grade are the same after either item -/
  tally : ∀ t : EvidenceTally F,
    { EvidenceTally.add inputs t (e, age) with assessed := t.assessed } =
      { EvidenceTally.add inputs t (e', age') with assessed := t.assessed }

/-! ## §3 The pinning theorem -/

/-- Attestation covers everything that counts: two valid items of one source with one
signature contribute the same, as long as the source's key has no collision on their
signed texts and the digest has none on their contents. -/
theorem attestation_pins_contribution [LawfulPyFloat F] (inputs : EvidenceInputs F)
    (e e' : EvidenceItem F) (t t' : Int)
    (ht : parseTimestamp inputs.runtime e.observedAt = some t)
    (ht' : parseTimestamp inputs.runtime e'.observedAt = some t')
    (hinstance : e.sourceInstance = e'.sourceInstance)
    (hsignature : e.provenance.signature = e'.provenance.signature)
    (hvalid : inputs.valid e (inputs.now - t) = true)
    (hvalid' : inputs.valid e' (inputs.now - t') = true)
    (hhmac : ∀ key, inputs.verifier.keys.lookup e.sourceInstance = some key →
      Set.InjOn (inputs.lib.hmacSha256 key) {e.attestationText, e'.attestationText})
    (hsha : Set.InjOn inputs.runtime.sha256
      {canonicalJson (.obj e.content), canonicalJson (.obj e'.content)}) :
    SameContribution inputs e e' (inputs.now - t) (inputs.now - t') := by
  have hadmitted := (inputs.valid_iff_admitted e _).mp hvalid
  have hadmitted' := (inputs.valid_iff_admitted e' _).mp hvalid'
  -- the signature pins the signed fields, the digest the content
  have hsame := sameAttested_of_verify hadmitted.provenance.2.2 hadmitted'.provenance.2.2
    hinstance hsignature hhmac
  have hcontent := canonicalJson_content_eq hadmitted.integrity.2 hadmitted'.integrity.2
    hsame.contentSha256 hsha
  obtain ⟨hpayload, htext⟩ := content_parts_eq hcontent
  have htime : t = t' := by
    rw [hsame.observedAt, ht'] at ht
    exact (Option.some.inj ht).symm
  subst htime
  have hpoisoned : inputs.poisoned e = inputs.poisoned e' := by
    simp only [EvidenceInputs.poisoned, EvidenceInputs.serializedContent, hpayload, htext]
  -- the registry entry is that of the source instance
  have hreliability : inputs.registryReliability e = inputs.registryReliability e' := by
    simp only [EvidenceInputs.registryReliability, EvidenceInputs.sourceRecord, hinstance]
  have hweight : inputs.trustWeight e = inputs.trustWeight e' := by
    simp only [EvidenceInputs.trustWeight, EvidenceInputs.registryTrust,
      EvidenceInputs.sourceRecord, hinstance]
  have hscore : inputs.score e (inputs.now - t) = inputs.score e' (inputs.now - t) := by
    simp only [EvidenceInputs.score, hvalid, hvalid', if_true, hreliability, hweight,
      hsame.relevance]
  have hsupports : inputs.supportsHypothesis e = inputs.supportsHypothesis e' :=
    decide_eq_decide.mpr hsame.supports.mem_iff
  have hcontradicts : inputs.contradictsHypothesis e = inputs.contradictsHypothesis e' :=
    decide_eq_decide.mpr hsame.contradicts.mem_iff
  have hkey : EvidenceInputs.sourceKey e = EvidenceInputs.sourceKey e' :=
    Prod.ext hsame.sourceType hsame.sourceInstance
  have hreasons : inputs.itemReasons e (inputs.now - t) =
      inputs.itemReasons e' (inputs.now - t) := by
    rw [itemReasons_of_admitted hadmitted, itemReasons_of_admitted hadmitted']
  have hcorroborates : inputs.corroborates e (inputs.now - t) =
      inputs.corroborates e' (inputs.now - t) := by
    simp only [EvidenceInputs.corroborates, hvalid, hvalid', hsupports, hscore]
  have hconflicts : inputs.conflicts e (inputs.now - t) =
      inputs.conflicts e' (inputs.now - t) := by
    simp only [EvidenceInputs.conflicts, hvalid, hvalid', hcontradicts]
  have hprovenance : inputs.provenanceVerified e = inputs.provenanceVerified e' := by
    simp only [EvidenceInputs.provenanceVerified, EvidenceInputs.signatureValid,
      hadmitted.provenance, hadmitted'.provenance, ne_eq, not_false_eq_true]
  have hintegrity : EvidenceInputs.integrityVerified e = EvidenceInputs.integrityVerified e' := by
    simp only [EvidenceInputs.integrityVerified, hsame.integrityStatus]
  have hdigest : inputs.digestMatches e = inputs.digestMatches e' := by
    simp only [EvidenceInputs.digestMatches, hadmitted.integrity.2, hadmitted'.integrity.2]
  exact {
    subjectTargetId := hsame.subjectTargetId
    sourceKey := hkey
    freshness := rfl
    score := hscore
    supports := hsupports
    contradicts := hcontradicts
    poisoned := hpoisoned
    contentSha256 := congrArg inputs.runtime.sha256 hcontent
    reasons := hreasons
    assessment := by
      simp only [EvidenceInputs.assessment, hsame.id, hsame.subjectTargetId, hsame.sourceType,
        hsame.sourceInstance, hprovenance, hintegrity, hdigest, hreliability, hweight,
        hsame.relevance, hpoisoned, hscore, hreasons]
    claims := ⟨hsame.supports, hsame.contradicts⟩
    tally := by
      intro t
      simp only [EvidenceTally.add, hvalid, hvalid', hsame.id, hsame.sourceType, hpoisoned,
        hcorroborates, hconflicts, hkey, hscore, hreasons] }

/-- Two items that one source signed once: the second claims a reliability that differs
from the registered one within the tolerance. -/
def pinnedItem (reliability : ℚ) : EvidenceItem ℚ :=
  { exampleItem "e2" ⟨"EDR_PRIMARY", "endpoint", hundredths 96, .high⟩ ["COMPROMISE"] with
    reliability := reliability }

def pinnedInputs : EvidenceInputs ℚ :=
  ⟨newYearRuntime, plainPrimitives, exampleVerifier, shippedEvidence, "WORKSTATION_042",
    1767225600000000⟩

theorem attestation_pins_contribution_reliability :
    SameContribution pinnedInputs (pinnedItem (96 / 100)) (pinnedItem (96 / 100 + 1 / 10 ^ 13))
      0 0 := by
  have hsame : ∀ f : String → String, ∀ s : String, Set.InjOn f {s, s} := by
    intro f s
    simp
  exact attestation_pins_contribution pinnedInputs _ _ 1767225600000000 1767225600000000
    (by decide +kernel) (by decide +kernel) rfl rfl (by decide +kernel) (by decide +kernel)
    (fun _ _ => hsame _ _) (hsame _ _)

end DecisionFirewall.Phase3
