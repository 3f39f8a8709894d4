import DecisionFirewall.Phase3.Policy

/-!
# Evidence Attestation

The attestation of an evidence item (`phase3/attestation.py`): which of its fields a
source signs, how the signature is checked, and what two valid signatures have in
common.

- §1 the content
- §2 the signed text
- §3 the verifier
- §4 what a signature pins
-/

namespace DecisionFirewall.Phase3

variable {F : Type}

/-- `sorted(values)` of texts: by code points. -/
def sortedTexts (values : List String) : List String :=
  values.mergeSort fun a b => decide (a ≤ b)

/-- Sorting undoes a permutation. -/
theorem sortedTexts_perm {xs ys : List String} (h : xs.Perm ys) :
    sortedTexts xs = sortedTexts ys := by
  have hsort : ∀ zs : List String, (sortedTexts zs).Pairwise (· ≤ ·) := by
    intro zs
    have htrans : ∀ a b c : String, decide (a ≤ b) = true → decide (b ≤ c) = true →
        decide (a ≤ c) = true := by
      intro a b c hab hbc
      exact decide_eq_true (le_trans (of_decide_eq_true hab) (of_decide_eq_true hbc))
    have htotal : ∀ a b : String, (decide (a ≤ b) || decide (b ≤ a)) = true := by
      intro a b
      simpa using le_total a b
    simpa [sortedTexts] using List.pairwise_mergeSort htrans htotal zs
  refine List.Perm.eq_of_pairwise (fun a b _ _ hab hba => le_antisymm hab hba) (hsort xs)
    (hsort ys) ?_
  exact (List.mergeSort_perm xs _).trans (h.trans (List.mergeSort_perm ys _).symm)

theorem perm_of_sortedTexts {xs ys : List String} (h : sortedTexts xs = sortedTexts ys) :
    xs.Perm ys := by
  have hx : (sortedTexts xs).Perm xs := List.mergeSort_perm _ _
  have hy : (sortedTexts ys).Perm ys := List.mergeSort_perm _ _
  rw [h] at hx
  exact hx.symm.trans hy

/-! ## §1 The content -/

/-- The digest of the content determines the content's canonical text. -/
theorem canonicalJson_content_eq {rt : Runtime} {e e' : EvidenceItem F}
    (h : e.ContentDigestMatches rt) (h' : e'.ContentDigestMatches rt)
    (hcontent : e.integrity.contentSha256 = e'.integrity.contentSha256)
    (hsha : Set.InjOn rt.sha256 {canonicalJson (.obj e.content), canonicalJson (.obj e'.content)}) :
    canonicalJson (.obj e.content) = canonicalJson (.obj e'.content) := by
  apply hsha (by simp) (by simp)
  calc rt.sha256 (canonicalJson (.obj e.content)) = e.integrity.contentSha256 := h
    _ = e'.integrity.contentSha256 := hcontent
    _ = rt.sha256 (canonicalJson (.obj e'.content)) := h'.symm

/-- The canonical text of the content determines that of the payload and the free text. -/
theorem content_parts_eq {e e' : EvidenceItem F}
    (h : canonicalJson (.obj e.content) = canonicalJson (.obj e'.content)) :
    canonicalJson (.obj e.payload) = canonicalJson (.obj e'.payload) ∧
      e.untrustedText = e'.untrustedText := by
  have hok : ∀ item : EvidenceItem F, Json.NumbersOkFields item.content :=
    fun item => ⟨item.numbersOk, trivial, trivial⟩
  have hkeys : e.content.map Prod.fst = e'.content.map Prod.fst := rfl
  have hnodup : (e.content.map Prod.fst).Nodup := by simp [EvidenceItem.content]
  have hvalues := Json.values_eq_of_canonicalJson (hok e) (hok e') hkeys hnodup h
  simp only [EvidenceItem.content, List.map_cons, List.map_nil, Json.sorted, List.cons.injEq,
    Json.str.injEq, and_true] at hvalues
  have htext : ∀ payload : Dict,
      canonicalJson (.obj payload) = String.ofList (Json.obj payload).sorted.text := by
    intro payload
    rw [canonicalJson, Json.render_eq_text]
  refine ⟨?_, hvalues.2⟩
  rw [htext, htext]
  simp only [Json.sorted, hvalues.1]

variable [PyFloat F]

/-! ## §2 The signed text -/

namespace EvidenceItem

/-- `evidence_attestation_payload` of the item. -/
def attestationPayload (item : EvidenceItem F) : Dict :=
  [("evidence_id", .str item.id),
    ("subject_target_id", .str item.subjectTargetId),
    ("source_type", .str item.sourceType),
    ("source_instance", .str item.sourceInstance),
    ("provenance_id", .str item.provenance.id),
    ("provenance_verified", .bool item.provenance.verified),
    ("integrity_status", .str item.integrity.status.text),
    ("observed_at", .str item.observedAt),
    ("content_sha256", .str item.integrity.contentSha256),
    ("supports", strs (sortedTexts item.supports)),
    ("contradicts", strs (sortedTexts item.contradicts)),
    ("relevance", PyFloat.toJson item.relevance)]

/-- The text that the source signs. -/
def attestationText (item : EvidenceItem F) : String :=
  canonicalJson (.obj item.attestationPayload)

end EvidenceItem

/-! ## §3 The verifier -/

abbrev Bytes := List UInt8

/-- The library functions that attestation and screening call, besides those of the
runtime. -/
structure Primitives where
  /-- `hmac.new(key, text.encode("utf-8"), hashlib.sha256).hexdigest()` -/
  hmacSha256 : Bytes → String → String
  /-- `re.compile(pattern, re.IGNORECASE).search(text)` finds a match -/
  search : String → String → Bool

/-- `sign_evidence_attestation`, under a key of at least 32 bytes. -/
def signEvidenceAttestation (lib : Primitives) (key : Bytes) (item : EvidenceItem F) : String :=
  lib.hmacSha256 key item.attestationText

/-- `EvidenceAttestationVerifier`: the key table that its constructor admits. -/
structure EvidenceAttestationVerifier where
  keys : List (String × Bytes)
  names : (keys.map Prod.fst).Nodup ∧ ∀ k ∈ keys, k.1 ≠ ""
  /-- keys with different digests are different -/
  distinct : (keys.map Prod.snd).Nodup
  length : ∀ k ∈ keys, 32 ≤ k.2.length

namespace EvidenceAttestationVerifier

variable (lib : Primitives) (v : EvidenceAttestationVerifier)

/-- `verify(item)`. -/
def verify (item : EvidenceItem F) : Bool :=
  match v.keys.lookup item.sourceInstance with
  | none => false
  | some key => signEvidenceAttestation lib key item = item.provenance.signature

theorem verify_eq_true {lib : Primitives} {v : EvidenceAttestationVerifier}
    {item : EvidenceItem F} (h : v.verify lib item = true) :
    ∃ key, v.keys.lookup item.sourceInstance = some key ∧
      lib.hmacSha256 key item.attestationText = item.provenance.signature := by
  unfold verify at h
  cases hkey : v.keys.lookup item.sourceInstance with
  | none => simp [hkey] at h
  | some key =>
    rw [hkey] at h
    exact ⟨key, rfl, of_decide_eq_true h⟩

end EvidenceAttestationVerifier

/-! ## §4 What a signature pins -/

/-- Two items carry the same signed fields. -/
structure SameAttested (e e' : EvidenceItem F) : Prop where
  id : e.id = e'.id
  subjectTargetId : e.subjectTargetId = e'.subjectTargetId
  sourceType : e.sourceType = e'.sourceType
  sourceInstance : e.sourceInstance = e'.sourceInstance
  provenanceId : e.provenance.id = e'.provenance.id
  provenanceVerified : e.provenance.verified = e'.provenance.verified
  integrityStatus : e.integrity.status = e'.integrity.status
  observedAt : e.observedAt = e'.observedAt
  contentSha256 : e.integrity.contentSha256 = e'.integrity.contentSha256
  supports : e.supports.Perm e'.supports
  contradicts : e.contradicts.Perm e'.contradicts
  relevance : e.relevance = e'.relevance

theorem EvidenceIntegrityStatus.text_injective :
    Function.Injective EvidenceIntegrityStatus.text := by
  intro s t h
  cases s <;> cases t <;> first | rfl | simp [EvidenceIntegrityStatus.text] at h

theorem strs_injective : Function.Injective strs := by
  intro xs ys h
  exact List.map_injective_iff.mpr Json.str_injective (Json.arr.inj h)

variable [LawfulPyFloat F]

theorem numbersOk_toJson (x : F) : (PyFloat.toJson x).NumbersOk :=
  LawfulPyFloat.isFloatText_repr x

theorem toJson_injective : Function.Injective (PyFloat.toJson : F → Json) := by
  intro x y h
  exact LawfulPyFloat.repr_injective (Json.float.inj h)

/-- The signed text determines the signed fields, up to the order of the two lists. -/
theorem sameAttested_of_text {e e' : EvidenceItem F}
    (h : e.attestationText = e'.attestationText) : SameAttested e e' := by
  have hok : ∀ item : EvidenceItem F, Json.NumbersOkFields item.attestationPayload := by
    intro item
    simp [EvidenceItem.attestationPayload, Json.NumbersOkFields, Json.NumbersOk, strs,
      numbersOk_toJson]
  have hkeys : e.attestationPayload.map Prod.fst = e'.attestationPayload.map Prod.fst := rfl
  have hnodup : (e.attestationPayload.map Prod.fst).Nodup := by
    simp [EvidenceItem.attestationPayload]
  have hvalues := Json.values_eq_of_canonicalJson (hok e) (hok e') hkeys hnodup h
  simp only [EvidenceItem.attestationPayload, List.map_cons, List.map_nil, Json.sorted, strs,
    PyFloat.toJson, Json.sortedItems_map_str, List.cons.injEq, Json.str.injEq, Json.bool.injEq,
    and_true] at hvalues
  obtain ⟨hid, hsubject, htype, hinstance, hprovenance, hverified, hstatus, hobserved, hcontent,
    hsupports, hcontradicts, hrelevance⟩ := hvalues
  exact {
    id := hid
    subjectTargetId := hsubject
    sourceType := htype
    sourceInstance := hinstance
    provenanceId := hprovenance
    provenanceVerified := hverified
    integrityStatus := EvidenceIntegrityStatus.text_injective hstatus
    observedAt := hobserved
    contentSha256 := hcontent
    supports := perm_of_sortedTexts (strs_injective hsupports)
    contradicts := perm_of_sortedTexts (strs_injective hcontradicts)
    relevance := toJson_injective hrelevance }

/-- Two verified items of one source with one signature carry the same signed fields,
unless the key has a collision on their texts. -/
theorem sameAttested_of_verify {lib : Primitives} {v : EvidenceAttestationVerifier}
    {e e' : EvidenceItem F} (hv : v.verify lib e = true) (hv' : v.verify lib e' = true)
    (hinstance : e.sourceInstance = e'.sourceInstance)
    (hsignature : e.provenance.signature = e'.provenance.signature)
    (hhmac : ∀ key, v.keys.lookup e.sourceInstance = some key →
      Set.InjOn (lib.hmacSha256 key) {e.attestationText, e'.attestationText}) :
    SameAttested e e' := by
  obtain ⟨key, hkey, htag⟩ := EvidenceAttestationVerifier.verify_eq_true hv
  obtain ⟨key', hkey', htag'⟩ := EvidenceAttestationVerifier.verify_eq_true hv'
  -- one source has one key
  have hsame : key' = key := by
    rw [← hinstance, hkey] at hkey'
    exact (Option.some.inj hkey').symm
  rw [hsame] at htag'
  apply sameAttested_of_text
  apply hhmac key hkey (by simp) (by simp)
  rw [htag, htag', hsignature]

end DecisionFirewall.Phase3
