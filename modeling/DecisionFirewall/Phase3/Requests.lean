import DecisionFirewall.Phase3.Evidence

/-!
# Validated Requests

`validate_decision_request_dict` of `phase3/contracts.py`, as it sees a typed request:
the decision-request schema, the bounds on size and depth, and the rules that the schema
cannot state.

- §1 the schema
- §2 sizes and times
- §3 validation

A typed request writes the integers 0 and 1 of its number fields as `0.0` and `1.0`, so
that its text can be longer than the one it was read from; every other check sees in it
what it saw there. The schema is the one under `contracts/`.
-/

namespace DecisionFirewall.Phase3

variable {F : Type}

/-! ## §1 The schema -/

/-- `claimCode`, the pattern `^[A-Z][A-Z0-9_:-]{0,63}$`. -/
def IsClaimCode (s : String) : Prop :=
  let core := if s.toList.getLast? = some '\n' then s.toList.dropLast else s.toList
  core.length ≤ 64 ∧ (∃ c ∈ core.head?, c.isUpper = true) ∧
    ∀ c ∈ core, c.isUpper = true ∨ c.isDigit = true ∨ c ∈ ['_', ':', '-']

/-- The pattern `^[0-9a-f]{64}$`. -/
def IsHexDigest (s : String) : Prop :=
  let core := if s.toList.getLast? = some '\n' then s.toList.dropLast else s.toList
  core.length = 64 ∧ ∀ c ∈ core, c ∈ "0123456789abcdef".toList

instance decidableIsClaimCode (s : String) : Decidable (IsClaimCode s) :=
  inferInstanceAs (Decidable (_ ∧ _ ∧ _))

instance decidableIsHexDigest (s : String) : Decidable (IsHexDigest s) :=
  inferInstanceAs (Decidable (_ ∧ _))

/-- An array of at most `bound` distinct identifiers. -/
def IsIdentifierSet (bound : Nat) (xs : List String) : Prop :=
  xs.length ≤ bound ∧ xs.Nodup ∧ ∀ x ∈ xs, IsSchemaIdentifier x

/-- An array of at most 16 distinct claim codes. -/
def IsClaimSet (xs : List String) : Prop :=
  xs.length ≤ 16 ∧ xs.Nodup ∧ ∀ x ∈ xs, IsClaimCode x

instance decidableIsIdentifierSet (bound : Nat) (xs : List String) :
    Decidable (IsIdentifierSet bound xs) :=
  inferInstanceAs (Decidable (_ ∧ _ ∧ _))

instance decidableIsClaimSet (xs : List String) : Decidable (IsClaimSet xs) :=
  inferInstanceAs (Decidable (_ ∧ _ ∧ _))

/-- `agentClaims`. -/
structure AgentClaims.SchemaValid (a : AgentClaims) : Prop where
  names : IsSchemaIdentifier a.id ∧ IsSchemaIdentifier a.type
  roles : IsIdentifierSet 32 a.roles
  authority : IsIdentifierSet 32 a.authority

/-- `action`. -/
structure ActionRequest.SchemaValid (a : ActionRequest) : Prop where
  target : IsSchemaIdentifier a.target
  duration : 60 ≤ a.parameters.durationSeconds ∧ a.parameters.durationSeconds ≤ 86400

/-- `targetClaims`. -/
structure TargetClaims.SchemaValid (t : TargetClaims) : Prop where
  id : IsSchemaIdentifier t.id
  dependencies : IsIdentifierSet 32 t.dependencies

/-- `evidence`. -/
structure EvidenceItem.SchemaValid [PyFloat F] (item : EvidenceItem F) : Prop where
  names : IsSchemaIdentifier item.id ∧ IsSchemaIdentifier item.subjectTargetId ∧
    IsSchemaIdentifier item.sourceType ∧ IsSchemaIdentifier item.sourceInstance ∧
      IsSchemaIdentifier item.provenance.id
  digests : IsHexDigest item.provenance.signature ∧ IsHexDigest item.integrity.contentSha256
  numbers : InUnit item.reliability ∧ InUnit item.relevance
  claims : IsClaimSet item.supports ∧ IsClaimSet item.contradicts
  payload : item.payload.length ≤ 64
  text : item.untrustedText.length ≤ 16384

instance decidableAgentSchemaValid (a : AgentClaims) : Decidable a.SchemaValid :=
  decidable_of_iff ((IsSchemaIdentifier a.id ∧ IsSchemaIdentifier a.type) ∧
      IsIdentifierSet 32 a.roles ∧ IsIdentifierSet 32 a.authority)
    ⟨fun ⟨h₁, h₂, h₃⟩ => ⟨h₁, h₂, h₃⟩, fun h => ⟨h.names, h.roles, h.authority⟩⟩

instance decidableActionSchemaValid (a : ActionRequest) : Decidable a.SchemaValid :=
  decidable_of_iff (IsSchemaIdentifier a.target ∧
      60 ≤ a.parameters.durationSeconds ∧ a.parameters.durationSeconds ≤ 86400)
    ⟨fun ⟨h₁, h₂⟩ => ⟨h₁, h₂⟩, fun h => ⟨h.target, h.duration⟩⟩

instance decidableTargetSchemaValid (t : TargetClaims) : Decidable t.SchemaValid :=
  decidable_of_iff (IsSchemaIdentifier t.id ∧ IsIdentifierSet 32 t.dependencies)
    ⟨fun ⟨h₁, h₂⟩ => ⟨h₁, h₂⟩, fun h => ⟨h.id, h.dependencies⟩⟩

instance decidableItemSchemaValid [PyFloat F] (item : EvidenceItem F) :
    Decidable item.SchemaValid :=
  decidable_of_iff ((IsSchemaIdentifier item.id ∧ IsSchemaIdentifier item.subjectTargetId ∧
      IsSchemaIdentifier item.sourceType ∧ IsSchemaIdentifier item.sourceInstance ∧
        IsSchemaIdentifier item.provenance.id) ∧
      (IsHexDigest item.provenance.signature ∧ IsHexDigest item.integrity.contentSha256) ∧
      (InUnit item.reliability ∧ InUnit item.relevance) ∧
      (IsClaimSet item.supports ∧ IsClaimSet item.contradicts) ∧
      item.payload.length ≤ 64 ∧ item.untrustedText.length ≤ 16384)
    ⟨fun ⟨h₁, h₂, h₃, h₄, h₅, h₆⟩ => ⟨h₁, h₂, h₃, h₄, h₅, h₆⟩,
      fun h => ⟨h.names, h.digests, h.numbers, h.claims, h.payload, h.text⟩⟩

/-! ## §2 Sizes and times -/

mutual

/-- `_json_depth(value)`. -/
def jsonDepth : Json → Nat
  | .arr xs => 1 + jsonDepthItems xs
  | .obj fields => 1 + jsonDepthFields fields
  | _ => 1

def jsonDepthItems : List Json → Nat
  | [] => 0
  | x :: xs => max (jsonDepth x) (jsonDepthItems xs)

def jsonDepthFields : List (String × Json) → Nat
  | [] => 0
  | (_, v) :: fields => max (jsonDepth v) (jsonDepthFields fields)

end

/-- `_encoded_size(value)`: the canonical text is ASCII. -/
def encodedSize (value : Json) : Nat := (canonicalJson value).length

mutual

/-- A bound on the length of a value's text that does not sort its members. -/
def sizeBound : Json → Nat
  | .null => 4
  | .bool _ => 5
  | .int n => (toString n).length
  | .float repr => repr.length
  | .str s => 12 * s.length + 2
  | .arr xs => 2 + sizeBoundItems xs
  | .obj fields => 2 + sizeBoundFields fields

def sizeBoundItems : List Json → Nat
  | [] => 0
  | x :: xs => sizeBound x + 1 + sizeBoundItems xs

def sizeBoundFields : List (String × Json) → Nat
  | [] => 0
  | (k, v) :: fields => 12 * k.length + 2 + sizeBound v + 2 + sizeBoundFields fields

end

mutual

theorem length_render_le : (v : Json) → v.render.length ≤ sizeBound v
  | .null => le_refl 4
  | .bool true => Nat.le_succ 4
  | .bool false => le_refl 5
  | .int n => (String.length_toList ▸ le_refl _ : (toString n).toList.length ≤ (toString n).length)
  | .float repr => (String.length_toList ▸ le_refl _ : repr.toList.length ≤ repr.length)
  | .str s => Json.length_renderString_le s
  | .arr xs => by
    have hjoin := Json.length_joinComma_le (Json.renderItems xs)
    have hitems := sum_renderItems_le xs
    simp only [Json.render, sizeBound, List.length_append, List.length_cons, List.length_nil]
    omega
  | .obj fields => by
    have hobj := Json.length_render_obj_le fields
    have hfields := sum_renderFields_le fields
    simp only [sizeBound]
    omega

theorem sum_renderItems_le : (xs : List Json) →
    ((Json.renderItems xs).map fun p => p.length + 1).sum ≤ sizeBoundItems xs
  | [] => le_refl 0
  | x :: xs => by
    have hx := length_render_le x
    have hxs := sum_renderItems_le xs
    simp only [Json.renderItems, List.map_cons, List.sum_cons, sizeBoundItems]
    omega

theorem sum_renderFields_le : (fields : List (String × Json)) →
    (fields.map fun f => (Json.renderString f.1).length + f.2.render.length + 2).sum ≤
      sizeBoundFields fields
  | [] => le_refl 0
  | (k, v) :: fields => by
    have hk := Json.length_renderString_le k
    have hv := length_render_le v
    have hfields := sum_renderFields_le fields
    simp only [List.map_cons, List.sum_cons, sizeBoundFields]
    omega

end

mutual

/-- The bound holds of every order of the members. -/
theorem length_text_le : (v : Json) → v.text.length ≤ sizeBound v
  | .null => le_refl 4
  | .bool true => Nat.le_succ 4
  | .bool false => le_refl 5
  | .int n => (String.length_toList ▸ le_refl _ : (toString n).toList.length ≤ (toString n).length)
  | .float repr => (String.length_toList ▸ le_refl _ : repr.toList.length ≤ repr.length)
  | .str s => Json.length_renderString_le s
  | .arr xs => by
    have hjoin := Json.length_joinComma_le (Json.textItems xs)
    have hitems := sum_textItems_le xs
    simp only [Json.text, sizeBound, List.length_append, List.length_cons, List.length_nil]
    omega
  | .obj fields => by
    have hjoin := Json.length_joinComma_le (Json.textFields fields)
    have hfields := sum_textFields_le fields
    simp only [Json.text, sizeBound, List.length_append, List.length_cons, List.length_nil]
    omega

theorem sum_textItems_le : (xs : List Json) →
    ((Json.textItems xs).map fun p => p.length + 1).sum ≤ sizeBoundItems xs
  | [] => le_refl 0
  | x :: xs => by
    have hx := length_text_le x
    have hxs := sum_textItems_le xs
    simp only [Json.textItems, List.map_cons, List.sum_cons, sizeBoundItems]
    omega

theorem sum_textFields_le : (fields : List (String × Json)) →
    ((Json.textFields fields).map fun p => p.length + 1).sum ≤ sizeBoundFields fields
  | [] => le_refl 0
  | (k, v) :: fields => by
    have hk := Json.length_renderString_le k
    have hv := length_text_le v
    have hfields := sum_textFields_le fields
    simp only [Json.textFields, List.map_cons, List.sum_cons, sizeBoundFields, List.length_append,
      List.length_cons]
    omega

end

/-- A weight that adds up, and in which punctuation counts once, adds up over the members of an
object. -/
theorem weight_render_obj {weight : List Char → Nat}
    (happend : ∀ xs ys, weight (xs ++ ys) = weight xs + weight ys)
    (hone : ∀ c ∈ ['{', '}', ':', ','], weight [c] = 1) {fields : Dict} (h : fields ≠ []) :
    weight (Json.obj fields).render = 1 + (fields.map fun f =>
      weight (Json.renderString f.1) + weight f.2.render + 2).sum := by
  simp only [List.forall_mem_cons] at hone
  obtain ⟨hopen, hclose, hcolon, hcomma, -⟩ := hone
  have hcons : ∀ c xs, weight (c :: xs) = weight [c] + weight xs := fun c xs => happend [c] xs
  have hjoin : ∀ parts : List (List Char), parts ≠ [] →
      weight (Json.joinComma parts) + 1 = (parts.map fun p => weight p + 1).sum := by
    intro parts hparts
    induction parts with
    | nil => exact absurd rfl hparts
    | cons x rest ih =>
      cases rest with
      | nil => simp [Json.joinComma]
      | cons y rest =>
        have ih := ih (by simp)
        simp only [List.map_cons, List.sum_cons] at ih ⊢
        rw [Json.joinComma, happend, hcons, hcomma]
        omega
  have hmembers := hjoin ((Json.sortMembers (Json.renderFields fields)).map
    fun member => Json.renderString member.1 ++ ':' :: member.2) (by
      intro hnil
      have hlength := congrArg List.length hnil
      simp only [Json.sortMembers, List.length_map, List.length_mergeSort, List.length_nil,
        Json.renderFields_eq_map, List.length_eq_zero_iff] at hlength
      exact h hlength)
  -- the order of the members does not change the sum of their weights
  have hperm := (List.mergeSort_perm (Json.renderFields fields)
    fun a b => decide (a.1 ≤ b.1)).map
      fun member => weight (Json.renderString member.1 ++ ':' :: member.2) + 1
  have hsum := hperm.sum_eq
  rw [Json.renderFields_eq_map, List.map_map] at hsum
  have hterms : (fields.map ((fun member : String × List Char =>
      weight (Json.renderString member.1 ++ ':' :: member.2) + 1) ∘ fun f => (f.1, f.2.render))) =
      fields.map fun f => weight (Json.renderString f.1) + weight f.2.render + 2 := by
    apply List.map_congr_left
    intro f _
    simp only [Function.comp_apply]
    rw [happend, hcons, hcolon]
    omega
  rw [hterms, ← Json.renderFields_eq_map] at hsum
  rw [List.map_map] at hmembers
  rw [Json.render, happend, hcons, hopen, hclose]
  simp only [Json.sortMembers, Function.comp_def] at hmembers ⊢
  omega

/-- The whole length of an object is that of its members. -/
theorem length_render_obj {fields : Dict} (h : fields ≠ []) :
    (Json.obj fields).render.length = 1 + (fields.map fun f =>
      (Json.renderString f.1).length + f.2.render.length + 2).sum :=
  weight_render_obj (fun _ _ => List.length_append) (fun _ _ => rfl) h

theorem encodedSize_le (v : Json) : encodedSize v ≤ sizeBound v := by
  rw [encodedSize, length_canonicalJson]
  exact length_render_le v

def MAX_REQUEST_BYTES : Nat := 1024 * 1024

def MAX_JSON_DEPTH : Nat := 32

def MAX_CONTEXT_BYTES : Nat := 64 * 1024

def MAX_EVIDENCE_PAYLOAD_BYTES : Nat := 64 * 1024

/-- `MAX_REQUEST_FUTURE_SKEW` in microseconds. -/
def MAX_REQUEST_FUTURE_SKEW : Int := 5 * 60 * 1000000

/-- `MAX_REQUEST_AGE_SECONDS` of the engine, in microseconds. -/
def MAX_REQUEST_AGE : Int := 300 * 1000000

/-- The time of the request and that of its evidence are not too far in the future. -/
def DecisionRequest.TimesValid (rt : Runtime) (now : Int) (r : DecisionRequest F) : Prop :=
  ∃ t, parseTimestamp rt r.timestamp = some t ∧ t ≤ now + MAX_REQUEST_FUTURE_SKEW ∧
    ∀ item ∈ r.evidence, ∃ o, parseTimestamp rt item.observedAt = some o ∧
      o ≤ t + MAX_REQUEST_FUTURE_SKEW

instance decidableTimesValid (rt : Runtime) (now : Int) (r : DecisionRequest F) :
    Decidable (r.TimesValid rt now) :=
  decidable_of_iff ((parseTimestamp rt r.timestamp).any (fun t =>
      decide (t ≤ now + MAX_REQUEST_FUTURE_SKEW) && r.evidence.all fun item =>
        (parseTimestamp rt item.observedAt).any fun o => decide (o ≤ t + MAX_REQUEST_FUTURE_SKEW))
      = true)
    (by simp [DecisionRequest.TimesValid, Option.any_eq_true, List.all_eq_true])

/-! ## §3 Validation -/

namespace DecisionRequest

variable [PyFloat F]

/-- Everything that the validation checks at `now` but for the size of the whole text. -/
structure Validated (rt : Runtime) (now : Int) (r : DecisionRequest F) : Prop where
  depth : jsonDepth (.obj r.toDict) ≤ MAX_JSON_DEPTH
  schemaVersion : r.schemaVersion = "0.3.0"
  requestId : IsSchemaIdentifier r.requestId
  agent : r.agent.SchemaValid
  action : r.action.SchemaValid
  target : r.target.SchemaValid
  evidence : 1 ≤ r.evidence.length ∧ r.evidence.length ≤ 64 ∧
    ∀ item ∈ r.evidence, item.SchemaValid
  confidence : InUnit r.agentConfidence
  context : r.context.length ≤ 32 ∧ encodedSize (.obj r.context) ≤ MAX_CONTEXT_BYTES
  targetBinding : r.action.target = r.target.id
  evidenceIds : (r.evidence.map EvidenceItem.id).Nodup
  payloads : ∀ item ∈ r.evidence, encodedSize (.obj item.payload) ≤ MAX_EVIDENCE_PAYLOAD_BYTES
  stances : ∀ item ∈ r.evidence, ∀ claim ∈ item.supports, claim ∉ item.contradicts
  times : r.TimesValid rt now

/-- `validate_decision_request_dict(request.to_dict(), now=now)` returns the request. -/
def Revalidated (rt : Runtime) (now : Int) (r : DecisionRequest F) : Prop :=
  encodedSize (.obj r.toDict) ≤ MAX_REQUEST_BYTES ∧ r.Validated rt now

instance decidableValidated (rt : Runtime) (now : Int) (r : DecisionRequest F) :
    Decidable (r.Validated rt now) :=
  decidable_of_iff (jsonDepth (.obj r.toDict) ≤ MAX_JSON_DEPTH ∧ r.schemaVersion = "0.3.0" ∧
      IsSchemaIdentifier r.requestId ∧ r.agent.SchemaValid ∧ r.action.SchemaValid ∧
      r.target.SchemaValid ∧
      (1 ≤ r.evidence.length ∧ r.evidence.length ≤ 64 ∧ ∀ item ∈ r.evidence, item.SchemaValid) ∧
      InUnit r.agentConfidence ∧
      (r.context.length ≤ 32 ∧ encodedSize (.obj r.context) ≤ MAX_CONTEXT_BYTES) ∧
      r.action.target = r.target.id ∧ (r.evidence.map EvidenceItem.id).Nodup ∧
      (∀ item ∈ r.evidence, encodedSize (.obj item.payload) ≤ MAX_EVIDENCE_PAYLOAD_BYTES) ∧
      (∀ item ∈ r.evidence, ∀ claim ∈ item.supports, claim ∉ item.contradicts) ∧
      r.TimesValid rt now)
    ⟨fun ⟨h₁, h₂, h₃, h₄, h₅, h₆, h₇, h₈, h₉, h₁₀, h₁₁, h₁₂, h₁₃, h₁₄⟩ =>
        ⟨h₁, h₂, h₃, h₄, h₅, h₆, h₇, h₈, h₉, h₁₀, h₁₁, h₁₂, h₁₃, h₁₄⟩,
      fun h => ⟨h.depth, h.schemaVersion, h.requestId, h.agent, h.action, h.target, h.evidence,
        h.confidence, h.context, h.targetBinding, h.evidenceIds, h.payloads, h.stances, h.times⟩⟩

instance decidableRevalidated (rt : Runtime) (now : Int) (r : DecisionRequest F) :
    Decidable (r.Revalidated rt now) :=
  inferInstanceAs (Decidable (_ ∧ _))

/-- The preflight of the engine: the request is neither stale nor from the future. -/
def Preflight (rt : Runtime) (now : Int) (r : DecisionRequest F) : Prop :=
  ∃ t, parseTimestamp rt r.timestamp = some t ∧ -MAX_REQUEST_AGE ≤ now - t ∧
    now - t ≤ MAX_REQUEST_AGE

end DecisionRequest

end DecisionFirewall.Phase3
