import DecisionFirewall.Base.JsonOrder
import DecisionFirewall.Lab.Contracts

/-!
# Signed Messages

What `sign_lab_message` accepts is loaded again from its bytes, and those bytes are good for
nothing else: not for another type, key or key identifier, and not with another content.

- §1 schemas and the order of members
- §2 messages that agree
- §3 the signed message
- §4 loading it
- §5 loading anything else
-/

namespace DecisionFirewall.Lab

open Json (Same)
open Phase3 (Primitives Bytes IsSchemaIdentifier IsHexDigest jsonDepth jsonDepthFields encodedSize)

variable {rt : Runtime} {lib : JsonLibrary} {crypto : Primitives}

/-! ## §1 Schemas and the order of members -/

/-- The predicate does not tell equal values apart. -/
def Blind (lib : JsonLibrary) (p : Json → Bool) : Prop :=
  ∀ v w, v.Readable lib → w.Readable lib → Same v w → p v = p w

namespace Schema

theorem blind_of_scalar {p : Json → Bool} (harr : ∀ xs, p (.arr xs) = false)
    (hobj : ∀ fs, p (.obj fs) = false) : Blind lib p :=
  fun _ _ _ _ h => h.scalar harr hobj

theorem blind_const (text : String) : Blind lib (const text) :=
  blind_of_scalar (fun _ => rfl) fun _ => rfl

theorem blind_constTrue : Blind lib constTrue := blind_of_scalar (fun _ => rfl) fun _ => rfl

theorem blind_boolean : Blind lib boolean := blind_of_scalar (fun _ => rfl) fun _ => rfl

theorem blind_enum (texts : List String) : Blind lib (enum texts) :=
  blind_of_scalar (fun _ => rfl) fun _ => rfl

theorem blind_integer (lo hi : Int) : Blind lib (integer lib lo hi) :=
  blind_of_scalar (fun _ => rfl) fun _ => rfl

theorem blind_identifier : Blind lib identifier := blind_of_scalar (fun _ => rfl) fun _ => rfl

theorem blind_sha256 : Blind lib sha256 := blind_of_scalar (fun _ => rfl) fun _ => rfl

theorem blind_nonce : Blind lib nonce := blind_of_scalar (fun _ => rfl) fun _ => rfl

theorem blind_timestamp : Blind lib timestamp := blind_of_scalar (fun _ => rfl) fun _ => rfl

/-- A property of equal objects. -/
theorem any_lookup_eq {p : Json → Bool} (hp : Blind lib p) {fs gs : Dict}
    (hf : (Json.obj fs).Readable lib) (hg : (Json.obj gs).Readable lib)
    (h : Same (.obj fs) (.obj gs)) (name : String) :
    (fs.lookup name).any p = (gs.lookup name).any p := by
  have hread : ∀ {d : Dict} {v : Json}, (Json.obj d).Readable lib → d.lookup name = some v →
      v.Readable lib := fun hd hv =>
    Json.readableFields_iff.mp hd.2 _ ((Json.lookup_eq_some_iff_mem hd.1).mp hv)
  cases hv : fs.lookup name with
  | none =>
    have hlookup := h.lookup hf.1 name
    rw [hv, Option.map_none] at hlookup
    rw [Option.map_eq_none_iff.mp hlookup.symm]
  | some v =>
    obtain ⟨w, hw, hsame⟩ := h.exists_lookup hf.1 hv
    rw [hw]
    exact hp v w (hread hf hv) (hread hg hw) hsame

/-- Equal objects have the same names. -/
theorem perm_names {fs gs : Dict} (hf : (fs.map Prod.fst).Nodup) (hg : (gs.map Prod.fst).Nodup)
    (h : Same (.obj fs) (.obj gs)) : (fs.map Prod.fst).Perm (gs.map Prod.fst) := by
  have hmem : ∀ (d : Dict) (name : String), name ∈ d.map Prod.fst ↔
      (d.lookup name).isSome = true := by
    intro d name
    rw [List.lookup_isSome_iff, List.mem_map]
    exact ⟨fun ⟨f, hf, hname⟩ => ⟨f, hf, by simp [hname]⟩,
      fun ⟨f, hf, hname⟩ => ⟨f, hf, (eq_of_beq hname).symm⟩⟩
  refine (List.perm_ext_iff_of_nodup hf hg).mpr fun name => ?_
  rw [hmem, hmem, h.isSome_lookup hf]

theorem blind_object {properties : List (String × (Json → Bool))}
    (h : ∀ p ∈ properties, Blind lib p.2) : Blind lib (object properties) := by
  intro v w hv hw hsame
  cases v with
  | obj fs =>
    obtain ⟨gs, rfl⟩ := hsame.symm.obj_of_obj
    have hall : properties.all (fun p => (fs.lookup p.1).any p.2) =
        properties.all fun p => (gs.lookup p.1).any p.2 := by
      rw [Bool.eq_iff_iff, List.all_eq_true, List.all_eq_true]
      exact forall₂_congr fun p hp => by rw [any_lookup_eq (h p hp) hv hw hsame p.1]
    have hnames : ∀ d : Dict, (d.all fun f => (properties.lookup f.1).isSome) =
        (d.map Prod.fst).all fun name => (properties.lookup name).isSome := by
      intro d
      rw [List.all_map]
      rfl
    simp only [object, hall]
    rw [hnames fs, hnames gs, (perm_names hv.1 hw.1 hsame).all_eq]
  | null | bool _ | int _ | float _ | str _ | arr _ =>
    cases w with
    | obj gs => cases hsame
    | null | bool _ | int _ | float _ | str _ | arr _ => rfl

theorem blind_authentication : Blind lib authentication := by
  apply blind_object
  simp only [List.forall_mem_cons, List.not_mem_nil, false_implies, implies_true, and_true]
  exact ⟨blind_identifier, blind_sha256⟩

end Schema

open Schema in
theorem MessageType.blind_schema (type : MessageType) : Blind lib (type.schema lib) := by
  cases type with
  | command =>
    apply blind_object
    have hparameters : Blind lib (object [("duration_seconds", integer lib 60 3600),
        ("preserve_management", constTrue),
        ("network_profile", const "LAB_BEACON_BLOCK_MANAGEMENT_ALLOW_V1")]) := by
      apply blind_object
      simp [blind_integer, blind_constTrue, blind_const]
    simp [blind_const, blind_identifier, blind_sha256, hparameters, blind_integer, blind_nonce,
      blind_timestamp, blind_authentication]
  | receipt =>
    apply blind_object
    simp [blind_const, blind_identifier, blind_sha256, blind_integer, blind_enum, blind_boolean,
      blind_timestamp, blind_authentication]
  | observationRequest =>
    apply blind_object
    simp [blind_const, blind_identifier, blind_sha256, blind_integer, blind_nonce, blind_timestamp,
      blind_authentication]
  | observation =>
    apply blind_object
    simp [blind_const, blind_identifier, blind_sha256, blind_integer, blind_boolean,
      blind_timestamp, blind_authentication]

/-! ## §2 Messages that agree -/

/-- The messages have equal members outside of their envelopes. -/
def Agree (message message' : Dict) : Prop :=
  ∀ name, name ≠ "authentication" →
    (message.lookup name).map Json.sorted = (message'.lookup name).map Json.sorted

theorem agree_of_same {message message' : Dict} (hnodup : (message.map Prod.fst).Nodup)
    (h : Same (.obj message) (.obj message')) : Agree message message' :=
  fun name _ => h.lookup hnodup name

section Agree

variable {message message' : Dict}

theorem Agree.get (h : Agree message message') (name : String) (hname : name ≠ "authentication") :
    Same (message.get name) (message'.get name) := by
  have hlookup := h name hname
  simp only [Dict.get]
  cases hm : message.lookup name with
  | none =>
    rw [hm, Option.map_none] at hlookup
    rw [Option.map_eq_none_iff.mp hlookup.symm]
    exact .refl _
  | some v =>
    rw [hm, Option.map_some] at hlookup
    obtain ⟨w, hw, hsame⟩ := Option.map_eq_some_iff.mp hlookup.symm
    rw [hw]
    exact hsame.symm

theorem Agree.textOf (h : Agree message message') (name : String) (hname : name ≠ "authentication") :
    textOf message' name = textOf message name := by
  have hsame := h.get name hname
  unfold Lab.textOf
  generalize message.get name = v at hsame
  generalize message'.get name = w at hsame
  cases v <;> cases w <;> first
    | rfl
    | (cases hsame <;> rfl)

theorem Agree.not_versionUnsupported (h : Agree message message')
    (hversion : ¬ VersionUnsupported message) : ¬ VersionUnsupported message' := by
  rintro ⟨w, hw, hconst⟩
  have hlookup := h "schema_version" (by decide)
  rw [Option.mem_def.mp hw, Option.map_some] at hlookup
  obtain ⟨v, hv, hsame⟩ := Option.map_eq_some_iff.mp hlookup
  refine hversion ⟨v, hv, ?_⟩
  rw [← hconst]
  exact Same.scalar (fun _ => rfl) (fun _ => rfl) hsame

theorem Agree.validateTimes (h : Agree message message') (type : MessageType) (now : Int)
    (allowExpired : Bool) :
    validateTimes rt type message' now allowExpired = validateTimes rt type message now allowExpired := by
  have hissued := h.textOf "issued_at" (by decide)
  have hexpires := h.textOf "expires_at" (by decide)
  have hexecuted := h.textOf "executed_at" (by decide)
  have hobserved := h.textOf "observed_at" (by decide)
  have hrecorded := h.textOf "recorded_at" (by decide)
  cases type with
  | command => simp only [Lab.validateTimes, validateCommandTimes, hissued, hexpires]
  | observationRequest => simp only [Lab.validateTimes, validateCommandTimes, hissued, hexpires]
  | receipt =>
    simp only [Lab.validateTimes, validateReceiptTimes, validateReportTimes, hexecuted, hrecorded]
  | observation =>
    simp only [Lab.validateTimes, validateObservationTimes, validateReportTimes, hobserved, hrecorded]

theorem Agree.validateReceiptOutcome (h : Agree message message') :
    validateReceiptOutcome message' = validateReceiptOutcome message := by
  have hstatus := h.textOf "status" (by decide)
  have hreason := h.textOf "reason_code" (by decide)
  have hprestate := h.textOf "prestate_sha256" (by decide)
  have hpoststate := h.textOf "poststate_sha256" (by decide)
  have heffect := h.get "effect_possible" (by decide)
  simp only [Lab.validateReceiptOutcome, hstatus, hreason, hprestate, hpoststate]
  generalize message.get "effect_possible" = v at heffect
  generalize message'.get "effect_possible" = w at heffect
  cases v <;> cases w <;> first
    | rfl
    | (cases heffect <;> rfl)

/-- The value of a name in a list of names. -/
theorem lookup_map_names (names : List String) (f : String → Json) (name : String) :
    (names.map fun n => (n, f n)).lookup name = if name ∈ names then some (f name) else none := by
  induction names with
  | nil => rfl
  | cons n names ih =>
    rw [List.map_cons, List.lookup_cons]
    by_cases hn : name = n
    · subst hn
      simp
    · rw [beq_eq_false_iff_ne.mpr hn]
      simp [ih, hn]

theorem Agree.observationFactsSha256 (h : Agree message message') :
    observationFactsSha256 rt message' = observationFactsSha256 rt message := by
  have hnames : ∀ d : Dict, ((OBSERVATION_FACT_FIELDS.map fun field =>
      (field, d.get field)).map Prod.fst).Nodup := by
    intro d
    rw [List.map_map]
    show (OBSERVATION_FACT_FIELDS.map id).Nodup
    decide
  have hsame : Same (.obj (OBSERVATION_FACT_FIELDS.map fun field => (field, message'.get field)))
      (.obj (OBSERVATION_FACT_FIELDS.map fun field => (field, message.get field))) := by
    refine Json.same_of_lookup (hnames _) (hnames _) fun name => ?_
    rw [lookup_map_names, lookup_map_names]
    by_cases hfield : name ∈ OBSERVATION_FACT_FIELDS
    · have hname : name ≠ "authentication" := by
        rintro rfl
        exact absurd hfield (by decide)
      rw [if_pos hfield, if_pos hfield]
      exact congrArg some (h.get name hname).symm
    · rw [if_neg hfield, if_neg hfield]
  rw [Lab.observationFactsSha256, Lab.observationFactsSha256, hsame.canonicalJson_eq]

theorem Agree.validateContent (h : Agree message message') (type : MessageType) :
    validateContent rt type message' = validateContent rt type message := by
  cases type with
  | command => rfl
  | receipt => exact h.validateReceiptOutcome
  | observationRequest => rfl
  | observation =>
    simp only [Lab.validateContent, validateObservationFacts, h.observationFactsSha256,
      h.textOf "observation_facts_sha256" (by decide)]

/-- A message is as valid as one that it agrees with, at times of its own. -/
theorem Agree.validateLabMessageDict {type : MessageType} {now now' : Int} {expired expired' : Bool}
    (h : Agree message message')
    (hvalid : validateLabMessageDict rt lib type message now expired = .ok message)
    (hsize : encodedSize (.obj message') ≤ MAX_MESSAGE_BYTES)
    (hdepth : jsonDepth (.obj message') ≤ MAX_JSON_DEPTH)
    (hschema : type.schema lib (.obj message') = true) (hmode : expired' = true → type.IsRequest)
    (htimes : Lab.validateTimes rt type message now' expired' = .ok ()) :
    Lab.validateLabMessageDict rt lib type message' now' expired' = .ok message' := by
  obtain ⟨-, -, -, hversion, -, -, -, hcontent⟩ := of_validateLabMessageDict hvalid
  refine validateLabMessageDict_of hsize hdepth (h.not_versionUnsupported hversion) hschema hmode
    ?_ ?_
  · rw [h.validateTimes]
    exact htimes
  · rw [h.validateContent]
    exact hcontent

end Agree

/-! ## §3 The signed message -/

/-- The envelope under a code. -/
def envelopeOf (keyId mac : String) : Dict := [("key_id", .str keyId), ("mac_sha256", .str mac)]

/-- The message with its envelope. -/
def withCode (unsigned : Dict) (keyId mac : String) : Dict :=
  unsigned ++ [("authentication", .obj (envelopeOf keyId mac))]

/-- The text whose code is the signature. -/
def signedText (type : MessageType) (unsigned : Dict) (keyId : String) : String :=
  authenticationText type (withCode unsigned keyId ZERO_DIGEST) (envelopeOf keyId ZERO_DIGEST)

section Signed

variable {type : MessageType} {unsigned message : Dict} {keyId mac mac' : String} {key : Bytes}
  {now : Int}

/-- What has been signed. -/
theorem signLabMessage_eq_ok
    (h : signLabMessage rt lib crypto type keyId key now unsigned = .ok message) :
    MIN_KEY_BYTES ≤ key.length ∧ unsigned.lookup "authentication" = none ∧
      validateLabMessageDict rt lib type (withCode unsigned keyId ZERO_DIGEST) now false =
        .ok (withCode unsigned keyId ZERO_DIGEST) ∧
      message = withCode unsigned keyId (crypto.hmacSha256 key (signedText type unsigned keyId)) := by
  unfold signLabMessage at h
  dsimp only at h
  split_ifs at h with hkey hname
  obtain ⟨validated, hvalid, h⟩ := Lib.bind_eq_ok.mp h
  obtain rfl := (of_validateLabMessageDict hvalid).1
  exact ⟨not_lt.mp hkey, Option.not_isSome_iff_eq_none.mp hname, hvalid, (Except.ok.inj h).symm⟩

/-- What has to be valid to be signed. -/
theorem signLabMessage_of (hkey : MIN_KEY_BYTES ≤ key.length)
    (hnone : unsigned.lookup "authentication" = none)
    (hvalid : validateLabMessageDict rt lib type (withCode unsigned keyId ZERO_DIGEST) now false =
      .ok (withCode unsigned keyId ZERO_DIGEST)) :
    signLabMessage rt lib crypto type keyId key now unsigned =
      .ok (withCode unsigned keyId (crypto.hmacSha256 key (signedText type unsigned keyId))) := by
  unfold signLabMessage
  dsimp only
  rw [if_neg (not_lt.mpr hkey), if_neg (by simp [hnone])]
  exact Lib.bind_eq_ok.mpr ⟨_, hvalid, rfl⟩

theorem lookup_withCode {name : String} (hname : name ≠ "authentication") :
    (withCode unsigned keyId mac).lookup name = unsigned.lookup name := by
  rw [withCode, List.lookup_append, List.lookup_cons, beq_eq_false_iff_ne.mpr hname]
  simp

theorem lookup_withCode_authentication (h : unsigned.lookup "authentication" = none) :
    (withCode unsigned keyId mac).lookup "authentication" = some (.obj (envelopeOf keyId mac)) := by
  rw [withCode, List.lookup_append, h]
  rfl

theorem agree_withCode : Agree (withCode unsigned keyId mac) (withCode unsigned keyId mac') := by
  intro name hname
  rw [lookup_withCode hname, lookup_withCode hname]

/-- Codes of one length make messages of one size. -/
theorem encodedSize_withCode (hmac : IsSha256 mac) (hmac' : IsSha256 mac') :
    encodedSize (.obj (withCode unsigned keyId mac)) =
      encodedSize (.obj (withCode unsigned keyId mac')) := by
  have henvelope : (Json.obj (envelopeOf keyId mac)).render.length =
      (Json.obj (envelopeOf keyId mac')).render.length := by
    rw [Phase3.length_render_obj (by simp [envelopeOf]),
      Phase3.length_render_obj (by simp [envelopeOf])]
    simp [envelopeOf, Json.render, hmac.length_renderString, hmac'.length_renderString]
  rw [encodedSize, encodedSize, length_canonicalJson, length_canonicalJson,
    Phase3.length_render_obj (by simp [withCode]), Phase3.length_render_obj (by simp [withCode])]
  simp [withCode, henvelope]

theorem jsonDepthFields_append (fs gs : Dict) :
    jsonDepthFields (fs ++ gs) = max (jsonDepthFields fs) (jsonDepthFields gs) := by
  induction fs with
  | nil => simp [jsonDepthFields]
  | cons f fs ih =>
    obtain ⟨k, v⟩ := f
    simp only [List.cons_append, jsonDepthFields, ih]
    rw [max_assoc]

theorem jsonDepth_withCode :
    jsonDepth (.obj (withCode unsigned keyId mac)) = jsonDepth (.obj (withCode unsigned keyId mac')) := by
  simp only [jsonDepth, withCode, jsonDepthFields_append]
  rfl

namespace Schema

variable {properties : List (String × (Json → Bool))} {name : String}

/-- A property of an object that its schema accepts. -/
theorem any_of_object {p : Json → Bool} {d : Dict} (h : object properties (.obj d) = true)
    (hp : (name, p) ∈ properties) : (d.lookup name).any p = true := by
  simp only [object, Bool.and_eq_true, List.all_eq_true] at h
  exact h.1 _ hp

/-- The last member may be another one that has its property. -/
theorem object_append {d : Dict} {v w : Json}
    (h : object properties (.obj (d ++ [(name, v)])) = true)
    (hw : ∀ p, (name, p) ∈ properties → p v = true → p w = true) :
    object properties (.obj (d ++ [(name, w)])) = true := by
  simp only [object, Bool.and_eq_true, List.all_eq_true] at h ⊢
  refine ⟨fun p hp => ?_, fun f hf => ?_⟩
  · have hany := h.1 p hp
    rw [List.lookup_append] at hany ⊢
    cases hd : d.lookup p.1 with
    | some x => simpa [hd] using hany
    | none =>
      rw [hd, Option.none_or, List.lookup_cons] at hany
      rw [Option.none_or, List.lookup_cons]
      cases hname : p.1 == name with
      | false => simp [hname] at hany
      | true =>
        obtain rfl := eq_of_beq hname
        rw [hname] at hany
        exact hw p.2 hp hany
  · rcases List.mem_append.mp hf with hf | hf
    · exact h.2 f (List.mem_append_left _ hf)
    · obtain rfl := List.mem_singleton.mp hf
      exact h.2 (name, v) (List.mem_append_right _ List.mem_cons_self)

theorem sha256_of_isSha256 (h : IsSha256 mac) : sha256 (.str mac) = true := by
  have hlast : mac.toList.getLast? ≠ some '\n' := by
    intro hlast
    have hmem := h.2 '\n' (List.mem_of_getLast? hlast)
    exact absurd hmem (by decide)
  have hlength : mac.toList.length = 64 := by
    rw [String.length_toList]
    exact h.1
  simp only [sha256, IsHexDigest, if_neg hlast, decide_eq_true_eq]
  exact ⟨hlength, h.2⟩

/-- The envelope under another code. -/
theorem authentication_envelopeOf (h : authentication (.obj (envelopeOf keyId mac)) = true)
    (hmac' : IsSha256 mac') : authentication (.obj (envelopeOf keyId mac')) = true := by
  have hidentifier : ((envelopeOf keyId mac).lookup "key_id").any identifier = true :=
    any_of_object h (by simp)
  exact object_of (by simp [envelopeOf])
    (.cons ⟨rfl, hidentifier⟩ (.cons ⟨rfl, sha256_of_isSha256 hmac'⟩ .nil))

end Schema

theorem isAscii_of_isSha256 {s : String} (h : IsSha256 s) : IsAscii s := by
  intro c hc
  have hdigits : "0123456789abcdef".toList.all (fun c => decide (c.toNat < 128)) = true := by rfl
  exact of_decide_eq_true (List.all_eq_true.mp hdigits c (h.2 c hc))

end Signed

/-! ## §4 Loading it -/

/-- `load_authenticated_lab_message(raw, …)` of bytes. -/
def loadLabMessageBytes (rt : Runtime) (lib : JsonLibrary) (crypto : Primitives) (type : MessageType)
    (expectedKeyId : String) (key : Bytes) (now : Int) (allowExpired : Bool) (raw : Bytes) :
    Except String Dict :=
  loadAuthenticatedLabMessage rt lib crypto type expectedKeyId key now allowExpired raw.length
    (strictJsonLoadsBytes lib raw)

/-- `canonical_json(message).encode("utf-8")`. -/
def signedBytes (message : Dict) : Bytes := Json.encodeAscii (canonicalJson (.obj message)).toList

/-- The clock is in the time window of the message. -/
def InWindow (rt : Runtime) (type : MessageType) (message : Dict) (now : Int)
    (allowExpired : Bool) : Prop :=
  match type with
  | .command | .observationRequest =>
    (∃ issued ∈ parseCanonicalUtc rt (textOf message "issued_at"), issued ≤ now + MAX_FUTURE_SKEW) ∧
      ∃ expires ∈ parseCanonicalUtc rt (textOf message "expires_at"),
        now < expires ∨ allowExpired = true
  | .receipt | .observation =>
    allowExpired = false ∧
      ∃ recorded ∈ parseCanonicalUtc rt (textOf message "recorded_at"),
        recorded ≤ now + MAX_FUTURE_SKEW

section Loading

variable {type : MessageType} {message message' fields fields' : Dict} {now now' : Int}
  {expired expired' : Bool}

theorem InWindow.mode (h : InWindow rt type message now expired) :
    expired = true → type.IsRequest := by
  intro hexpired
  cases type with
  | command => exact .inl rfl
  | observationRequest => exact .inr rfl
  | receipt => exact absurd (h.1.symm.trans hexpired) (by decide)
  | observation => exact absurd (h.1.symm.trans hexpired) (by decide)

/-- The times of a request that was valid once. -/
theorem validateCommandTimes_of (h : validateCommandTimes rt message now expired = .ok ())
    (hwindow : (∃ issued ∈ parseCanonicalUtc rt (textOf message "issued_at"),
        issued ≤ now' + MAX_FUTURE_SKEW) ∧
      ∃ expires ∈ parseCanonicalUtc rt (textOf message "expires_at"),
        now' < expires ∨ expired' = true) :
    validateCommandTimes rt message now' expired' = .ok () := by
  obtain ⟨⟨issued, hissued, hfuture⟩, expires, hexpires, hcurrent⟩ := hwindow
  unfold validateCommandTimes at h ⊢
  rw [Option.mem_def.mp hissued, Option.mem_def.mp hexpires] at h ⊢
  dsimp only at h ⊢
  split_ifs at h with hlifetime
  rw [if_neg hlifetime, if_neg (not_lt.mpr hfuture), if_neg]
  rintro ⟨hpast, hexpired⟩
  rcases hcurrent with hcurrent | hcurrent
  · omega
  · exact absurd (hexpired.symm.trans hcurrent) (by decide)

/-- The times of a report that was valid once. -/
theorem validateReportTimes_of {name : String} (h : validateReportTimes rt name message now = .ok ())
    (hwindow : ∃ recorded ∈ parseCanonicalUtc rt (textOf message "recorded_at"),
      recorded ≤ now' + MAX_FUTURE_SKEW) : validateReportTimes rt name message now' = .ok () := by
  obtain ⟨recorded, hrecorded, hfuture⟩ := hwindow
  unfold validateReportTimes at h ⊢
  rw [Option.mem_def.mp hrecorded] at h ⊢
  cases hhappened : parseCanonicalUtc rt (textOf message name) with
  | none =>
    rw [hhappened] at h
    cases h
  | some happened =>
    rw [hhappened] at h
    dsimp only at h ⊢
    split_ifs at h with horder
    rw [if_neg horder, if_neg (not_lt.mpr hfuture)]

theorem validateTimes_of_inWindow (h : validateTimes rt type message now expired = .ok ())
    (hwindow : InWindow rt type message now' expired') :
    validateTimes rt type message now' expired' = .ok () := by
  cases type with
  | command => exact validateCommandTimes_of h hwindow
  | observationRequest => exact validateCommandTimes_of h hwindow
  | receipt => exact validateReportTimes_of h hwindow.2
  | observation => exact validateReportTimes_of h hwindow.2

theorem jsonDepthFields_eq_of_perm {fs gs : Dict} (h : fs.Perm gs) :
    jsonDepthFields fs = jsonDepthFields gs := by
  induction h with
  | nil => rfl
  | cons f _ ih => simp only [jsonDepthFields, ih]
  | swap f g fs =>
    simp only [jsonDepthFields]
    exact max_left_comm _ _ _
  | trans _ _ ih ih' => exact ih.trans ih'

mutual

theorem jsonDepth_sorted : (v : Json) → jsonDepth v.sorted = jsonDepth v
  | .null | .bool _ | .int _ | .float _ | .str _ => rfl
  | .arr xs => by
    simp only [Json.sorted, jsonDepth]
    rw [jsonDepthItems_sortedItems xs]
  | .obj fs => by
    simp only [Json.sorted, jsonDepth]
    rw [jsonDepthFields_eq_of_perm (List.mergeSort_perm _ _), jsonDepthFields_sortedFields fs]

theorem jsonDepthItems_sortedItems : (xs : List Json) →
    Phase3.jsonDepthItems (Json.sortedItems xs) = Phase3.jsonDepthItems xs
  | [] => rfl
  | x :: xs => by
    simp only [Json.sortedItems, Phase3.jsonDepthItems, jsonDepth_sorted x,
      jsonDepthItems_sortedItems xs]

theorem jsonDepthFields_sortedFields : (fs : Dict) →
    jsonDepthFields (Json.sortedFields fs) = jsonDepthFields fs
  | [] => rfl
  | (_, v) :: fs => by
    simp only [Json.sortedFields, jsonDepthFields, jsonDepth_sorted v,
      jsonDepthFields_sortedFields fs]

end

/-- Equal messages are valid alike. -/
theorem validateLabMessageDict_of_same (hread : (Json.obj message).Readable lib)
    (hread' : (Json.obj message').Readable lib) (hsame : Same (.obj message) (.obj message'))
    (h : validateLabMessageDict rt lib type message now expired = .ok message) :
    validateLabMessageDict rt lib type message' now expired = .ok message' := by
  obtain ⟨-, hsize, hdepth, -, hschema, hmode, htimes, -⟩ := of_validateLabMessageDict h
  refine (agree_of_same hread.1 hsame).validateLabMessageDict h ?_ ?_ ?_ hmode htimes
  · rwa [encodedSize, ← hsame.canonicalJson_eq]
  · rwa [← jsonDepth_sorted, ← show (Json.obj message).sorted = (Json.obj message').sorted from hsame,
      jsonDepth_sorted]
  · rwa [← type.blind_schema _ _ hread hread' hsame]

/-- The message as it is authenticated: its envelope has no code. -/
def withoutCode (message fields : Dict) : Dict :=
  message.map fun f => if f.1 = "authentication" then
    (f.1, .obj (fields.filter fun f => f.1 ≠ "mac_sha256")) else f

theorem map_fst_withoutCode (message fields : Dict) :
    (withoutCode message fields).map Prod.fst = message.map Prod.fst := by
  rw [withoutCode, List.map_map]
  apply List.map_congr_left
  intro f _
  simp only [Function.comp_apply]
  split_ifs <;> rfl

theorem lookup_withoutCode (message fields : Dict) (name : String) :
    (withoutCode message fields).lookup name =
      if name = "authentication" then
        (message.lookup name).map fun _ => .obj (fields.filter fun f => f.1 ≠ "mac_sha256")
      else message.lookup name := by
  induction message with
  | nil => split_ifs <;> rfl
  | cons f message ih =>
    obtain ⟨k, v⟩ := f
    simp only [withoutCode, List.map_cons] at ih ⊢
    by_cases hk : name = k
    · subst hk
      by_cases hname : name = "authentication"
      · simp [hname]
      · simp [hname]
    · have hne : (name == k) = false := beq_eq_false_iff_ne.mpr hk
      by_cases hauth : k = "authentication"
      · rw [if_pos hauth, List.lookup_cons, List.lookup_cons, hne]
        exact ih
      · rw [if_neg hauth, List.lookup_cons, List.lookup_cons, hne]
        exact ih

theorem lookup_filter_code (fields : Dict) (name : String) :
    (fields.filter fun f => f.1 ≠ "mac_sha256").lookup name =
      if name = "mac_sha256" then none else fields.lookup name := by
  induction fields with
  | nil => split_ifs <;> rfl
  | cons f fields ih =>
    obtain ⟨k, v⟩ := f
    by_cases hk : k = "mac_sha256"
    · rw [List.filter_cons_of_neg (by simp [hk]), ih, List.lookup_cons, hk]
      by_cases hname : name = "mac_sha256"
      · rw [if_pos hname, if_pos hname]
      · rw [if_neg hname, if_neg hname, beq_eq_false_iff_ne.mpr hname]
    · rw [List.filter_cons_of_pos (by simp [hk]), List.lookup_cons, List.lookup_cons, ih]
      by_cases hname : name = k
      · simp [hname, hk]
      · rw [beq_eq_false_iff_ne.mpr hname]

theorem nodup_filter_code (h : (fields.map Prod.fst).Nodup) :
    ((fields.filter fun f => f.1 ≠ "mac_sha256").map Prod.fst).Nodup :=
  h.sublist (List.filter_sublist.map _)

/-- What is authenticated of equal messages is equal. -/
theorem withoutCode_same (hm : (message.map Prod.fst).Nodup) (hm' : (message'.map Prod.fst).Nodup)
    (hf : (fields.map Prod.fst).Nodup) (hf' : (fields'.map Prod.fst).Nodup)
    (hmessage : Same (.obj message) (.obj message')) (hfields : Same (.obj fields) (.obj fields')) :
    Same (.obj (withoutCode message fields)) (.obj (withoutCode message' fields')) := by
  have hfilter : Same (.obj (fields.filter fun f => f.1 ≠ "mac_sha256"))
      (.obj (fields'.filter fun f => f.1 ≠ "mac_sha256")) := by
    refine Json.same_of_lookup (nodup_filter_code hf) (nodup_filter_code hf') fun name => ?_
    rw [lookup_filter_code, lookup_filter_code]
    by_cases hname : name = "mac_sha256"
    · rw [if_pos hname, if_pos hname]
    · rw [if_neg hname, if_neg hname, hfields.lookup hf]
  refine Json.same_of_lookup (by rwa [map_fst_withoutCode]) (by rwa [map_fst_withoutCode])
    fun name => ?_
  rw [lookup_withoutCode, lookup_withoutCode]
  by_cases hname : name = "authentication"
  · rw [if_pos hname, if_pos hname]
    cases hv : message.lookup name with
    | none =>
      have hlookup := hmessage.lookup hm name
      rw [hv, Option.map_none] at hlookup
      rw [Option.map_eq_none_iff.mp hlookup.symm]
      rfl
    | some v =>
      obtain ⟨w, hw, -⟩ := hmessage.exists_lookup hm hv
      rw [hw]
      exact congrArg some hfilter
  · rw [if_neg hname, if_neg hname, hmessage.lookup hm]

theorem lookup_of_envelope (h : envelope message = some fields) :
    message.lookup "authentication" = some (.obj fields) := by
  unfold envelope at h
  split at h
  · next hlookup =>
    cases h
    exact hlookup
  · cases h

theorem authenticationText_eq (type : MessageType) (message fields : Dict) :
    authenticationText type message fields =
      type.domain ++ canonicalJson (.obj (withoutCode message fields)) := rfl

theorem readable_withCode {unsigned : Dict} {keyId mac : String}
    (h : (Json.obj unsigned).Readable lib) (hnone : unsigned.lookup "authentication" = none) :
    (Json.obj (withCode unsigned keyId mac)).Readable lib := by
  constructor
  · have hnew : "authentication" ∉ unsigned.map Prod.fst := by
      intro hmem
      obtain ⟨f, hf, hname⟩ := List.mem_map.mp hmem
      have hlookup := (Json.lookup_eq_some_iff_mem h.1).mpr (hname ▸ hf : ("authentication", f.2) ∈ unsigned)
      rw [hnone] at hlookup
      cases hlookup
    rw [withCode, List.map_append]
    exact h.1.append (List.nodup_singleton _) (by simpa using hnew)
  · refine Json.readableFields_iff.mpr fun f hf => ?_
    rcases List.mem_append.mp hf with hf | hf
    · exact Json.readableFields_iff.mp h.2 f hf
    · obtain rfl := List.mem_singleton.mp hf
      exact ⟨by simp [envelopeOf], trivial, trivial, trivial⟩

/-- The code is not part of what it authenticates. -/
theorem withoutCode_withCode {unsigned : Dict} {keyId mac mac' : String} :
    withoutCode (withCode unsigned keyId mac) (envelopeOf keyId mac) =
      withoutCode (withCode unsigned keyId mac') (envelopeOf keyId mac') := by
  simp only [withoutCode, withCode, List.map_append]
  rfl

theorem readable_of_envelope (hread : (Json.obj message).Readable lib)
    (h : envelope message = some fields) : (Json.obj fields).Readable lib :=
  Json.readableFields_iff.mp hread.2 _
    ((Json.lookup_eq_some_iff_mem hread.1).mp (lookup_of_envelope h))

end Loading

/-- `hexdigest` has 64 hexadecimal digits. -/
def HexDigests (crypto : Primitives) : Prop := ∀ key text, IsSha256 (crypto.hmacSha256 key text)

section Load

variable {type : MessageType} {unsigned message : Dict} {keyId : String} {key : Bytes} {now : Int}

/-- The key identifier that a message was signed under is one. -/
theorem authentication_of_schema
    (h : type.schema lib (.obj (withCode unsigned keyId ZERO_DIGEST)) = true)
    (hnone : unsigned.lookup "authentication" = none) :
    Schema.authentication (.obj (envelopeOf keyId ZERO_DIGEST)) = true := by
  have hany : ((withCode unsigned keyId ZERO_DIGEST).lookup "authentication").any
      Schema.authentication = true := by
    cases type with
    | command => exact Schema.any_of_object h (by simp)
    | receipt => exact Schema.any_of_object h (by simp)
    | observationRequest => exact Schema.any_of_object h (by simp)
    | observation => exact Schema.any_of_object h (by simp)
  rwa [lookup_withCode_authentication hnone] at hany

theorem toNat_lt_of_isAlphanum {c : Char} (h : c.isAlphanum = true) : c.toNat < 128 := by
  simp only [Char.isAlphanum, Char.isAlpha, Char.isUpper, Char.isLower, Char.isDigit,
    Bool.or_eq_true, Bool.and_eq_true, decide_eq_true_eq, ge_iff_le, UInt32.le_iff_toNat_le] at h
  simp at h
  omega

theorem isAscii_of_identifier {s : String} (h : Schema.identifier (.str s) = true) : IsAscii s := by
  obtain ⟨-, -, hcore⟩ := of_decide_eq_true h
  have hascii : ∀ c, c.isAlphanum = true ∨ c ∈ ['.', '_', ':', '-'] → c.toNat < 128 := by
    rintro c (hc | hc)
    · exact toNat_lt_of_isAlphanum hc
    · simp only [List.mem_cons, List.not_mem_nil, or_false] at hc
      rcases hc with rfl | rfl | rfl | rfl <;> decide
  intro c hc
  by_cases hlast : s.toList.getLast? = some '\n'
  · rw [if_pos hlast] at hcore
    rw [← List.dropLast_append_getLast? '\n' hlast] at hc
    rcases List.mem_append.mp hc with hc | hc
    · exact hascii c (hcore c hc)
    · obtain rfl := List.mem_singleton.mp hc
      decide
  · rw [if_neg hlast] at hcore
    exact hascii c (hcore c hc)

theorem compareDigest_self {s : String} (h : IsAscii s) : compareDigest s s = .ok true := by
  rw [compareDigest, if_pos ⟨h, h⟩, decide_eq_true rfl]

/-- Equal texts are what a comparison finds. -/
theorem eq_of_compareDigest {a b : String} (h : compareDigest a b = .ok true) : a = b := by
  unfold compareDigest at h
  split_ifs at h
  exact of_decide_eq_true (Except.ok.inj h)

/-- The text of a member that equals a text. -/
theorem get_of_same {fields fields' : Dict} {name s : String} (hf : (fields.map Prod.fst).Nodup)
    (h : Same (.obj fields) (.obj fields')) (hs : fields.lookup name = some (.str s)) :
    fields'.get name = .str s := by
  obtain ⟨w, hw, hsame⟩ := h.exists_lookup hf hs
  rw [Dict.get, hw, Option.getD_some]
  exact Json.same_str_iff.mp hsame.symm

/-- A message under its own code is authentic, in any order of its members. -/
theorem verifyLabMessageHmac_of_same {presented : Dict} (hkey : MIN_KEY_BYTES ≤ key.length)
    (hread : (Json.obj unsigned).Readable lib) (hnone : unsigned.lookup "authentication" = none)
    (hidentifier : Schema.identifier (.str keyId) = true) (hcode : HexDigests crypto)
    (hpresented : (presented.map Prod.fst).Nodup)
    (hsame : Same (.obj (withCode unsigned keyId
      (crypto.hmacSha256 key (signedText type unsigned keyId)))) (.obj presented))
    (hnames : ∀ fields, envelope presented = some fields → (fields.map Prod.fst).Nodup) :
    verifyLabMessageHmac crypto type keyId key presented = .ok () := by
  generalize hmac : crypto.hmacSha256 key (signedText type unsigned keyId) = mac at hsame
  have hdigest : IsSha256 mac := hmac ▸ hcode key _
  have hsigned : ((withCode unsigned keyId mac).map Prod.fst).Nodup :=
    (readable_withCode hread hnone).1
  -- the envelope is the one that was signed
  obtain ⟨w, hw, henvelope⟩ := hsame.exists_lookup hsigned (lookup_withCode_authentication hnone)
  obtain ⟨fields, rfl⟩ := henvelope.symm.obj_of_obj
  have hfields : envelope presented = some fields := by rw [envelope, hw]
  have hfieldNames := hnames fields hfields
  have hnodup : ((envelopeOf keyId mac).map Prod.fst).Nodup := by simp [envelopeOf]
  have htext : authenticationText type presented fields = signedText type unsigned keyId := by
    have hwithout := withoutCode_same hsigned hpresented hnodup hfieldNames hsame henvelope
    rw [authenticationText_eq, ← hwithout.canonicalJson_eq, signedText, authenticationText_eq,
      withoutCode_withCode]
  unfold verifyLabMessageHmac
  rw [if_neg (not_lt.mpr hkey), hfields]
  have hkeyId : Dict.get fields "key_id" = .str keyId := get_of_same hnodup henvelope rfl
  have hobserved : Dict.get fields "mac_sha256" = .str mac := get_of_same hnodup henvelope rfl
  simp only [hkeyId, hobserved, htext, hmac]
  refine Lib.bind_eq_ok.mpr ⟨true, compareDigest_self (isAscii_of_identifier hidentifier), ?_⟩
  rw [if_neg (by simp)]
  exact Lib.bind_eq_ok.mpr ⟨true, compareDigest_self (isAscii_of_isSha256 hdigest), rfl⟩

/-- The signed message is valid at every time in its window. -/
theorem validateLabMessageDict_withCode {mac : String} {now' : Int} {expired : Bool}
    (hvalid : validateLabMessageDict rt lib type (withCode unsigned keyId ZERO_DIGEST) now false =
      .ok (withCode unsigned keyId ZERO_DIGEST))
    (hnone : unsigned.lookup "authentication" = none) (hmac : IsSha256 mac)
    (hwindow : InWindow rt type (withCode unsigned keyId mac) now' expired) :
    validateLabMessageDict rt lib type (withCode unsigned keyId mac) now' expired =
      .ok (withCode unsigned keyId mac) := by
  obtain ⟨-, hsize, hdepth, -, hschema, -, htimes, -⟩ := of_validateLabMessageDict hvalid
  have hzeros : IsSha256 ZERO_DIGEST := by decide
  have hagree := @agree_withCode unsigned keyId ZERO_DIGEST mac
  refine hagree.validateLabMessageDict hvalid ?_ ?_ ?_ hwindow.mode ?_
  · rwa [← encodedSize_withCode hzeros hmac]
  · rwa [jsonDepth_withCode]
  · -- only the code in the envelope is another one
    have henvelope := authentication_of_schema hschema hnone
    have hreplace : ∀ p, p = Schema.authentication → p (.obj (envelopeOf keyId ZERO_DIGEST)) = true →
        p (.obj (envelopeOf keyId mac)) = true := by
      rintro _ rfl -
      exact Schema.authentication_envelopeOf henvelope hmac
    cases type with
    | command => exact Schema.object_append hschema fun p hp => hreplace p (by simpa using hp)
    | receipt => exact Schema.object_append hschema fun p hp => hreplace p (by simpa using hp)
    | observationRequest =>
      exact Schema.object_append hschema fun p hp => hreplace p (by simpa using hp)
    | observation => exact Schema.object_append hschema fun p hp => hreplace p (by simpa using hp)
  · rw [← hagree.validateTimes]
    rw [← hagree.validateTimes] at htimes
    exact validateTimes_of_inWindow htimes hwindow

/-- The bytes of a message decode to the message. -/
theorem strictJsonLoadsBytes_signedBytes (h : (Json.obj message).Readable lib) :
    ∃ loaded, strictJsonLoadsBytes lib (signedBytes message) = some (.obj loaded) ∧
      Same (.obj message) (.obj loaded) ∧ (Json.obj loaded).Readable lib := by
  obtain ⟨loaded, hloaded⟩ : ∃ loaded, (Json.obj message).sorted = .obj loaded := ⟨_, rfl⟩
  have hreadable : (Json.obj loaded).Readable lib := hloaded ▸ Json.Readable.sorted _ h
  refine ⟨loaded, ?_, ?_, hreadable⟩
  · have htext : (canonicalJson (.obj message)).toList = (Json.obj loaded).text := by
      rw [canonicalJson, String.toList_ofList, Json.render_eq_text, hloaded]
    rw [signedBytes, htext]
    exact Json.strictJsonLoadsBytes_text hreadable
  · rw [← hloaded]
    exact (Json.same_sorted _).symm

/-- A message that has been signed is loaded from its bytes. -/
theorem load_of_signed {now' : Int} {expired : Bool} (hcode : HexDigests crypto)
    (hread : (Json.obj unsigned).Readable lib)
    (hsign : signLabMessage rt lib crypto type keyId key now unsigned = .ok message)
    (hwindow : InWindow rt type message now' expired) :
    ∃ loaded, loadLabMessageBytes rt lib crypto type keyId key now' expired (signedBytes message) =
      .ok loaded ∧ Same (.obj loaded) (.obj message) := by
  obtain ⟨hkey, hnone, hvalid, rfl⟩ := signLabMessage_eq_ok hsign
  generalize hmac : crypto.hmacSha256 key (signedText type unsigned keyId) = mac at hwindow
  have hdigest : IsSha256 mac := hmac ▸ hcode key _
  have hsigned : (Json.obj (withCode unsigned keyId mac)).Readable lib := readable_withCode hread hnone
  obtain ⟨loaded, hbytes, hsame, hreadable⟩ := strictJsonLoadsBytes_signedBytes hsigned
  have hauthentic : verifyLabMessageHmac crypto type keyId key loaded = .ok () := by
    apply verifyLabMessageHmac_of_same hkey hread hnone _ hcode hreadable.1 (by rwa [hmac])
    · exact fun fields hfields => (readable_of_envelope hreadable hfields).1
    · have hidentifier : ((envelopeOf keyId ZERO_DIGEST).lookup "key_id").any Schema.identifier =
          true := Schema.any_of_object
        (authentication_of_schema (of_validateLabMessageDict hvalid).2.2.2.2.1 hnone) (by simp)
      exact hidentifier
  have hvalid' := validateLabMessageDict_of_same hsigned hreadable hsame
    (validateLabMessageDict_withCode hvalid hnone hdigest hwindow)
  obtain ⟨-, hsize, hdepth, -⟩ := of_validateLabMessageDict hvalid'
  refine ⟨loaded, ?_, hsame.symm⟩
  have hlength : (signedBytes (withCode unsigned keyId mac)).length ≤ MAX_MESSAGE_BYTES := by
    rw [signedBytes, Json.length_encodeAscii, String.length_toList, hsame.canonicalJson_eq]
    exact hsize
  have hdecode : strictDecode (signedBytes (withCode unsigned keyId mac)).length
      (some (.obj loaded)) = .ok loaded := by
    rw [strictDecode, if_neg (not_lt.mpr hlength)]
    exact if_neg (not_lt.mpr hdepth)
  unfold loadLabMessageBytes loadAuthenticatedLabMessage
  rw [hbytes]
  exact Lib.bind_eq_ok.mpr ⟨loaded, hdecode, Lib.bind_eq_ok.mpr ⟨(), hauthentic, hvalid'⟩⟩

/-! ## §5 Loading anything else -/

/-- What a loaded message has passed. -/
theorem verifyLabMessageHmac_eq_ok {type : MessageType} {keyId : String} {key : Bytes}
    {message : Dict} (h : verifyLabMessageHmac crypto type keyId key message = .ok ()) :
    ∃ fields, envelope message = some fields ∧ Dict.get fields "key_id" = .str keyId ∧
      Dict.get fields "mac_sha256" =
        .str (crypto.hmacSha256 key (authenticationText type message fields)) := by
  unfold verifyLabMessageHmac at h
  split_ifs at h with hkey
  cases hfields : envelope message with
  | none =>
    rw [hfields] at h
    cases h
  | some fields =>
    rw [hfields] at h
    dsimp only at h
    split at h
    · next presented observed hkeyId hobserved =>
      obtain ⟨identified, hidentified, h⟩ := Lib.bind_eq_ok.mp h
      cases identified with
      | false => cases h
      | true =>
        obtain ⟨authentic, hauthentic, h⟩ := Lib.bind_eq_ok.mp h
        cases authentic with
        | false => cases h
        | true =>
          obtain rfl := eq_of_compareDigest hidentified
          obtain rfl := eq_of_compareDigest hauthentic
          exact ⟨fields, rfl, hkeyId, hobserved⟩
    · cases h

theorem lookup_of_get {d : Dict} {name text : String} (h : d.get name = .str text) :
    d.lookup name = some (.str text) := by
  unfold Dict.get at h
  cases hd : d.lookup name with
  | none =>
    rw [hd] at h
    cases h
  | some v =>
    rw [hd] at h
    exact congrArg some h

theorem value_of_strictDecode {size : Nat} {value : Option Json}
    (h : strictDecode size value = .ok message) : value = some (.obj message) := by
  unfold strictDecode at h
  split_ifs at h
  split at h
  · cases h
  · split_ifs at h
    cases h
    rfl
  · cases h

end Load

end DecisionFirewall.Lab
