import DecisionFirewall.Lab.Messages
import DecisionFirewall.Lab.Uncertain

/-!
# Receipts

The receipt that the executor makes of an outcome. It is never longer than the command, and
it can be signed and loaded unless the mutation result claims its effect with a number that
equals a boolean.

- §1 messages that are loaded alone
- §2 an authenticated command
- §3 the length of a receipt
- §4 receipts that can be signed
-/

namespace DecisionFirewall.Lab

open Json (Same)
open Phase3 (Primitives Bytes IsSchemaIdentifier IsHexDigest jsonDepth jsonDepthFields encodedSize
  newYearRuntime plainPrimitives zeros)

variable {rt : Runtime} {lib : JsonLibrary} {crypto : Primitives}

/-! ## §1 Messages that are loaded alone -/

/-- A command that has been decoded, authenticated under the key of the service and found
valid. -/
structure IsCommand (lib : JsonLibrary) (keyId : String) (command : Dict) : Prop where
  readable : (Json.obj command).Readable lib
  size : encodedSize (.obj command) ≤ MAX_MESSAGE_BYTES
  schema : Schema.command lib (.obj command) = true
  envelope : ∃ fields, command.lookup "authentication" = some (.obj fields) ∧
    Dict.get fields "key_id" = .str keyId

theorem isCommand_of_commandOf {service : LabExecutorService} {now : Int} {raw : Bytes}
    {command : Dict} (h : service.commandOf rt lib crypto now raw = .ok command) :
    IsCommand lib service.keyId command := by
  obtain ⟨presented, hdecode, h⟩ := Lib.bind_eq_ok.mp h
  obtain ⟨⟨⟩, hverify, hvalid⟩ := Lib.bind_eq_ok.mp h
  obtain ⟨rfl, hsize, -, -, hschema, -⟩ := of_validateLabMessageDict hvalid
  obtain ⟨fields, hfields, hkeyId, -⟩ := verifyLabMessageHmac_eq_ok hverify
  obtain ⟨text, -, htext⟩ := Option.bind_eq_some_iff.mp (value_of_strictDecode hdecode)
  exact ⟨Json.readable_of_strictJsonLoads htext, hsize, hschema, fields, lookup_of_envelope hfields,
    hkeyId⟩

section Command

variable {keyId : String} {command : Dict}

/-- The value of a property. -/
theorem property_get {properties : List (String × (Json → Bool))} {d : Dict} {name : String}
    {p : Json → Bool} (h : Schema.object properties (.obj d) = true) (hp : (name, p) ∈ properties) :
    d.lookup name = some (d.get name) ∧ p (d.get name) = true := by
  have hany := Schema.any_of_object h hp
  cases hd : d.lookup name with
  | none => simp [hd] at hany
  | some v =>
    rw [hd] at hany
    rw [Dict.get, hd]
    exact ⟨rfl, hany⟩

theorem str_of_const {text : String} {v : Json} (h : Schema.const text v = true) : v = .str text := by
  cases v with
  | str s => exact congrArg Json.str (of_decide_eq_true h)
  | null | bool _ | int _ | float _ | arr _ | obj _ => cases h

theorem str_of_identifier {v : Json} (h : Schema.identifier v = true) :
    ∃ s, v = .str s ∧ IsSchemaIdentifier s := by
  cases v with
  | str s => exact ⟨s, rfl, of_decide_eq_true h⟩
  | null | bool _ | int _ | float _ | arr _ | obj _ => cases h

theorem str_of_sha256 {v : Json} (h : Schema.sha256 v = true) : ∃ s, v = .str s ∧ IsHexDigest s := by
  cases v with
  | str s => exact ⟨s, rfl, of_decide_eq_true h⟩
  | null | bool _ | int _ | float _ | arr _ | obj _ => cases h

/-- The properties of the command schema. -/
def commandProperties (lib : JsonLibrary) : List (String × (Json → Bool)) :=
  [("schema_version", Schema.const SCHEMA_VERSION),
    ("message_type", Schema.const COMMAND),
    ("lab_session_id", Schema.identifier),
    ("request_id", Schema.identifier),
    ("decision_id", Schema.identifier),
    ("authorization_id", Schema.identifier),
    ("policy_sha256", Schema.sha256),
    ("adapter_contract_sha256", Schema.sha256),
    ("target_id", Schema.const TARGET_ID),
    ("target_boot_id", Schema.identifier),
    ("action", Schema.const "NETWORK_ISOLATE"),
    ("parameters", Schema.object [("duration_seconds", Schema.integer lib 60 3600),
      ("preserve_management", Schema.constTrue),
      ("network_profile", Schema.const "LAB_BEACON_BLOCK_MANAGEMENT_ALLOW_V1")]),
    ("prestate_sha256", Schema.sha256),
    ("idempotency_key", Schema.identifier),
    ("sequence", Schema.integer lib 1 9223372036854775807),
    ("nonce", Schema.nonce),
    ("issued_at", Schema.timestamp),
    ("expires_at", Schema.timestamp),
    ("authentication", Schema.authentication)]

theorem command_eq_object : Schema.command lib = Schema.object (commandProperties lib) := rfl

/-- The members of a command. -/
def commandNames : List String :=
  ["schema_version", "message_type", "lab_session_id", "request_id", "decision_id",
    "authorization_id", "policy_sha256", "adapter_contract_sha256", "target_id", "target_boot_id",
    "action", "parameters", "prestate_sha256", "idempotency_key", "sequence", "nonce", "issued_at",
    "expires_at", "authentication"]

theorem map_fst_commandProperties : (commandProperties lib).map Prod.fst = commandNames := rfl

/-- What a property of a command says of its member. -/
theorem IsCommand.property (h : IsCommand lib keyId command) {name : String} {p : Json → Bool}
    (hp : (name, p) ∈ commandProperties lib) : p (command.get name) = true :=
  (property_get (command_eq_object ▸ h.schema) hp).2

theorem IsCommand.lookup_eq (h : IsCommand lib keyId command) {name : String}
    (hname : name ∈ commandNames) : command.lookup name = some (command.get name) := by
  rw [← @map_fst_commandProperties lib] at hname
  obtain ⟨p, hp, rfl⟩ := List.mem_map.mp hname
  exact (property_get (command_eq_object ▸ h.schema) hp).1

theorem IsCommand.isHexDigest_prestate (h : IsCommand lib keyId command) :
    IsHexDigest (textOf command "prestate_sha256") := by
  have hproperty : Schema.sha256 (command.get "prestate_sha256") = true :=
    h.property (by simp [commandProperties])
  obtain ⟨s, hs, hdigest⟩ := str_of_sha256 hproperty
  rw [textOf, hs]
  exact hdigest

theorem IsCommand.authentication (h : IsCommand lib keyId command) : ∃ fields,
    command.lookup "authentication" = some (.obj fields) ∧
      command.get "authentication" = .obj fields ∧ Dict.get fields "key_id" = .str keyId ∧
      Schema.authentication (.obj fields) = true := by
  obtain ⟨fields, hlookup, hkeyId⟩ := h.envelope
  have hget : command.get "authentication" = .obj fields := by
    rw [Dict.get, hlookup]
    rfl
  exact ⟨fields, hlookup, hget, hkeyId, hget ▸ h.property (by simp [commandProperties])⟩

theorem IsCommand.identifier_keyId (h : IsCommand lib keyId command) :
    Schema.identifier (.str keyId) = true := by
  obtain ⟨fields, -, -, hkeyId, hschema⟩ := h.authentication
  rw [← hkeyId]
  exact (property_get hschema (List.mem_cons_self : ("key_id", Schema.identifier) ∈ _)).2

end Command

/-! ## §3 The length of a receipt -/

/-- What a member adds to the length of its object. -/
def memberLength (f : String × Json) : Nat :=
  (Json.renderString f.1).length + f.2.render.length + 2

theorem encodedSize_obj {d : Dict} (h : d ≠ []) :
    encodedSize (.obj d) = 1 + (d.map memberLength).sum := by
  rw [encodedSize, length_canonicalJson, Phase3.length_render_obj h]
  rfl

/-- Some members of an object are no longer than all of them. -/
theorem sum_memberLength_le {d : Dict} {names : List String} (hnames : names.Nodup)
    (h : ∀ name ∈ names, d.lookup name = some (d.get name)) (hd : (d.map Prod.fst).Nodup) :
    (names.map fun name => memberLength (name, d.get name)).sum ≤ (d.map memberLength).sum := by
  have hsubset : names.map (fun name => (name, d.get name)) ⊆ d := by
    intro f hf
    obtain ⟨name, hname, rfl⟩ := List.mem_map.mp hf
    exact (Json.lookup_eq_some_iff_mem hd).mp (h name hname)
  have hnodup : (names.map fun name => (name, d.get name)).Nodup :=
    hnames.map fun a b hab => (Prod.mk.inj hab).1
  obtain ⟨l, hperm, hsub⟩ := List.subperm_of_subset hnodup hsubset
  have hsum := (hperm.map memberLength).sum_eq
  rw [List.map_map] at hsum
  exact hsum.symm.trans_le ((hsub.map memberLength).sum_le_sum fun _ _ => Nat.zero_le _)

theorem length_renderString_ge (s : String) : s.length + 2 ≤ (Json.renderString s).length := by
  have hflat : ∀ l : List Char, l.length ≤ (l.flatMap Json.escapeChar).length := by
    intro l
    induction l with
    | nil => exact le_refl 0
    | cons c l ih =>
      have hc := List.length_pos_of_ne_nil (Json.escapeChar_ne_nil c)
      rw [List.flatMap_cons, List.length_append, List.length_cons]
      omega
  have hs := hflat s.toList
  rw [String.length_toList] at hs
  simp only [Json.renderString, List.length_append, List.length_cons, List.length_nil]
  omega

/-- Characters that are written without an escape. -/
theorem flatMap_escapeChar_plain {cs : List Char} (h : ∀ c ∈ cs, Json.escapeChar c = [c]) :
    cs.flatMap Json.escapeChar = cs := by
  induction cs with
  | nil => rfl
  | cons c cs ih =>
    rw [List.flatMap_cons, h c List.mem_cons_self, ih fun d hd => h d (List.mem_cons_of_mem _ hd)]
    rfl

theorem length_renderString_plain {s : String} (h : ∀ c ∈ s.toList, Json.escapeChar c = [c]) :
    (Json.renderString s).length = s.length + 2 := by
  rw [← String.length_toList]
  simp [Json.renderString, flatMap_escapeChar_plain h]

/-- The text of an instant in UTC at a whole second, `YYYY-MM-DDTHH:MM:SS+00:00`. -/
def IsSecondText (s : String) : Prop := s.length = 25 ∧ ∀ c ∈ s.toList, c ∈ "0123456789-T:+".toList

theorem IsSecondText.length_renderString {s : String} (h : IsSecondText s) :
    (Json.renderString s).length = 27 := by
  have hplain : "0123456789-T:+".toList.all (fun c => Json.escapeChar c = [c]) = true := by rfl
  rw [length_renderString_plain fun c hc =>
    of_decide_eq_true (List.all_eq_true.mp hplain c (h.2 c hc)), h.1]

/-- A digest with a line feed behind it at most. -/
theorem length_of_isHexDigest {s : String} (h : IsHexDigest s) : 64 ≤ s.length ∧
    (Json.renderString s).length ≤ 68 := by
  have hplain : "0123456789abcdef".toList.all (fun c => Json.escapeChar c = [c]) = true := by rfl
  have hcore : ∀ l : List Char, (∀ c ∈ l, c ∈ "0123456789abcdef".toList) →
      (l.flatMap Json.escapeChar).length = l.length := by
    intro l hl
    induction l with
    | nil => rfl
    | cons c l ih =>
      rw [List.flatMap_cons, List.length_append, ih fun d hd => hl d (List.mem_cons_of_mem _ hd),
        of_decide_eq_true (List.all_eq_true.mp hplain c (hl c List.mem_cons_self))]
      simp only [List.length_cons, List.length_nil]
      omega
  obtain ⟨hlength, hdigits⟩ := h
  simp only [Json.renderString, List.length_append, List.length_cons, List.length_nil]
  rw [← String.length_toList]
  by_cases hlast : s.toList.getLast? = some '\n'
  · rw [if_pos hlast] at hlength hdigits
    rw [← List.dropLast_append_getLast? '\n' hlast, List.flatMap_append, List.length_append,
      List.length_append, hcore _ hdigits, hlength]
    exact ⟨by simp, by decide⟩
  · rw [if_neg hlast] at hlength hdigits
    rw [hcore _ hdigits, hlength]
    omega

/-- The outcomes that the receipt contract knows, of a command with this prestate. -/
inductive Closed (prestateSha256 : String) : LabMutationResult → Prop
  | applied {poststate : String} (h : IsSha256 poststate) (hchanged : poststate ≠ prestateSha256) :
    Closed prestateSha256 (.of "APPLIED" true "RULESET_APPLIED" poststate)
  | rejected : Closed prestateSha256 (.of "NO_EFFECT" false "REJECTED_PRE_EFFECT" prestateSha256)
  | unavailable :
    Closed prestateSha256 (.of "NO_EFFECT" false "TARGET_UNAVAILABLE_PRE_EFFECT" ZERO_DIGEST)
  | incomplete {poststate : String} (h : IsSha256 poststate) :
    Closed prestateSha256 (.of "PARTIAL" true "PARTIAL_RULESET" poststate)
  | ambiguous {poststate : String} (h : IsSha256 poststate) :
    Closed prestateSha256 (.of "AMBIGUOUS" true "EFFECT_UNCERTAIN" poststate)

theorem isSha256_zeroDigest : IsSha256 ZERO_DIGEST := by decide

section Receipt

variable {keyId digest timestamp : String} {command : Dict} {outcome : LabMutationResult}

/-- How long a closed outcome is. -/
theorem length_outcome_le {prestate : String} (hprestate : IsHexDigest prestate)
    (h : Closed prestate outcome) :
    outcome.status.toJson.render.length + outcome.effectPossible.toJson.render.length +
      outcome.reasonCode.toJson.render.length + outcome.poststateSha256.toJson.render.length ≤
        115 := by
  have hlength : ∀ s, IsSha256 s → (Json.renderString s).length = 66 :=
    fun s hs => hs.length_renderString
  have hrejected := (length_of_isHexDigest hprestate).2
  cases h with
  | applied h _ =>
    have hrest : (Json.renderString "APPLIED").length + (Json.render (.bool true)).length +
      (Json.renderString "RULESET_APPLIED").length = 30 := by decide
    have hpoststate := hlength _ h
    simp only [LabMutationResult.of, PyVal.toJson, Json.render] at hrest ⊢
    omega
  | rejected =>
    have hrest : (Json.renderString "NO_EFFECT").length + (Json.render (.bool false)).length +
      (Json.renderString "REJECTED_PRE_EFFECT").length = 37 := by decide
    simp only [LabMutationResult.of, PyVal.toJson, Json.render] at hrest ⊢
    omega
  | unavailable =>
    have hrest : (Json.renderString "NO_EFFECT").length + (Json.render (.bool false)).length +
      (Json.renderString "TARGET_UNAVAILABLE_PRE_EFFECT").length = 47 := by decide
    have hpoststate := hlength _ isSha256_zeroDigest
    simp only [LabMutationResult.of, PyVal.toJson, Json.render] at hrest ⊢
    omega
  | incomplete h =>
    have hrest : (Json.renderString "PARTIAL").length + (Json.render (.bool true)).length +
      (Json.renderString "PARTIAL_RULESET").length = 30 := by decide
    have hpoststate := hlength _ h
    simp only [LabMutationResult.of, PyVal.toJson, Json.render] at hrest ⊢
    omega
  | ambiguous h =>
    have hrest : (Json.renderString "AMBIGUOUS").length + (Json.render (.bool true)).length +
      (Json.renderString "EFFECT_UNCERTAIN").length = 33 := by decide
    have hpoststate := hlength _ h
    simp only [LabMutationResult.of, PyVal.toJson, Json.render] at hrest ⊢
    omega

theorem memberLength_const (name : String) {text : String} {v : Json} (h : Schema.const text v = true) :
    memberLength (name, v) =
      (Json.renderString name).length + (Json.renderString text).length + 2 := by
  rw [str_of_const h]
  rfl

theorem memberLength_sha256_ge (name : String) {v : Json} (h : Schema.sha256 v = true) :
    (Json.renderString name).length + 68 ≤ memberLength (name, v) := by
  obtain ⟨s, rfl, hs⟩ := str_of_sha256 h
  have hrender := length_renderString_ge s
  have hlength := (length_of_isHexDigest hs).1
  show _ ≤ (Json.renderString name).length + (Json.renderString s).length + 2
  omega

theorem memberLength_nonce_ge (name : String) {v : Json} (h : Schema.nonce v = true) :
    (Json.renderString name).length + 36 ≤ memberLength (name, v) := by
  cases v with
  | str s =>
    have hcore := (Bool.and_eq_true _ _ ▸ h : _ ∧ _).1
    have hrender := length_renderString_ge s
    have hlength : 32 ≤ s.toList.length := by
      have hcore := of_decide_eq_true hcore
      split_ifs at hcore
      · rw [List.length_dropLast] at hcore
        omega
      · omega
    rw [String.length_toList] at hlength
    show _ ≤ (Json.renderString name).length + (Json.renderString s).length + 2
    omega
  | null | bool _ | int _ | float _ | arr _ | obj _ => cases h

theorem memberLength_timestamp_ge (name : String) {v : Json} (h : Schema.timestamp v = true) :
    (Json.renderString name).length + 24 ≤ memberLength (name, v) := by
  cases v with
  | str s =>
    have hlength := (of_decide_eq_true h).1
    have hrender := length_renderString_ge s
    show _ ≤ (Json.renderString name).length + (Json.renderString s).length + 2
    omega
  | null | bool _ | int _ | float _ | arr _ | obj _ => cases h

/-- An object is as long as its members of some names. -/
theorem memberLength_obj_ge (name : String) {fields : Dict} {names : List String}
    (hread : (Json.obj fields).Readable lib) (hnames : names.Nodup) (hne : names ≠ [])
    (h : ∀ name ∈ names, fields.lookup name = some (Dict.get fields name)) :
    (Json.renderString name).length + 3 +
      (names.map fun name => memberLength (name, Dict.get fields name)).sum ≤
        memberLength (name, .obj fields) := by
  have hsum := sum_memberLength_le hnames h hread.1
  have hfields : fields ≠ [] := by
    rintro rfl
    obtain ⟨name, hname⟩ := List.exists_mem_of_ne_nil names hne
    simpa using h name hname
  show _ ≤ (Json.renderString name).length + (Json.obj fields).render.length + 2
  rw [Phase3.length_render_obj hfields]
  change _ ≤ _ + (1 + (fields.map memberLength).sum) + 2
  omega

theorem IsCommand.memberLength_parameters_ge (h : IsCommand lib keyId command) :
    72 ≤ memberLength ("parameters", command.get "parameters") := by
  have hproperty := h.property (List.mem_of_getElem? (rfl : (commandProperties lib)[11]? = some _))
  obtain ⟨fields, hget⟩ : ∃ fields, command.get "parameters" = .obj fields := by
    cases hv : command.get "parameters" with
    | obj fields => exact ⟨fields, rfl⟩
    | null | bool _ | int _ | float _ | str _ | arr _ =>
      rw [hv] at hproperty
      cases hproperty
  rw [hget] at hproperty ⊢
  have hlookup : command.lookup "parameters" = some (.obj fields) := by
    rw [h.lookup_eq (by decide : "parameters" ∈ commandNames), hget]
  have hread : (Json.obj fields).Readable lib :=
    Json.readableFields_iff.mp h.readable.2 _ ((Json.lookup_eq_some_iff_mem h.readable.1).mp hlookup)
  have hprofile := property_get hproperty (List.mem_of_getElem? (rfl : _[2]? = some _))
  have hfields := memberLength_obj_ge "parameters" hread (by decide : ["network_profile"].Nodup) (by simp)
    (List.forall_mem_singleton.mpr hprofile.1)
  have hlength := memberLength_const "network_profile" hprofile.2
  have hnames : (Json.renderString "network_profile").length = 17 ∧
    (Json.renderString "LAB_BEACON_BLOCK_MANAGEMENT_ALLOW_V1").length = 38 ∧
    (Json.renderString "parameters").length = 12 := by decide
  simp only [List.map_cons, List.map_nil, List.sum_cons, List.sum_nil] at hfields
  omega

/-- The envelope of a command is as long as that of its receipt. -/
theorem IsCommand.memberLength_envelope_ge (h : IsCommand lib keyId command) :
    memberLength ("authentication", .obj (envelopeOf keyId ZERO_DIGEST)) ≤
      memberLength ("authentication", command.get "authentication") := by
  obtain ⟨fields, hlookup, hget, hkeyId, hschema⟩ := h.authentication
  have hread : (Json.obj fields).Readable lib :=
    Json.readableFields_iff.mp h.readable.2 _ ((Json.lookup_eq_some_iff_mem h.readable.1).mp hlookup)
  have hkey := property_get hschema (List.mem_cons_self : ("key_id", Schema.identifier) ∈ _)
  have hmac := property_get hschema
    (List.mem_cons_of_mem _ List.mem_cons_self : ("mac_sha256", Schema.sha256) ∈ _)
  have hfields := memberLength_obj_ge "authentication" hread (by decide : ["key_id", "mac_sha256"].Nodup) (by simp)
    (List.forall_mem_cons.mpr ⟨hkey.1, List.forall_mem_singleton.mpr hmac.1⟩)
  have hmacLength := memberLength_sha256_ge "mac_sha256" hmac.2
  have hzeros : (Json.renderString ZERO_DIGEST).length = 66 := isSha256_zeroDigest.length_renderString
  have henvelope : (Json.obj (envelopeOf keyId ZERO_DIGEST)).render.length =
      1 + (memberLength ("key_id", .str keyId) + (memberLength ("mac_sha256", .str ZERO_DIGEST) + 0)) := by
    rw [Phase3.length_render_obj (by simp [envelopeOf])]
    rfl
  have hreceipt : memberLength ("mac_sha256", .str ZERO_DIGEST) =
      (Json.renderString "mac_sha256").length + (Json.renderString ZERO_DIGEST).length + 2 := rfl
  rw [hget]
  simp only [List.map_cons, List.map_nil, List.sum_cons, List.sum_nil, hkeyId] at hfields
  change (Json.renderString "authentication").length +
    (Json.obj (envelopeOf keyId ZERO_DIGEST)).render.length + 2 ≤ _
  omega

theorem memberLength_eq (name : String) (v : Json) :
    memberLength (name, v) = (Json.renderString name).length + v.render.length + 2 := rfl

/-- The members of a command that its receipt does not have. -/
theorem IsCommand.memberLength_ge (h : IsCommand lib keyId command) :
    memberLength ("message_type", .str RECEIPT) + 390 ≤
      memberLength ("message_type", command.get "message_type") +
      memberLength ("policy_sha256", command.get "policy_sha256") +
      memberLength ("adapter_contract_sha256", command.get "adapter_contract_sha256") +
      memberLength ("action", command.get "action") +
      memberLength ("parameters", command.get "parameters") +
      memberLength ("nonce", command.get "nonce") +
      memberLength ("issued_at", command.get "issued_at") +
      memberLength ("expires_at", command.get "expires_at") := by
  have htype : Schema.const COMMAND (command.get "message_type") = true :=
    h.property (by simp [commandProperties])
  have hpolicy : Schema.sha256 (command.get "policy_sha256") = true :=
    h.property (by simp [commandProperties])
  have hadapter : Schema.sha256 (command.get "adapter_contract_sha256") = true :=
    h.property (by simp [commandProperties])
  have haction : Schema.const "NETWORK_ISOLATE" (command.get "action") = true :=
    h.property (by simp [commandProperties])
  have hnonce : Schema.nonce (command.get "nonce") = true := h.property (by simp [commandProperties])
  have hissued : Schema.timestamp (command.get "issued_at") = true :=
    h.property (by simp [commandProperties])
  have hexpires : Schema.timestamp (command.get "expires_at") = true :=
    h.property (by simp [commandProperties])
  replace htype := memberLength_const "message_type" htype
  replace hpolicy := memberLength_sha256_ge "policy_sha256" hpolicy
  replace hadapter := memberLength_sha256_ge "adapter_contract_sha256" hadapter
  replace haction := memberLength_const "action" haction
  replace hnonce := memberLength_nonce_ge "nonce" hnonce
  replace hissued := memberLength_timestamp_ge "issued_at" hissued
  replace hexpires := memberLength_timestamp_ge "expires_at" hexpires
  have hparameters := h.memberLength_parameters_ge
  have hreceipt : memberLength ("message_type", .str RECEIPT) =
      (Json.renderString "message_type").length + (Json.renderString RECEIPT).length + 2 :=
    memberLength_eq _ _
  have hnames : (Json.renderString "policy_sha256").length = 15 ∧
    (Json.renderString "adapter_contract_sha256").length = 25 ∧
    (Json.renderString "action").length = 8 ∧ (Json.renderString "NETWORK_ISOLATE").length = 17 ∧
    (Json.renderString "nonce").length = 7 ∧ (Json.renderString "issued_at").length = 11 ∧
    (Json.renderString "expires_at").length = 12 ∧
    (Json.renderString "message_type").length = 14 := by decide
  have htypes : (Json.renderString COMMAND).length = 23 ∧ (Json.renderString RECEIPT).length = 22 := by
    decide
  simp only [hnames, htypes] at htype hpolicy hadapter haction hnonce hissued hexpires hreceipt
  linarith only [htype, hpolicy, hadapter, haction, hnonce, hissued, hexpires, hparameters, hreceipt]

/-- The members of a receipt that its command does not have. -/
theorem memberLength_receipt_le (hdigest : IsSha256 digest) (htime : IsSecondText timestamp)
    {prestate : String} (hprestate : IsHexDigest prestate) (hclosed : Closed prestate outcome) :
    memberLength ("command_sha256", .str digest) + memberLength ("status", outcome.status.toJson) +
      memberLength ("effect_possible", outcome.effectPossible.toJson) +
      memberLength ("reason_code", outcome.reasonCode.toJson) +
      memberLength ("poststate_sha256", outcome.poststateSha256.toJson) +
      memberLength ("executed_at", .str timestamp) +
      memberLength ("recorded_at", .str timestamp) ≤ 347 := by
  have houtcome := length_outcome_le hprestate hclosed
  have hcommand : (Json.render (.str digest)).length = 66 := hdigest.length_renderString
  have hsecond : (Json.render (.str timestamp)).length = 27 := htime.length_renderString
  have hnames : (Json.renderString "command_sha256").length = 16 ∧
    (Json.renderString "status").length = 8 ∧ (Json.renderString "effect_possible").length = 17 ∧
    (Json.renderString "reason_code").length = 13 ∧
    (Json.renderString "poststate_sha256").length = 18 ∧
    (Json.renderString "executed_at").length = 13 ∧
    (Json.renderString "recorded_at").length = 13 := by decide
  simp only [memberLength_eq, hnames, hcommand, hsecond]
  linarith only [houtcome]

/-- A receipt of a closed outcome is no longer than its command. -/
theorem IsCommand.encodedSize_receipt_le (h : IsCommand lib keyId command) (hdigest : IsSha256 digest)
    (htime : IsSecondText timestamp) (hclosed : Closed (textOf command "prestate_sha256") outcome) :
    encodedSize (.obj (withCode
      (LabExecutorService.unsignedReceipt command digest timestamp outcome) keyId ZERO_DIGEST)) ≤
      encodedSize (.obj command) := by
  have hne : command ≠ [] := by
    rintro rfl
    cases h.lookup_eq (List.mem_cons_self : "schema_version" ∈ commandNames)
  have hsum := sum_memberLength_le (by decide : commandNames.Nodup)
    (fun name hname => h.lookup_eq hname) h.readable.1
  have hversion : command.get "schema_version" = .str SCHEMA_VERSION :=
    str_of_const (h.property (by simp [commandProperties]))
  have hcommand := h.memberLength_ge
  have hreceipt := memberLength_receipt_le hdigest htime h.isHexDigest_prestate hclosed
  have henvelope := h.memberLength_envelope_ge
  rw [encodedSize_obj (by simp [withCode]), encodedSize_obj hne]
  simp only [commandNames, List.map_cons, List.map_nil, List.sum_cons, List.sum_nil, hversion]
    at hsum
  simp only [withCode, LabExecutorService.unsignedReceipt, List.cons_append, List.nil_append,
    List.map_cons, List.map_nil, List.sum_cons, List.sum_nil]
  linarith only [hsum, hcommand, hreceipt, henvelope]

end Receipt

/-! ## §4 Receipts that can be signed -/

section Signable

variable {keyId digest timestamp : String} {command : Dict} {outcome : LabMutationResult} {now : Int}

/-- The receipt of an outcome that is not closed by its effect is no message. -/
theorem effect_of_schema {mac : String} (h : MessageType.receipt.schema lib
    (.obj (withCode (LabExecutorService.unsignedReceipt command digest timestamp outcome) keyId
      mac)) = true) : ∃ b, outcome.effectPossible = .bool b := by
  have hproperty : Schema.boolean outcome.effectPossible.toJson = true :=
    (property_get h (List.mem_of_getElem? (rfl : _[12]? = some ("effect_possible", _)))).2
  cases hv : outcome.effectPossible with
  | bool b => exact ⟨b, rfl⟩
  | none | int _ | float _ | str _ | tuple _ | list _ | dict _ =>
    rw [hv] at hproperty
    cases hproperty

theorem IsCommand.schema_receipt (h : IsCommand lib keyId command) (hdigest : IsSha256 digest)
    (htime : IsSecondText timestamp) (hclosed : Closed (textOf command "prestate_sha256") outcome) :
    MessageType.receipt.schema lib (.obj (withCode
      (LabExecutorService.unsignedReceipt command digest timestamp outcome) keyId ZERO_DIGEST)) =
        true := by
  have hsecond : Schema.timestamp (.str timestamp) = true := by
    simp [Schema.timestamp, htime.1]
  have hprestate : Schema.sha256 (command.get "prestate_sha256") = true :=
    h.property (by simp [commandProperties])
  have hzeros : Schema.sha256 (.str ZERO_DIGEST) = true := Schema.sha256_of_isSha256 isSha256_zeroDigest
  have hauthentication : Schema.authentication (.obj (envelopeOf keyId ZERO_DIGEST)) = true := by
    rw [Schema.authentication]
    apply Schema.object_of (by simp [envelopeOf])
    simp only [envelopeOf, List.forall₂_cons, List.forall₂_nil_left_iff, true_and, and_true]
    exact ⟨h.identifier_keyId, hzeros⟩
  -- the members of the outcome
  have houtcome : Schema.enum ["APPLIED", "NO_EFFECT", "PARTIAL", "AMBIGUOUS"]
        outcome.status.toJson = true ∧ Schema.boolean outcome.effectPossible.toJson = true ∧
      Schema.enum ["RULESET_APPLIED", "REJECTED_PRE_EFFECT", "TARGET_UNAVAILABLE_PRE_EFFECT",
        "PARTIAL_RULESET", "EFFECT_UNCERTAIN"] outcome.reasonCode.toJson = true ∧
      Schema.sha256 outcome.poststateSha256.toJson = true := by
    cases hclosed with
    | applied hpoststate _ =>
      simp [Schema.enum, LabMutationResult.of, PyVal.toJson, Schema.boolean,
        Schema.sha256_of_isSha256 hpoststate]
    | rejected =>
      have hpoststate : Schema.sha256 (.str (textOf command "prestate_sha256")) = true :=
        decide_eq_true h.isHexDigest_prestate
      simp [Schema.enum, LabMutationResult.of, PyVal.toJson, Schema.boolean, hpoststate]
    | unavailable =>
      simp [Schema.enum, LabMutationResult.of, PyVal.toJson, Schema.boolean,
        Schema.sha256_of_isSha256 isSha256_zeroDigest]
    | incomplete hpoststate =>
      simp [Schema.enum, LabMutationResult.of, PyVal.toJson, Schema.boolean,
        Schema.sha256_of_isSha256 hpoststate]
    | ambiguous hpoststate =>
      simp [Schema.enum, LabMutationResult.of, PyVal.toJson, Schema.boolean,
        Schema.sha256_of_isSha256 hpoststate]
  obtain ⟨hstatus, heffect, hreason, hpoststate⟩ := houtcome
  apply Schema.object_of
  · show (List.map Prod.fst (exampleReceipt "")).Nodup
    exact (names_example "").2
  · simp only [withCode, LabExecutorService.unsignedReceipt, List.cons_append, List.nil_append,
      List.forall₂_cons, List.forall₂_nil_left_iff, true_and, and_true, hsecond, hprestate,
      hauthentication, hstatus, heffect, hreason, hpoststate,
      Schema.sha256_of_isSha256 hdigest]
    have hconst : ∀ text, Schema.const text (.str text) = true := fun _ => decide_eq_true rfl
    refine ⟨hconst _, hconst _, ?_, ?_, ?_, ?_, ?_, ?_, ?_, ?_⟩
    all_goals exact h.property (by simp [commandProperties])

theorem jsonDepth_of_scalar {p : Json → Bool} (harr : ∀ xs, p (.arr xs) = false)
    (hobj : ∀ fs, p (.obj fs) = false) {v : Json} (h : p v = true) : jsonDepth v = 1 := by
  cases v with
  | arr xs =>
    rw [harr] at h
    cases h
  | obj fs =>
    rw [hobj] at h
    cases h
  | null | bool _ | int _ | float _ | str _ => rfl

theorem jsonDepthFields_le {fs : Dict} {n : Nat} (h : ∀ f ∈ fs, jsonDepth f.2 ≤ n) :
    jsonDepthFields fs ≤ n := by
  induction fs with
  | nil => exact Nat.zero_le n
  | cons f fs ih =>
    exact max_le (h f List.mem_cons_self) (ih fun g hg => h g (List.mem_cons_of_mem _ hg))

/-- Nothing in a receipt but its envelope is nested. -/
theorem IsCommand.jsonDepth_receipt_le (h : IsCommand lib keyId command)
    (hclosed : Closed (textOf command "prestate_sha256") outcome) :
    jsonDepth (.obj (withCode (LabExecutorService.unsignedReceipt command digest timestamp outcome)
      keyId ZERO_DIGEST)) ≤ MAX_JSON_DEPTH := by
  have hidentifier : ∀ {name}, (name, Schema.identifier) ∈ commandProperties lib →
      jsonDepth (command.get name) ≤ 1 := fun hname =>
    (jsonDepth_of_scalar (fun _ => rfl) (fun _ => rfl) (h.property hname)).le
  have htarget : jsonDepth (command.get "target_id") ≤ 1 :=
    (jsonDepth_of_scalar (p := Schema.const TARGET_ID) (fun _ => rfl) (fun _ => rfl)
      (h.property (by simp [commandProperties]))).le
  have hsequence : jsonDepth (command.get "sequence") ≤ 1 :=
    (jsonDepth_of_scalar (p := Schema.integer lib 1 9223372036854775807) (fun _ => rfl) (fun _ => rfl)
      (h.property (by simp [commandProperties]))).le
  have hprestate : jsonDepth (command.get "prestate_sha256") ≤ 1 :=
    (jsonDepth_of_scalar (p := Schema.sha256) (fun _ => rfl) (fun _ => rfl)
      (h.property (by simp [commandProperties]))).le
  have houtcome : jsonDepth outcome.status.toJson ≤ 1 ∧ jsonDepth outcome.effectPossible.toJson ≤ 1 ∧
      jsonDepth outcome.reasonCode.toJson ≤ 1 ∧ jsonDepth outcome.poststateSha256.toJson ≤ 1 := by
    cases hclosed <;> exact ⟨le_refl 1, le_refl 1, le_refl 1, le_refl 1⟩
  have hfields : jsonDepthFields
      (LabExecutorService.unsignedReceipt command digest timestamp outcome) ≤ 1 := by
    apply jsonDepthFields_le
    simp only [LabExecutorService.unsignedReceipt, List.forall_mem_cons]
    refine ⟨le_refl 1, le_refl 1, hidentifier ?_, hidentifier ?_, hidentifier ?_, hidentifier ?_,
      le_refl 1, hidentifier ?_, htarget, hidentifier ?_, hsequence, houtcome.1, houtcome.2.1,
      houtcome.2.2.1, hprestate, houtcome.2.2.2, le_refl 1, le_refl 1, by simp⟩
    all_goals simp [commandProperties]
  show 1 + jsonDepthFields (_ ++ [_]) ≤ MAX_JSON_DEPTH
  rw [jsonDepthFields_append, MAX_JSON_DEPTH]
  have henvelope : jsonDepthFields [("authentication", .obj (envelopeOf keyId ZERO_DIGEST))] = 2 := rfl
  omega

/-- What is checked of the outcome of a receipt. -/
theorem validateReceiptOutcome_of (status reason poststate mac : String) (effect : Bool) :
    validateReceiptOutcome (withCode (LabExecutorService.unsignedReceipt command digest timestamp
      (.of status effect reason poststate)) keyId mac) =
      if (receiptOutcomes status).any (fun o => o.1 = effect && o.2 = reason) = false then
        .error "LAB_RECEIPT_OUTCOME_INVALID"
      else if status = "NO_EFFECT" ∧ poststate ≠ (if reason = "TARGET_UNAVAILABLE_PRE_EFFECT" then
        ZERO_DIGEST else textOf command "prestate_sha256") then .error "LAB_RECEIPT_OUTCOME_INVALID"
      else if status = "APPLIED" ∧ poststate = textOf command "prestate_sha256" then
        .error "LAB_RECEIPT_OUTCOME_INVALID"
      else .ok () := rfl

/-- A closed outcome agrees with itself. -/
theorem validateReceiptOutcome_of_closed {mac : String}
    (hclosed : Closed (textOf command "prestate_sha256") outcome) :
    validateReceiptOutcome (withCode (LabExecutorService.unsignedReceipt command digest timestamp
      outcome) keyId mac) = .ok () := by
  cases hclosed with
  | applied _ hchanged =>
    rw [validateReceiptOutcome_of, if_neg (by decide), if_neg fun h => absurd h.1 (by decide),
      if_neg fun h => hchanged h.2]
  | rejected =>
    rw [validateReceiptOutcome_of, if_neg (by decide), if_neg fun h => h.2 (if_neg (by decide)).symm,
      if_neg fun h => absurd h.1 (by decide)]
  | unavailable =>
    rw [validateReceiptOutcome_of, if_neg (by decide), if_neg fun h => h.2 (if_pos rfl).symm,
      if_neg fun h => absurd h.1 (by decide)]
  | incomplete _ =>
    rw [validateReceiptOutcome_of, if_neg (by decide), if_neg fun h => absurd h.1 (by decide),
      if_neg fun h => absurd h.1 (by decide)]
  | ambiguous _ =>
    rw [validateReceiptOutcome_of, if_neg (by decide), if_neg fun h => absurd h.1 (by decide),
      if_neg fun h => absurd h.1 (by decide)]

/-- A closed outcome has a receipt that can be signed. -/
theorem IsCommand.validate_receipt (h : IsCommand lib keyId command) (hdigest : IsSha256 digest)
    (htime : IsSecondText (rt.isoformat now)) (hclock : rt.IsDatetime now)
    (htruncated : Runtime.truncate now = now)
    (hclosed : Closed (textOf command "prestate_sha256") outcome) :
    validateLabMessageDict rt lib .receipt (withCode (LabExecutorService.unsignedReceipt command
      digest (rt.isoformat now) outcome) keyId ZERO_DIGEST) now false =
        .ok (withCode (LabExecutorService.unsignedReceipt command digest (rt.isoformat now) outcome)
          keyId ZERO_DIGEST) := by
  have hparse : parseCanonicalUtc rt (rt.isoformat now) = some now := by
    rw [parseCanonicalUtc, hclock.2.2, Option.bind_some, htruncated, if_pos rfl]
  refine validateLabMessageDict_of ((h.encodedSize_receipt_le hdigest htime hclosed).trans h.size) ?_
    (not_versionUnsupported rfl) (h.schema_receipt hdigest htime hclosed) (fun hmode => by cases hmode)
    ?_ ?_
  · exact h.jsonDepth_receipt_le hclosed
  · show validateReportTimes rt "executed_at" _ now = .ok ()
    have hexecuted : textOf (withCode (LabExecutorService.unsignedReceipt command digest
        (rt.isoformat now) outcome) keyId ZERO_DIGEST) "executed_at" = rt.isoformat now := rfl
    have hrecorded : textOf (withCode (LabExecutorService.unsignedReceipt command digest
        (rt.isoformat now) outcome) keyId ZERO_DIGEST) "recorded_at" = rt.isoformat now := rfl
    rw [validateReportTimes, hexecuted, hrecorded, hparse]
    have hfuture : ¬ now + MAX_FUTURE_SKEW < now := by
      rw [MAX_FUTURE_SKEW]
      omega
    simp only [lt_irrefl, if_false, if_neg hfuture]
  · exact validateReceiptOutcome_of_closed hclosed

theorem strOf_eq_some {v : PyVal} {s : String} (h : strOf v = some s) : v = .str s := by
  cases v with
  | str t => exact congrArg PyVal.str (Option.some.inj h)
  | none | bool _ | int _ | float _ | tuple _ | list _ | dict _ => cases h

theorem closed_preEffect (command : Dict) (prestate : Option LabObservedState) :
    Closed (textOf command "prestate_sha256") (LabExecutorService.preEffect command prestate) := by
  cases prestate with
  | none => exact .unavailable
  | some state => exact .rejected

/-- An admitted result is closed if its effect is a boolean. -/
theorem LabMutationResult.Valid.closed {r : LabMutationResult} {prestate : String} {b : Bool}
    (h : r.Valid lib prestate) (hb : r.effectPossible = .bool b) : Closed prestate r := by
  obtain ⟨status, hstatus, known, hknown, poststate, hpoststate, heffect, hreason, hsha, hsame,
    hchanged⟩ := h
  obtain ⟨rStatus, rEffect, rReason, rPoststate⟩ := r
  obtain rfl := strOf_eq_some hstatus
  obtain rfl := strOf_eq_some hpoststate
  obtain rfl := strOf_eq_some hreason
  obtain rfl : rEffect = .bool b := hb
  obtain rfl : b = known.1 := of_decide_eq_true heffect
  -- the status is one of the four that are known
  simp only [mutationOutcomes, Option.mem_def, List.lookup_cons, List.lookup_nil] at hknown
  split at hknown
  · next h =>
    obtain rfl := eq_of_beq h
    cases hknown
    exact .applied hsha (hchanged rfl)
  · split at hknown
    · next h =>
      obtain rfl := eq_of_beq h
      cases hknown
      obtain rfl := hsame rfl
      exact .rejected
    · split at hknown
      · next h =>
        obtain rfl := eq_of_beq h
        cases hknown
        exact .incomplete hsha
      · split at hknown
        · next h =>
          obtain rfl := eq_of_beq h
          cases hknown
          exact .ambiguous hsha
        · cases hknown

/-- No admitted result gives its effect as a number. -/
def EffectIsBool (lib : JsonLibrary) (command : Dict) (result : Option LabMutationResult) : Prop :=
  ∀ r ∈ result, r.Valid lib (textOf command "prestate_sha256") → ∃ b, r.effectPossible = .bool b

theorem closed_postEffect {result : Option LabMutationResult}
    (h : EffectIsBool lib command result) :
    Closed (textOf command "prestate_sha256") (LabExecutorService.postEffect lib command result) := by
  unfold LabExecutorService.postEffect
  cases hresult : result.filter fun r => r.Valid lib (textOf command "prestate_sha256") with
  | none => exact .ambiguous isSha256_zeroDigest
  | some r =>
    obtain ⟨hr, hvalid⟩ := Option.filter_eq_some_iff.mp hresult
    have hvalid := of_decide_eq_true hvalid
    obtain ⟨b, hb⟩ := h r hr hvalid
    exact hvalid.closed hb

theorem effect_of_closed {prestate : String} (h : Closed prestate outcome) :
    ∃ b, outcome.effectPossible = .bool b := by
  cases h <;> exact ⟨_, rfl⟩

/-- The receipt of the outcome is signed, and the policy side loads it at every time that is
not too far behind. -/
def Signable (rt : Runtime) (lib : JsonLibrary) (crypto : Primitives) (service : LabExecutorService)
    (now : Int) (command : Dict) (outcome : LabMutationResult) : Prop :=
  ∃ receipt, signLabMessage rt lib crypto .receipt service.keyId service.key now
    (LabExecutorService.unsignedReceipt command (labMessageSha256 rt command) (rt.isoformat now)
      outcome) = .ok receipt ∧
    ∀ now', now ≤ now' + MAX_FUTURE_SKEW → ∃ loaded,
      loadLabMessageBytes rt lib crypto .receipt service.keyId service.key now' false
        (signedBytes receipt) = .ok loaded ∧ Same (.obj loaded) (.obj receipt)

theorem IsCommand.readable_receipt (h : IsCommand lib keyId command)
    (hclosed : Closed (textOf command "prestate_sha256") outcome) :
    (Json.obj (LabExecutorService.unsignedReceipt command digest timestamp outcome)).Readable lib := by
  have hmember : ∀ {name}, name ∈ commandNames → (command.get name).Readable lib := fun hname =>
    Json.readableFields_iff.mp h.readable.2 _
      ((Json.lookup_eq_some_iff_mem h.readable.1).mp (h.lookup_eq hname))
  have houtcome : outcome.status.toJson.Readable lib ∧ outcome.effectPossible.toJson.Readable lib ∧
      outcome.reasonCode.toJson.Readable lib ∧ outcome.poststateSha256.toJson.Readable lib := by
    cases hclosed <;> exact ⟨trivial, trivial, trivial, trivial⟩
  constructor
  · have hsub : ((LabExecutorService.unsignedReceipt command digest timestamp outcome).map
        Prod.fst).Sublist ((exampleReceipt "").map Prod.fst) :=
      List.dropLast_sublist ((exampleReceipt "").map Prod.fst)
    exact (names_example "").2.sublist hsub
  · refine Json.readableFields_iff.mpr ?_
    simp only [LabExecutorService.unsignedReceipt, List.forall_mem_cons]
    refine ⟨trivial, trivial, hmember ?_, hmember ?_, hmember ?_, hmember ?_, trivial, hmember ?_,
      hmember ?_, hmember ?_, hmember ?_, houtcome.1, houtcome.2.1, houtcome.2.2.1, hmember ?_,
      houtcome.2.2.2, trivial, trivial, by simp⟩
    all_goals decide

variable {service : LabExecutorService}

theorem signable_of_closed (hcode : HexDigests crypto) (h : IsCommand lib service.keyId command)
    (hclock : rt.IsDatetime now) (htruncated : Runtime.truncate now = now)
    (htime : IsSecondText (rt.isoformat now))
    (hclosed : Closed (textOf command "prestate_sha256") outcome) :
    Signable rt lib crypto service now command outcome := by
  have hvalid := h.validate_receipt (rt.sha256Json_isSha256 (.obj command)) htime hclock htruncated
    hclosed
  have hsign := @signLabMessage_of rt lib crypto .receipt _ _ service.key now service.keyValid rfl hvalid
  refine ⟨_, hsign, fun now' hskew => ?_⟩
  apply load_of_signed hcode (h.readable_receipt hclosed) hsign
  refine ⟨rfl, now, ?_, hskew⟩
  show parseCanonicalUtc rt (rt.isoformat now) = some now
  rw [parseCanonicalUtc, hclock.2.2, Option.bind_some, htruncated, if_pos rfl]

/-- An admitted result is what is reported. -/
theorem postEffect_of_valid {r : LabMutationResult}
    (h : r.Valid lib (textOf command "prestate_sha256")) :
    LabExecutorService.postEffect lib command (some r) = r := by
  have hfilter : (some r).filter (fun r => r.Valid lib (textOf command "prestate_sha256")) =
      some r := by simp [h]
  rw [LabExecutorService.postEffect, hfilter]

theorem effectIsBool_of_signable {result : Option LabMutationResult}
    (h : Signable rt lib crypto service now command
      (LabExecutorService.postEffect lib command result)) : EffectIsBool lib command result := by
  obtain ⟨receipt, hsign, -⟩ := h
  intro r hr hvalid
  obtain rfl := Option.mem_def.mp hr
  obtain ⟨-, -, hzeros, -⟩ := signLabMessage_eq_ok hsign
  have heffect := effect_of_schema (of_validateLabMessageDict hzeros).2.2.2.2.1
  rwa [postEffect_of_valid hvalid] at heffect

end Signable

end DecisionFirewall.Lab
