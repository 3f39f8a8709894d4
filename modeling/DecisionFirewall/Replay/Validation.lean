import DecisionFirewall.Lib.Prog
import DecisionFirewall.Replay.Lines

/-!
# What the Contract Raises and Accepts

The errors that a case record can raise, with the places they name; the one check that
raises another exception; and what is known of a record that is accepted.

- §1 the errors of the checks
- §2 the other exception
- §3 accepted records
- §4 accepted files
-/

namespace DecisionFirewall.Replay

open Lib (Raises bind_eq_ok bind_eq_error)

/-! ## §1 The errors of the checks -/

/-- The place is one of these fields of the case, or one of these of an event. -/
def Site.Among (caseFields eventFields : List String) (site : Site) : Prop :=
  match site.event with
  | none => site.field ∈ caseFields
  | some _ => site.field ∈ eventFields

theorem Site.Among.mono {caseFields eventFields caseFields' eventFields' : List String} {site : Site}
    (h : site.Among caseFields eventFields) (hcase : caseFields ⊆ caseFields')
    (hevent : eventFields ⊆ eventFields') : site.Among caseFields' eventFields' := by
  obtain ⟨event, field⟩ := site
  cases event with
  | none => exact hcase h
  | some index => exact hevent h

/-- The fields that hold identifiers. -/
def CASE_IDENTIFIERS : List String := [".case_id", ".subject_id", ".asset_id", ".privilege_level"]

def EVENT_IDENTIFIERS : List String :=
  [".event_id", ".case_id", ".source_type", ".source_instance", ".provenance_id", ".entity_refs[]"]

def EVENT_TIMESTAMPS : List String := [".observed_at", ".collected_at"]

/-- The attributes that are read. -/
def SELECTED_ATTRIBUTES : List String :=
  (MODELED_BOOLEAN_ATTRIBUTE_SOURCES ++ MODELED_INTEGER_ATTRIBUTE_SOURCES ++
    EVIDENCE_BOOLEAN_ATTRIBUTE_SOURCES).map Prod.fst

def EVENT_BOOLEANS : List String :=
  ".contains_instructional_content" :: SELECTED_ATTRIBUTES.map fun name => ".attributes." ++ name

def INVENTORY_FIELDS : List String :=
  ["asset_id", "privilege_level", "break_glass", "asset_criticality"]

/-- The errors that a record can raise: where, and what of the record they quote. What the
whole-file checks look at is said by the record itself. -/
def Violation.Reviewed (record : Dict) : Violation → Prop
  | .recordNotObject | .fileDuplicateCase _ | .fileDuplicateEvent _ => False
  | .labelLeakage _ => detectRuntimeLabelLeakage "case" (.obj record) ≠ []
  | .version _ => unsupportedVersion record = true
  | .duplicateEventId _ _ => ¬ (identifierDefinitions record).2.Nodup
  | .eventsNotArray => ∀ events, record.get "events" ≠ .arr events
  | .eventsEmpty => record.get "events" = .arr []
  | .notObject site => site.Among [] ["", ".attributes"]
  | .missingFields site names =>
    site.Among [""] [""] ∧ ∀ name ∈ names, name ∈ CASE_FIELDS ++ EVENT_FIELDS
  | .unsupportedFields site _ => site.Among [""] [""]
  | .emptyText site =>
    site.Among (".opened_at" :: CASE_IDENTIFIERS) (EVENT_TIMESTAMPS ++ EVENT_IDENTIFIERS)
  | .identifier site _ => site.Among CASE_IDENTIFIERS EVENT_IDENTIFIERS
  | .boolean site => site.Among [".break_glass"] EVENT_BOOLEANS
  | .numeric site | .unitInterval site => site.Among [".asset_criticality"] [".trust_score"]
  | .timestamp site | .offset site => site.Among [".opened_at"] EVENT_TIMESTAMPS
  | .inventoryMissing caseId => IsIdentifier caseId
  | .caseMismatch _ eventCaseId caseId => IsIdentifier eventCaseId ∧ IsIdentifier caseId
  | .duplicateReference _ reference => IsIdentifier reference
  | .unauthorized _ name => name ∈ SELECTED_ATTRIBUTES
  | .integer _ name | .attributeRange _ name => name = "failed_logins"
  | .featureIdentifier label => label ∈ ["case.asset_id", "case.privilege_level",
      "asset_inventory.attributes.asset_id", "asset_inventory.attributes.privilege_level"]
  | .featureBoolean label => label = "asset_inventory.attributes.break_glass"
  | .featureNumeric label | .featureUnitInterval label =>
    label = "asset_inventory.attributes.asset_criticality"
  | .contextMismatch name => name ∈ INVENTORY_FIELDS
  | _ => True

/-- The failure is one of these errors. -/
def Failure.Reviewed (record : Dict) : Failure → Prop
  | .contract v => v.Reviewed record
  | .typeError => False

section Raised

variable {lib : Library} {record : Dict} {site : Site} {value : Json} {v w : Violation}
variable {index : Nat} {caseId : String}

theorem raises_violate {α : Type} (h : v.Reviewed record) :
    Raises (Failure.Reviewed record) (violate v : Checked α) :=
  Raises.error_iff.mpr h

theorem raises_ensure {condition : Prop} [Decidable condition]
    (h : ¬ condition → v.Reviewed record) :
    Raises (Failure.Reviewed record) (ensure condition v) := by
  unfold ensure
  split
  · exact Raises.ok _
  next hcondition => exact raises_violate (h hcondition)

theorem raises_requireExactFields {allowed : List String} {d : Dict} (hsite : site.Among [""] [""])
    (hallowed : ∀ name ∈ allowed, name ∈ CASE_FIELDS ++ EVENT_FIELDS) :
    Raises (Failure.Reviewed record) (requireExactFields allowed site d) := by
  unfold requireExactFields
  dsimp only
  split_ifs
  · exact raises_violate ⟨hsite, fun name hname => hallowed name (List.mem_filter.mp hname).1⟩
  · exact raises_violate hsite
  · exact Raises.ok _

theorem raises_requireNonemptyString (h : (Violation.emptyText site).Reviewed record) :
    Raises (Failure.Reviewed record) (requireNonemptyString site value) := by
  cases value with
  | str s =>
    unfold requireNonemptyString
    dsimp only
    split
    · exact raises_violate h
    · exact Raises.ok _
  | null | bool | int | float | arr | obj => exact raises_violate h

/-- What a check of an identifier returns. -/
theorem eq_of_requireIdentifier {candidate : String}
    (h : requireIdentifier site value = .ok candidate) :
    value = .str candidate ∧ IsIdentifier candidate := by
  obtain ⟨text, htext, h⟩ := bind_eq_ok.mp h
  split at h
  next hidentifier =>
    cases h
    refine ⟨?_, hidentifier⟩
    cases value with
    | str s =>
      unfold requireNonemptyString at htext
      dsimp only at htext
      split at htext
      · cases htext
      · cases htext
        rfl
    | null | bool | int | float | arr | obj => cases htext
  · cases h

theorem raises_requireIdentifier (h : site.Among CASE_IDENTIFIERS EVENT_IDENTIFIERS) :
    Raises (Failure.Reviewed record) (requireIdentifier site value) := by
  have hempty : (Violation.emptyText site).Reviewed record :=
    h.mono (List.subset_cons_self _ _) (List.subset_append_right _ _)
  refine Raises.bind (raises_requireNonemptyString hempty) fun candidate _ => ?_
  split
  · exact Raises.ok _
  · exact raises_violate h

theorem raises_parseTimestamp (h : site.Among [".opened_at"] EVENT_TIMESTAMPS) :
    Raises (Failure.Reviewed record) (parseTimestamp lib site value) := by
  have hempty : (Violation.emptyText site).Reviewed record :=
    h.mono (by simp) (List.subset_append_left _ _)
  refine Raises.bind (raises_requireNonemptyString hempty) fun candidate _ => ?_
  split
  · exact raises_violate h
  · exact raises_violate h
  · exact Raises.ok _

theorem raises_requireBoolean (h : site.Among [".break_glass"] EVENT_BOOLEANS) :
    Raises (Failure.Reviewed record) (requireBoolean site value) := by
  cases value with
  | bool b => exact Raises.ok _
  | null | int | float | str | arr | obj => exact raises_violate h

theorem raises_unitInterval (hv : v.Reviewed record) (hw : w.Reviewed record) :
    Raises (Failure.Reviewed record) (unitInterval lib v w value) := by
  cases value with
  | int n =>
    unfold unitInterval
    dsimp only
    split
    · exact Raises.ok _
    · exact raises_violate hw
  | float repr =>
    unfold unitInterval
    dsimp only
    split
    · split
      · exact Raises.ok _
      · exact raises_violate hw
    · exact raises_violate hw
  | null | bool | str | arr | obj => exact raises_violate hv

/-- Reading every entry raises what reading one of them raises. -/
theorem raises_collect {α β : Type} {P : Failure → Prop} {check : α → Checked (List β)}
    {entries : List α} (h : ∀ a ∈ entries, Raises P (check a)) :
    Raises P (collect check entries) := by
  induction entries with
  | nil => exact Raises.ok _
  | cons a entries ih =>
    refine Raises.bind (h a List.mem_cons_self) fun x _ => ?_
    refine Raises.bind (ih fun b hb => h b (List.mem_cons_of_mem _ hb)) fun xs _ => ?_
    exact Raises.pure _

theorem raises_selectAttribute {sourceType : String} {attributes : Dict}
    {read : String → Json → Checked Json} {entry : String × List String}
    (hname : entry.1 ∈ SELECTED_ATTRIBUTES)
    (hread : ∀ value, Raises (Failure.Reviewed record) (read entry.1 value)) :
    Raises (Failure.Reviewed record) (selectAttribute index sourceType attributes read entry) := by
  unfold selectAttribute
  split
  · exact Raises.ok _
  · split
    · exact raises_violate hname
    · exact (hread _).map

theorem raises_readBoolean {name : String} (hname : name ∈ SELECTED_ATTRIBUTES) :
    Raises (Failure.Reviewed record) (readBoolean index name value) := by
  cases value with
  | bool b => exact Raises.ok _
  | null | int | float | str | arr | obj =>
    exact raises_violate (List.mem_cons_of_mem _ (List.mem_map_of_mem hname))

theorem raises_readCount : Raises (Failure.Reviewed record) (readCount lib index "failed_logins" value) := by
  cases value with
  | int n =>
    unfold readCount
    dsimp only
    split
    · exact Raises.ok _
    · exact raises_violate rfl
  | float repr =>
    unfold readCount
    dsimp only
    split
    · exact raises_violate rfl
    · split_ifs
      · exact raises_violate rfl
      · exact Raises.ok _
      · exact raises_violate rfl
  | null | bool | str | arr | obj => exact raises_violate rfl

/-- The attributes of a table that is part of the selected ones. -/
theorem raises_selectBooleans {table : List (String × List String)} {sourceType : String}
    {attributes : Dict} (htable : ∀ entry ∈ table, entry.1 ∈ SELECTED_ATTRIBUTES) :
    Raises (Failure.Reviewed record)
      (collect (selectAttribute index sourceType attributes (readBoolean index)) table) :=
  raises_collect fun entry hentry =>
    raises_selectAttribute (htable entry hentry) fun _ => raises_readBoolean (htable entry hentry)

theorem mem_selected {entry : String × List String}
    (h : entry ∈ MODELED_BOOLEAN_ATTRIBUTE_SOURCES ++ MODELED_INTEGER_ATTRIBUTE_SOURCES ++
      EVIDENCE_BOOLEAN_ATTRIBUTE_SOURCES) : entry.1 ∈ SELECTED_ATTRIBUTES :=
  List.mem_map_of_mem h

theorem raises_selectModeledAttributes {sourceType : String} {attributes : Dict} :
    Raises (Failure.Reviewed record) (selectModeledAttributes lib index sourceType attributes) := by
  refine Raises.bind (raises_selectBooleans fun entry hentry => mem_selected ?_) fun _ _ => ?_
  · simp [hentry]
  refine Raises.bind (raises_collect fun entry hentry => ?_) fun _ _ => Raises.pure _
  obtain rfl := List.mem_singleton.mp hentry
  exact raises_selectAttribute (by simp [SELECTED_ATTRIBUTES, MODELED_INTEGER_ATTRIBUTE_SOURCES])
    fun _ => raises_readCount

theorem raises_selectEvidenceAttributes {sourceType : String} {attributes : Dict} :
    Raises (Failure.Reviewed record) (selectEvidenceAttributes index sourceType attributes) :=
  raises_selectBooleans fun entry hentry => mem_selected (by simp [hentry])

theorem raises_validateEventHead {event : Dict} (hcase : IsIdentifier caseId) :
    Raises (Failure.Reviewed record) (validateEventHead lib index caseId event) := by
  have hallowed : ∀ name ∈ EVENT_FIELDS, name ∈ CASE_FIELDS ++ EVENT_FIELDS :=
    fun name hname => List.mem_append_right _ hname
  have hsite (field : String) (hfield : field ∈ EVENT_IDENTIFIERS) :
      (Site.ofEvent index field).Among CASE_IDENTIFIERS EVENT_IDENTIFIERS := hfield
  have htime (field : String) (hfield : field ∈ EVENT_TIMESTAMPS) :
      (Site.ofEvent index field).Among [".opened_at"] EVENT_TIMESTAMPS := hfield
  -- one step a check, in the order of the source
  refine Raises.bind (raises_requireExactFields (List.mem_singleton.mpr rfl) hallowed)
    fun _ _ => ?_
  refine Raises.bind (raises_requireIdentifier (hsite _ (by simp [EVENT_IDENTIFIERS])))
    fun _ _ => ?_
  refine Raises.bind (raises_requireIdentifier (hsite _ (by simp [EVENT_IDENTIFIERS])))
    fun eventCaseId heventCaseId => ?_
  refine Raises.bind (raises_ensure fun _ => ⟨(eq_of_requireIdentifier heventCaseId).2, hcase⟩)
    fun _ _ => ?_
  refine Raises.bind (raises_requireIdentifier (hsite _ (by simp [EVENT_IDENTIFIERS])))
    fun _ _ => ?_
  refine Raises.bind (raises_requireIdentifier (hsite _ (by simp [EVENT_IDENTIFIERS])))
    fun _ _ => ?_
  refine Raises.bind (raises_parseTimestamp (htime _ (by simp [EVENT_TIMESTAMPS])))
    fun _ _ => ?_
  refine Raises.bind (raises_parseTimestamp (htime _ (by simp [EVENT_TIMESTAMPS])))
    fun _ _ => ?_
  exact raises_ensure fun _ => trivial

theorem raises_validateReferences {seen : List String} {references : List Json} :
    Raises (Failure.Reviewed record) (validateReferences index seen references) := by
  induction references generalizing seen with
  | nil => exact Raises.ok _
  | cons reference references ih =>
    have hsite : (Site.ofEvent index ".entity_refs[]").Among CASE_IDENTIFIERS EVENT_IDENTIFIERS := by
      show ".entity_refs[]" ∈ EVENT_IDENTIFIERS
      simp [EVENT_IDENTIFIERS]
    refine Raises.bind (raises_requireIdentifier hsite) fun parsed hparsed => ?_
    exact Raises.bind (raises_ensure fun _ => (eq_of_requireIdentifier hparsed).2) fun _ _ => ih

theorem raises_validateProvenance :
    Raises (Failure.Reviewed record) (validateProvenance index value) := by
  cases value with
  | str provenanceId =>
    unfold validateProvenance
    dsimp only
    split
    · exact Raises.ok _
    · refine (raises_requireIdentifier ?_).map
      show ".provenance_id" ∈ EVENT_IDENTIFIERS
      simp [EVENT_IDENTIFIERS]
  | null | bool | int | float | arr | obj => exact raises_violate trivial

theorem raises_validateEntityRefs :
    Raises (Failure.Reviewed record) (validateEntityRefs index value) := by
  cases value with
  | arr references => exact raises_validateReferences
  | null | bool | int | float | str | obj => exact raises_violate trivial

theorem raises_validateAttributes {sourceType : String} :
    Raises (Failure.Reviewed record) (validateAttributes lib index sourceType value) := by
  cases value with
  | obj attributes =>
    refine Raises.bind (raises_ensure fun _ => trivial) fun _ _ => ?_
    refine Raises.bind (raises_ensure fun _ => trivial) fun _ _ => ?_
    refine Raises.bind raises_selectModeledAttributes fun _ _ => ?_
    exact Raises.bind raises_selectEvidenceAttributes fun _ _ => Raises.pure _
  | null | bool | int | float | str | arr =>
    refine raises_violate ?_
    show ".attributes" ∈ ["", ".attributes"]
    simp

theorem raises_validateUntrustedText :
    Raises (Failure.Reviewed record) (validateUntrustedText index value) := by
  cases value with
  | str text => exact raises_ensure fun _ => trivial
  | null | bool | int | float | arr | obj => exact raises_violate trivial

theorem raises_validateEventTail {event : Dict} :
    Raises (Failure.Reviewed record) (validateEventTail lib index event) := by
  refine Raises.bind raises_validateProvenance fun _ _ => ?_
  have htrust : (Site.ofEvent index ".trust_score").Among [".asset_criticality"] [".trust_score"] :=
    List.mem_singleton.mpr rfl
  refine Raises.bind (raises_unitInterval htrust htrust) fun _ _ => ?_
  refine Raises.bind raises_validateEntityRefs fun _ _ => ?_
  refine Raises.bind raises_validateAttributes fun _ _ => ?_
  refine Raises.bind raises_validateUntrustedText fun _ _ => ?_
  exact Raises.bind (raises_requireBoolean List.mem_cons_self) fun _ _ => Raises.pure _

/-- The integrity of an event is the one value that another exception is raised on. -/
theorem raises_validateIntegrity (h : ∀ failure, validateIntegrity index value = .error failure →
      failure ≠ .typeError) :
    Raises (Failure.Reviewed record) (validateIntegrity index value) := by
  cases value with
  | str s => exact raises_ensure fun _ => trivial
  | null | bool | int | float => exact raises_violate trivial
  | arr | obj => exact absurd rfl (h .typeError rfl)

theorem raises_featureIdentifier {label : String}
    (h : (Violation.featureIdentifier label).Reviewed record) :
    Raises (Failure.Reviewed record) (featureIdentifier label value) := by
  cases value with
  | str s =>
    unfold featureIdentifier
    dsimp only
    split
    · exact Raises.ok _
    · exact raises_violate h
  | null | bool | int | float | arr | obj => exact raises_violate h

theorem raises_featureBoolean {label : String}
    (h : label = "asset_inventory.attributes.break_glass") :
    Raises (Failure.Reviewed record) (featureBoolean label value) := by
  cases value with
  | bool b => exact Raises.ok _
  | null | int | float | str | arr | obj => exact raises_violate h

theorem raises_checkInventory {assetId privilegeLevel : String} {breakGlass : Bool}
    {criticality : ℚ} {attributes : Dict} : Raises (Failure.Reviewed record)
      (checkInventory lib assetId privilegeLevel breakGlass criticality attributes) := by
  have hmismatch (name : String) (hname : name ∈ INVENTORY_FIELDS) :
      (Violation.contextMismatch name).Reviewed record := hname
  refine Raises.bind (raises_ensure fun _ => trivial) fun _ _ => ?_
  refine Raises.bind (raises_featureIdentifier (by simp [Violation.Reviewed])) fun _ _ => ?_
  refine Raises.bind (raises_featureIdentifier (by simp [Violation.Reviewed])) fun _ _ => ?_
  refine Raises.bind (raises_featureBoolean rfl) fun _ _ => ?_
  refine Raises.bind (raises_unitInterval rfl rfl) fun _ _ => ?_
  refine Raises.bind (raises_ensure fun _ => hmismatch _ (by simp [INVENTORY_FIELDS])) fun _ _ => ?_
  refine Raises.bind (raises_ensure fun _ => hmismatch _ (by simp [INVENTORY_FIELDS])) fun _ _ => ?_
  refine Raises.bind (raises_ensure fun _ => hmismatch _ (by simp [INVENTORY_FIELDS])) fun _ _ => ?_
  exact raises_ensure fun _ => hmismatch _ (by simp [INVENTORY_FIELDS])

theorem raises_checkInventories {assetId privilegeLevel : String} {breakGlass : Bool}
    {criticality : ℚ} {inventory : List Dict} : Raises (Failure.Reviewed record)
      (checkInventories lib assetId privilegeLevel breakGlass criticality inventory) := by
  induction inventory with
  | nil => exact Raises.ok _
  | cons attributes rest ih => exact Raises.bind raises_checkInventory fun _ _ => ih

theorem raises_validateContext {assetId privilegeLevel : Json} {breakGlass : Bool}
    {criticality : ℚ} {inventory : List Dict} : Raises (Failure.Reviewed record)
      (validateCanonicalCaseFeatureContext lib assetId privilegeLevel breakGlass criticality
        inventory) := by
  refine Raises.bind (raises_featureIdentifier (by simp [Violation.Reviewed])) fun _ _ => ?_
  refine Raises.bind (raises_featureIdentifier (by simp [Violation.Reviewed])) fun _ _ => ?_
  exact raises_checkInventories

/-- A version that the validator refuses is one that qualification does not let through. -/
theorem raises_requireVersion (hnames : "schema_version" ∈ record.map Prod.fst) :
    Raises (Failure.Reviewed record) (requireVersion (Dict.get record "schema_version")) := by
  obtain ⟨value, hvalue⟩ : ∃ value, record.lookup "schema_version" = some value := by
    cases hlookup : record.lookup "schema_version" with
    | none => exact absurd hnames (Dict.lookup_eq_none_iff.mp hlookup)
    | some value => exact ⟨value, rfl⟩
  have hget : Dict.get record "schema_version" = value := by
    rw [Dict.get, hvalue]
    rfl
  rw [hget]
  cases value with
  | str s =>
    refine raises_ensure fun hs => ?_
    simp [Violation.Reviewed, unsupportedVersion, hvalue, hs]
  | null | bool | int | float | arr | obj =>
    refine raises_violate ?_
    simp [Violation.Reviewed, unsupportedVersion, hvalue]

theorem raises_requireEvents :
    Raises (Failure.Reviewed record) (requireEvents (record.get "events")) := by
  cases hvalue : record.get "events" with
  | arr events =>
    cases events with
    | nil => exact raises_violate hvalue
    | cons event events =>
      show Raises _ (if MAX_EVENTS_PER_CASE < (event :: events).length then violate .eventCount
        else .ok (event :: events))
      split
      · exact raises_violate trivial
      · exact Raises.ok _
  | null | bool | int | float | str | obj =>
    refine raises_violate fun events heq => ?_
    rw [hvalue] at heq
    cases heq

/-- A dictionary with exactly these fields has each of them. -/
theorem mem_of_requireExactFields {allowed : List String} {d : Dict}
    (h : requireExactFields allowed site d = .ok ()) {name : String} (hname : name ∈ allowed) :
    name ∈ d.map Prod.fst := by
  by_contra hmissing
  have hne : allowed.filter (fun name => name ∉ d.map Prod.fst) ≠ [] :=
    List.ne_nil_of_mem (List.mem_filter.mpr ⟨hname, decide_eq_true hmissing⟩)
  unfold requireExactFields at h
  dsimp only at h
  rw [if_pos hne] at h
  cases h

theorem raises_validateCaseHead : Raises (Failure.Reviewed record) (validateCaseHead lib record) := by
  have hallowed : ∀ name ∈ CASE_FIELDS, name ∈ CASE_FIELDS ++ EVENT_FIELDS :=
    fun name hname => List.mem_append_left _ hname
  have hsite (field : String) (hfield : field ∈ CASE_IDENTIFIERS) :
      (Site.ofCase field).Among CASE_IDENTIFIERS EVENT_IDENTIFIERS := hfield
  -- one step a check, in the order of the source
  refine Raises.bind (raises_ensure fun _ => trivial) fun _ _ => ?_
  refine Raises.bind (raises_ensure fun hleak => hleak) fun _ _ => ?_
  refine Raises.bind (raises_requireExactFields (List.mem_singleton.mpr rfl) hallowed)
    fun _ hfields => ?_
  refine Raises.bind (raises_requireVersion (mem_of_requireExactFields hfields ?_)) fun _ _ => ?_
  · simp [CASE_FIELDS]
  refine Raises.bind (raises_requireIdentifier (hsite _ (by simp [CASE_IDENTIFIERS])))
    fun _ _ => ?_
  refine Raises.bind (raises_parseTimestamp (List.mem_singleton.mpr rfl)) fun _ _ => ?_
  refine Raises.bind (raises_requireIdentifier (hsite _ (by simp [CASE_IDENTIFIERS])))
    fun _ _ => ?_
  refine Raises.bind (raises_requireIdentifier (hsite _ (by simp [CASE_IDENTIFIERS])))
    fun _ _ => ?_
  refine Raises.bind (raises_requireIdentifier (hsite _ (by simp [CASE_IDENTIFIERS])))
    fun _ _ => ?_
  refine Raises.bind (raises_requireBoolean (List.mem_singleton.mpr rfl)) fun _ _ => ?_
  have hcriticality :
      (Site.ofCase ".asset_criticality").Among [".asset_criticality"] [".trust_score"] :=
    List.mem_singleton.mpr rfl
  refine Raises.bind (raises_unitInterval hcriticality hcriticality) fun _ _ => ?_
  exact Raises.bind raises_requireEvents fun _ _ => Raises.pure _

end Raised

/-! ## §2 The other exception -/

/-- A value that cannot be looked up in a set. -/
def Unhashable : Json → Prop
  | .arr _ | .obj _ => True
  | _ => False

section TypeErrors

variable {lib : Library} {record : Dict} {value : Json} {index : Nat} {caseId : String}

/-- A check that raises only reviewed errors does not raise the other one. -/
theorem ne_typeError {α : Type} {x : Checked α} (record : Dict)
    (h : Raises (Failure.Reviewed record) x) :
    x ≠ .error .typeError :=
  fun hx => h .typeError hx

theorem ensure_ne_typeError {condition : Prop} [Decidable condition] {v : Violation} :
    ensure condition v ≠ .error .typeError := by
  unfold ensure
  split
  · exact fun h => (by cases h)
  · exact fun h => (by cases h)

theorem validateIntegrity_eq_typeError :
    validateIntegrity index value = .error .typeError ↔ Unhashable value := by
  cases value with
  | arr | obj => exact ⟨fun _ => trivial, fun _ => rfl⟩
  | str s => exact ⟨fun h => absurd h ensure_ne_typeError, fun h => h.elim⟩
  | null | bool | int | float => exact ⟨fun h => (by cases h), fun h => h.elim⟩

/-- An event raises the other exception on its integrity only. -/
theorem validateEventRecord_eq_typeError (hcase : IsIdentifier caseId) :
    validateEventRecord lib index caseId value = .error .typeError ↔
      ∃ event, value = .obj event ∧ validateEventHead lib index caseId event = .ok () ∧
        Unhashable (Dict.get event "integrity") := by
  cases value with
  | obj event =>
    have hhead : validateEventHead lib index caseId event ≠ .error .typeError :=
      ne_typeError [] (raises_validateEventHead hcase)
    have htail : validateEventTail lib index event ≠ .error .typeError :=
      ne_typeError [] raises_validateEventTail
    constructor
    · intro h
      rcases bind_eq_error.mp h with h | ⟨⟨⟩, hhead', h⟩
      · exact absurd h hhead
      rcases bind_eq_error.mp h with h | ⟨⟨⟩, -, h⟩
      · exact ⟨event, rfl, hhead', validateIntegrity_eq_typeError.mp h⟩
      rcases bind_eq_error.mp h with h | ⟨⟨⟩, -, h⟩
      · exact absurd h htail
      · cases h
    · rintro ⟨_, ⟨⟩, hhead', hintegrity⟩
      refine bind_eq_error.mpr (.inr ⟨(), hhead', ?_⟩)
      exact bind_eq_error.mpr (.inl (validateIntegrity_eq_typeError.mpr hintegrity))
  | null | bool | int | float | str | arr =>
    exact ⟨fun h => (by cases h), fun ⟨_, h, _⟩ => (by cases h)⟩

/-- The events raise the other exception at an event whose predecessors are valid. -/
theorem validateEvents_eq_typeError {seen : List String} {events : List Json}
    (hcase : IsIdentifier caseId) :
    validateEvents lib caseId index seen events = .error .typeError ↔
      ∃ before event after inventory, events = before ++ .obj event :: after ∧
        validateEvents lib caseId index seen before = .ok inventory ∧
          validateEventHead lib (index + before.length) caseId event = .ok () ∧
            Unhashable (Dict.get event "integrity") := by
  -- induction on the events; a valid one is the first of those before
  induction events generalizing index seen with
  | nil =>
    refine ⟨fun h => (by cases h), ?_⟩
    rintro ⟨before, event, after, inventory, h, -⟩
    cases before <;> cases h
  | cons value events ih =>
    constructor
    · intro h
      rcases bind_eq_error.mp h with h | ⟨fields, hfields, h⟩
      · obtain ⟨event, rfl, hhead, hintegrity⟩ := (validateEventRecord_eq_typeError hcase).mp h
        exact ⟨[], event, events, [], rfl, rfl, hhead, hintegrity⟩
      rcases bind_eq_error.mp h with h | ⟨⟨⟩, hnew, h⟩
      · exact absurd h ensure_ne_typeError
      rcases bind_eq_error.mp h with h | ⟨inventory, -, h⟩
      · obtain ⟨before, event, after, inventory, rfl, hbefore, hhead, hintegrity⟩ := ih.mp h
        refine ⟨value :: before, event, after, inventoryOf fields ++ inventory, rfl, ?_, ?_,
          hintegrity⟩
        · refine bind_eq_ok.mpr ⟨fields, hfields, ?_⟩
          refine bind_eq_ok.mpr ⟨(), hnew, ?_⟩
          exact bind_eq_ok.mpr ⟨inventory, hbefore, rfl⟩
        · rw [List.length_cons, ← Nat.succ_add_eq_add_succ]
          exact hhead
      · cases h
    · rintro ⟨before, event, after, inventory, hevents, hbefore, hhead, hintegrity⟩
      cases before with
      | nil =>
        obtain ⟨rfl, rfl⟩ := List.cons.inj hevents
        refine bind_eq_error.mpr (.inl ?_)
        exact (validateEventRecord_eq_typeError hcase).mpr ⟨event, rfl, hhead, hintegrity⟩
      | cons first before =>
        obtain ⟨rfl, rfl⟩ := List.cons.inj hevents
        obtain ⟨fields, hfields, h⟩ := bind_eq_ok.mp hbefore
        obtain ⟨⟨⟩, hnew, h⟩ := bind_eq_ok.mp h
        obtain ⟨rest, hrest, -⟩ := bind_eq_ok.mp h
        refine bind_eq_error.mpr (.inr ⟨fields, hfields, ?_⟩)
        refine bind_eq_error.mpr (.inr ⟨(), hnew, ?_⟩)
        refine bind_eq_error.mpr (.inl (ih.mpr ⟨before, event, after, rest, rfl, hrest, ?_,
          hintegrity⟩))
        rw [Nat.succ_add_eq_add_succ]
        exact hhead

end TypeErrors

/-! ## §3 Accepted records -/

section Accepted

variable {lib : Library} {record : Dict} {value : Json} {index : Nat} {caseId : String}
variable {head : CaseHead}

theorem eq_of_ensure {condition : Prop} [Decidable condition] {v : Violation}
    (h : ensure condition v = .ok ()) : condition := by
  by_contra hcondition
  unfold ensure at h
  rw [if_neg hcondition] at h
  cases h

theorem eq_of_requireVersion (h : requireVersion value = .ok ()) :
    value = .str CONTRACT_VERSION := by
  cases value with
  | str s => rw [eq_of_ensure h]
  | null | bool | int | float | arr | obj => cases h

theorem eq_of_requireEvents {events : List Json} (h : requireEvents value = .ok events) :
    value = .arr events := by
  cases value with
  | arr items =>
    cases items with
    | nil => cases h
    | cons event items =>
      have hif : (if MAX_EVENTS_PER_CASE < (event :: items).length then violate .eventCount
        else .ok (event :: items)) = Except.ok events := h
      split at hif
      · cases hif
      · cases hif
        rfl
  | null | bool | int | float | str | obj => cases h

/-- What a valid head says of its record. -/
structure HeadOf (record : Dict) (head : CaseHead) : Prop where
  clean : detectRuntimeLabelLeakage "case" (.obj record) = []
  version : Dict.get record "schema_version" = .str CONTRACT_VERSION
  caseId : Dict.get record "case_id" = .str head.caseId
  identifier : IsIdentifier head.caseId
  events : Dict.get record "events" = .arr head.events

theorem headOf_of_validateCaseHead (h : validateCaseHead lib record = .ok head) :
    HeadOf record head := by
  obtain ⟨⟨⟩, -, h⟩ := bind_eq_ok.mp h
  obtain ⟨⟨⟩, hclean, h⟩ := bind_eq_ok.mp h
  obtain ⟨⟨⟩, -, h⟩ := bind_eq_ok.mp h
  obtain ⟨⟨⟩, hversion, h⟩ := bind_eq_ok.mp h
  obtain ⟨caseId, hcaseId, h⟩ := bind_eq_ok.mp h
  obtain ⟨_, -, h⟩ := bind_eq_ok.mp h
  obtain ⟨_, -, h⟩ := bind_eq_ok.mp h
  obtain ⟨_, -, h⟩ := bind_eq_ok.mp h
  obtain ⟨_, -, h⟩ := bind_eq_ok.mp h
  obtain ⟨breakGlass, -, h⟩ := bind_eq_ok.mp h
  obtain ⟨criticality, -, h⟩ := bind_eq_ok.mp h
  obtain ⟨events, hevents, h⟩ := bind_eq_ok.mp h
  cases h
  obtain ⟨htext, hidentifier⟩ := eq_of_requireIdentifier hcaseId
  exact ⟨eq_of_ensure hclean, eq_of_requireVersion hversion, htext, hidentifier,
    eq_of_requireEvents hevents⟩

/-- A valid event defines its identifier. -/
theorem definedEventId_of_valid {event : Dict}
    (h : validateEventRecord lib index caseId value = .ok event) :
    value = .obj event ∧ definedEventId value = some (textOf event "event_id") := by
  cases value with
  | obj fields =>
    obtain ⟨⟨⟩, hhead, h⟩ := bind_eq_ok.mp h
    obtain ⟨⟨⟩, -, h⟩ := bind_eq_ok.mp h
    obtain ⟨⟨⟩, -, h⟩ := bind_eq_ok.mp h
    cases h
    obtain ⟨⟨⟩, -, hhead⟩ := bind_eq_ok.mp hhead
    obtain ⟨eventId, heventId, -⟩ := bind_eq_ok.mp hhead
    obtain ⟨htext, hidentifier⟩ := eq_of_requireIdentifier heventId
    refine ⟨rfl, ?_⟩
    have hne : eventId ≠ "" := by
      rintro rfl
      obtain ⟨⟨c, hc, -⟩, -⟩ := hidentifier
      cases hc
    show definedText event "event_id" = some (textOf event "event_id")
    simp [definedText, textOf, htext, hne]
  | null | bool | int | float | str | arr => cases h

/-- Valid events define identifiers that differ. -/
theorem definedEventIds_of_valid {seen : List String} {events : List Json} {inventory : List Dict}
    (h : validateEvents lib caseId index seen events = .ok inventory) :
    events.filterMap definedEventId = events.map eventIdOf ∧
      Distinct seen (events.map eventIdOf) := by
  induction events generalizing index seen inventory with
  | nil => exact ⟨rfl, distinct_nil _⟩
  | cons value events ih =>
    obtain ⟨event, hevent, h⟩ := bind_eq_ok.mp h
    obtain ⟨⟨⟩, hnew, h⟩ := bind_eq_ok.mp h
    obtain ⟨rest, hrest, -⟩ := bind_eq_ok.mp h
    obtain ⟨rfl, hdefined⟩ := definedEventId_of_valid hevent
    obtain ⟨hids, hdistinct⟩ := ih hrest
    refine ⟨?_, ?_⟩
    · rw [List.filterMap_cons, hdefined, hids]
      rfl
    · rw [List.map_cons]
      exact distinct_cons.mpr ⟨eq_of_ensure hnew, hdistinct⟩

/-- A record whose parts are valid. -/
theorem validateCaseRecord_eq_ok (h : validateCaseRecord lib (.obj record) = .ok ()) :
    ∃ head inventory, validateCaseHead lib record = .ok head ∧
      validateEvents lib head.caseId 0 [] head.events = .ok inventory := by
  obtain ⟨head, hhead, h⟩ := bind_eq_ok.mp h
  obtain ⟨inventory, hinventory, -⟩ := bind_eq_ok.mp h
  exact ⟨head, inventory, hhead, hinventory⟩

theorem identifierDefinitions_events (h : HeadOf record head) :
    (identifierDefinitions record).2 = head.events.filterMap definedEventId := by
  simp [identifierDefinitions, h.events]

/-- An accepted record defines its identifiers. -/
theorem identifierDefinitions_of_valid (h : validateCaseRecord lib (.obj record) = .ok ()) :
    identifierDefinitions record = (some (caseIdOf (.obj record)), eventIdsOf (.obj record)) := by
  obtain ⟨head, inventory, hhead, hevents⟩ := validateCaseRecord_eq_ok h
  have hof := headOf_of_validateCaseHead hhead
  have hne : head.caseId ≠ "" := by
    intro hempty
    obtain ⟨⟨c, hc, -⟩, -⟩ := hof.identifier
    rw [hempty] at hc
    cases hc
  refine Prod.ext ?_ ?_
  · simp [identifierDefinitions, definedText, caseIdOf, textOf, hof.caseId, hne]
  · rw [identifierDefinitions_events hof, (definedEventIds_of_valid hevents).1]
    simp [eventIdsOf, hof.events]

/-- An accepted record is a record to qualification. -/
theorem parsedValue_of_valid (h : validateCaseRecord lib (.obj record) = .ok ()) :
    parsedValue (.obj record) = .record record := by
  obtain ⟨head, -, hhead, -⟩ := validateCaseRecord_eq_ok h
  have hof := headOf_of_validateCaseHead hhead
  have hversion : unsupportedVersion record = false := by
    have hget := hof.version
    unfold Dict.get at hget
    unfold unsupportedVersion
    cases hlookup : record.lookup "schema_version" with
    | none => rfl
    | some v =>
      rw [hlookup] at hget
      obtain rfl : v = .str CONTRACT_VERSION := hget
      simp
  unfold parsedValue
  rw [if_neg (not_not.mpr hof.clean)]
  simp [hversion]

/-- The record raises the other exception at an event whose predecessors are valid. -/
theorem validateCaseRecord_eq_typeError :
    validateCaseRecord lib (.obj record) = .error .typeError ↔
      ∃ head before event after inventory, validateCaseHead lib record = .ok head ∧
        head.events = before ++ .obj event :: after ∧
          validateEvents lib head.caseId 0 [] before = .ok inventory ∧
            validateEventHead lib before.length head.caseId event = .ok () ∧
              Unhashable (Dict.get event "integrity") := by
  constructor
  · intro h
    rcases bind_eq_error.mp h with h | ⟨head, hhead, h⟩
    · exact absurd h (ne_typeError record raises_validateCaseHead)
    rcases bind_eq_error.mp h with h | ⟨inventory, -, h⟩
    · have hcase := (headOf_of_validateCaseHead hhead).identifier
      obtain ⟨before, event, after, inventory, hevents, hbefore, hevent, hintegrity⟩ :=
        (validateEvents_eq_typeError hcase).mp h
      rw [Nat.zero_add] at hevent
      exact ⟨head, before, event, after, inventory, hhead, hevents, hbefore, hevent, hintegrity⟩
    rcases bind_eq_error.mp h with h | ⟨⟨⟩, -, h⟩
    · exact absurd h ensure_ne_typeError
    · exact absurd h (ne_typeError record raises_validateContext)
  · rintro ⟨head, before, event, after, inventory, hhead, hevents, hbefore, hevent, hintegrity⟩
    have hcase := (headOf_of_validateCaseHead hhead).identifier
    refine bind_eq_error.mpr (.inr ⟨head, hhead, bind_eq_error.mpr (.inl ?_)⟩)
    refine (validateEvents_eq_typeError hcase).mpr
      ⟨before, event, after, inventory, hevents, hbefore, ?_, hintegrity⟩
    rw [Nat.zero_add]
    exact hevent

/-- What the events of a record raise. -/
theorem raises_validateEvents {seen : List String} {events : List Json}
    (hcase : IsIdentifier caseId)
    (hdistinct : (identifierDefinitions record).2.Nodup →
      Distinct seen (events.filterMap definedEventId)) :
    Raises (fun failure => failure = .typeError ∨ failure.Reviewed record)
      (validateEvents lib caseId index seen events) := by
  induction events generalizing index seen with
  | nil => exact Raises.ok _
  | cons value events ih =>
    refine Raises.bind ?_ fun event hevent => ?_
    · cases value with
      | obj event =>
        refine Raises.bind ((raises_validateEventHead hcase).mono fun _ h => .inr h) fun _ _ => ?_
        refine Raises.bind (fun failure hfailure => ?_) fun _ _ => ?_
        · by_cases htype : failure = .typeError
          · exact .inl htype
          · refine .inr (raises_validateIntegrity (fun e he => ?_) failure hfailure)
            rw [hfailure] at he
            cases he
            exact htype
        · refine Raises.bind (raises_validateEventTail.mono fun _ h => .inr h) fun _ _ => ?_
          exact Raises.pure _
      | null | bool | int | float | str | arr =>
        refine (raises_violate ?_).mono fun _ h => .inr h
        show "" ∈ ["", ".attributes"]
        simp
    obtain ⟨-, hdefined⟩ := definedEventId_of_valid hevent
    rw [List.filterMap_cons, hdefined] at hdistinct
    have hduplicate : ¬ textOf event "event_id" ∉ seen →
        (Violation.duplicateEventId (textOf event "event_id") caseId).Reviewed record :=
      fun hseen hnodup => hseen ((hdistinct hnodup).2 _ List.mem_cons_self)
    refine Raises.bind ((raises_ensure hduplicate).mono fun _ h => .inr h) fun _ _ => ?_
    refine Raises.bind (ih fun hnodup => ?_) fun _ _ => Raises.pure _
    exact (distinct_cons.mp (hdistinct hnodup)).2

/-- The errors of a record are reviewed ones. -/
theorem raises_validateCaseRecord :
    Raises (fun failure => failure = .typeError ∨ failure.Reviewed record)
      (validateCaseRecord lib (.obj record)) := by
  refine Raises.bind (raises_validateCaseHead.mono fun _ h => .inr h) fun head hhead => ?_
  have hof := headOf_of_validateCaseHead hhead
  refine Raises.bind (raises_validateEvents hof.identifier fun hnodup => ?_) fun inventory _ => ?_
  · rw [← identifierDefinitions_events hof]
    exact ⟨hnodup, fun id _ => List.not_mem_nil⟩
  have hmissing : ¬ inventory ≠ [] → (Violation.inventoryMissing head.caseId).Reviewed record :=
    fun _ => hof.identifier
  refine Raises.bind ((raises_ensure hmissing).mono fun _ h => .inr h) fun _ _ => ?_
  exact raises_validateContext.mono fun _ h => .inr h

end Accepted

/-! ## §4 Accepted files -/

section Files

variable {lib : Library}

theorem addEventIds_of_distinct {seen ids : List String} (h : Distinct seen ids) :
    addEventIds seen ids = .ok (ids.reverse ++ seen) := by
  -- induction on the identifiers, each of which joins the seen ones
  induction ids generalizing seen with
  | nil => rfl
  | cons id ids ih =>
    obtain ⟨hnew, hrest⟩ := distinct_cons.mp h
    unfold addEventIds
    rw [ensure, if_pos hnew]
    refine (ih hrest).trans ?_
    rw [List.reverse_cons, List.append_assoc, List.singleton_append]

/-- Valid records without a common identifier are a valid file. -/
theorem validateRecordsFrom_of_valid {caseIds eventIds : List String} {records : List Json}
    (hvalid : ∀ record ∈ records, validateCaseRecord lib record = .ok ())
    (hcases : Distinct caseIds (records.map caseIdOf))
    (hevents : Distinct eventIds (records.flatMap eventIdsOf)) :
    validateRecordsFrom lib caseIds eventIds records = .ok () := by
  induction records generalizing caseIds eventIds with
  | nil => rfl
  | cons record records ih =>
    rw [List.map_cons] at hcases
    obtain ⟨hnew, hcases⟩ := distinct_cons.mp hcases
    obtain ⟨hevent, hevents⟩ := distinct_append.mp hevents
    refine bind_eq_ok.mpr ⟨(), hvalid record List.mem_cons_self, ?_⟩
    refine bind_eq_ok.mpr ⟨(), if_pos hnew, ?_⟩
    refine bind_eq_ok.mpr ⟨_, addEventIds_of_distinct hevent, ?_⟩
    refine ih (fun r hr => hvalid r (List.mem_cons_of_mem _ hr)) hcases ?_
    exact (distinct_congr fun id => by simp).mp hevents

theorem validateCaseRecords_of_valid {records : List Json}
    (hvalid : ∀ record ∈ records, validateCaseRecord lib record = .ok ())
    (hcases : (records.map caseIdOf).Nodup) (hevents : (records.flatMap eventIdsOf).Nodup) :
    validateCaseRecords lib records = .ok records := by
  have h : validateRecordsFrom lib [] [] records = .ok () :=
    validateRecordsFrom_of_valid hvalid ⟨hcases, fun _ _ => List.not_mem_nil⟩
      ⟨hevents, fun _ _ => List.not_mem_nil⟩
  rw [validateCaseRecords, h]
  rfl

end Files

end DecisionFirewall.Replay
