import DecisionFirewall.Replay.Validation

/-!
# The Order of Events Does Not Matter

Whether a case record is valid does not depend on the order of its events, nor does the
validity of a file depend on the order of its records: the places in the errors change, but
what is accepted does not.

- §1 checks at different places
- §2 events
- §3 records with their events in another order
- §4 files
-/

namespace DecisionFirewall.Replay

open Lib (Agrees bind_eq_ok)

/-! ## §1 Checks at different places -/

section Places

variable {lib : Library} {site site' : Site} {index index' : Nat} {value : Json} {v w : Violation}

theorem agrees_violate {α : Type} : Agrees (violate v : Checked α) (violate w) :=
  Agrees.error _ _

theorem agrees_ensure {condition : Prop} [Decidable condition] :
    Agrees (ensure condition v) (ensure condition w) := by
  unfold ensure
  split
  · exact Agrees.refl _
  · exact agrees_violate

theorem agrees_requireExactFields {allowed : List String} {d : Dict} :
    Agrees (requireExactFields allowed site d) (requireExactFields allowed site' d) := by
  unfold requireExactFields
  dsimp only
  split_ifs
  · exact agrees_violate
  · exact agrees_violate
  · exact Agrees.refl _

theorem agrees_requireNonemptyString :
    Agrees (requireNonemptyString site value) (requireNonemptyString site' value) := by
  cases value with
  | str s =>
    unfold requireNonemptyString
    dsimp only
    split
    · exact agrees_violate
    · exact Agrees.refl _
  | null | bool | int | float | arr | obj => exact agrees_violate

theorem agrees_requireIdentifier :
    Agrees (requireIdentifier site value) (requireIdentifier site' value) := by
  refine Agrees.bind agrees_requireNonemptyString fun candidate => ?_
  split
  · exact Agrees.refl _
  · exact agrees_violate

theorem agrees_parseTimestamp :
    Agrees (parseTimestamp lib site value) (parseTimestamp lib site' value) := by
  refine Agrees.bind agrees_requireNonemptyString fun candidate => ?_
  split
  · exact agrees_violate
  · exact agrees_violate
  · exact Agrees.refl _

theorem agrees_requireBoolean :
    Agrees (requireBoolean site value) (requireBoolean site' value) := by
  cases value with
  | bool b => exact Agrees.refl _
  | null | int | float | str | arr | obj => exact agrees_violate

theorem agrees_requireUnitInterval :
    Agrees (requireUnitInterval lib site value) (requireUnitInterval lib site' value) := by
  cases value with
  | int n =>
    unfold requireUnitInterval unitInterval
    dsimp only
    split
    · exact Agrees.refl _
    · exact agrees_violate
  | float repr =>
    unfold requireUnitInterval unitInterval
    dsimp only
    split
    · split
      · exact Agrees.refl _
      · exact agrees_violate
    · exact agrees_violate
  | null | bool | str | arr | obj => exact agrees_violate

theorem agrees_collect {α β : Type} {check check' : α → Checked (List β)} {entries : List α}
    (h : ∀ a, Agrees (check a) (check' a)) : Agrees (collect check entries) (collect check' entries) := by
  induction entries with
  | nil => exact Agrees.refl _
  | cons a entries ih =>
    exact Agrees.bind (h a) fun _ => Agrees.bind ih fun _ => Agrees.refl _

theorem agrees_selectAttribute {sourceType : String} {attributes : Dict}
    {read read' : String → Json → Checked Json} (h : ∀ name value, Agrees (read name value) (read' name value))
    (entry : String × List String) :
    Agrees (selectAttribute index sourceType attributes read entry)
      (selectAttribute index' sourceType attributes read' entry) := by
  unfold selectAttribute
  split
  · exact Agrees.refl _
  · split
    · exact agrees_violate
    · exact (h _ _).map _

theorem agrees_readBoolean (name : String) (value : Json) :
    Agrees (readBoolean index name value) (readBoolean index' name value) := by
  cases value with
  | bool b => exact Agrees.refl _
  | null | int | float | str | arr | obj => exact agrees_violate

theorem agrees_readCount (name : String) (value : Json) :
    Agrees (readCount lib index name value) (readCount lib index' name value) := by
  cases value with
  | int n =>
    unfold readCount
    dsimp only
    split
    · exact Agrees.refl _
    · exact agrees_violate
  | float repr =>
    unfold readCount
    dsimp only
    split
    · exact agrees_violate
    · split_ifs
      · exact agrees_violate
      · exact Agrees.refl _
      · exact agrees_violate
  | null | bool | str | arr | obj => exact agrees_violate

theorem agrees_validateAttributes {sourceType : String} :
    Agrees (validateAttributes lib index sourceType value)
      (validateAttributes lib index' sourceType value) := by
  cases value with
  | obj attributes =>
    refine Agrees.bind agrees_ensure fun _ => ?_
    refine Agrees.bind agrees_ensure fun _ => ?_
    refine Agrees.bind ?_ fun _ => ?_
    · refine Agrees.bind (agrees_collect (agrees_selectAttribute agrees_readBoolean)) fun _ => ?_
      refine Agrees.bind (agrees_collect (agrees_selectAttribute agrees_readCount)) fun _ => ?_
      exact Agrees.refl _
    · refine Agrees.bind (agrees_collect (agrees_selectAttribute agrees_readBoolean)) fun _ => ?_
      exact Agrees.refl _
  | null | bool | int | float | str | arr => exact agrees_violate

theorem agrees_validateReferences {seen : List String} {references : List Json} :
    Agrees (validateReferences index seen references) (validateReferences index' seen references) := by
  induction references generalizing seen with
  | nil => exact Agrees.refl _
  | cons reference references ih =>
    refine Agrees.bind agrees_requireIdentifier fun _ => ?_
    exact Agrees.bind agrees_ensure fun _ => ih

theorem agrees_validateEventHead {caseId : String} {event : Dict} :
    Agrees (validateEventHead lib index caseId event) (validateEventHead lib index' caseId event) := by
  refine Agrees.bind agrees_requireExactFields fun _ => ?_
  refine Agrees.bind agrees_requireIdentifier fun _ => ?_
  refine Agrees.bind agrees_requireIdentifier fun _ => ?_
  refine Agrees.bind agrees_ensure fun _ => ?_
  refine Agrees.bind agrees_requireIdentifier fun _ => ?_
  refine Agrees.bind agrees_requireIdentifier fun _ => ?_
  refine Agrees.bind agrees_parseTimestamp fun _ => ?_
  refine Agrees.bind agrees_parseTimestamp fun _ => ?_
  exact agrees_ensure

theorem agrees_validateIntegrity :
    Agrees (validateIntegrity index value) (validateIntegrity index' value) := by
  cases value with
  | str s => exact agrees_ensure
  | arr | obj => exact Agrees.refl _
  | null | bool | int | float => exact agrees_violate

theorem agrees_validateEventTail {event : Dict} :
    Agrees (validateEventTail lib index event) (validateEventTail lib index' event) := by
  refine Agrees.bind ?_ fun _ => ?_
  · cases event.get "provenance_id" with
    | str s =>
      unfold validateProvenance
      dsimp only
      split
      · exact Agrees.refl _
      · exact agrees_requireIdentifier.map _
    | null | bool | int | float | arr | obj => exact agrees_violate
  refine Agrees.bind agrees_requireUnitInterval fun _ => ?_
  refine Agrees.bind ?_ fun _ => ?_
  · cases event.get "entity_refs" with
    | arr references => exact agrees_validateReferences
    | null | bool | int | float | str | obj => exact agrees_violate
  refine Agrees.bind agrees_validateAttributes fun _ => ?_
  refine Agrees.bind ?_ fun _ => ?_
  · cases event.get "untrusted_text" with
    | str s => exact agrees_ensure
    | null | bool | int | float | arr | obj => exact agrees_violate
  exact Agrees.bind agrees_requireBoolean fun _ => Agrees.refl _

/-- An event is valid at every place, or at none. -/
theorem agrees_validateEventRecord {caseId : String} :
    Agrees (validateEventRecord lib index caseId value)
      (validateEventRecord lib index' caseId value) := by
  cases value with
  | obj event =>
    refine Agrees.bind agrees_validateEventHead fun _ => ?_
    refine Agrees.bind agrees_validateIntegrity fun _ => ?_
    exact Agrees.bind agrees_validateEventTail fun _ => Agrees.refl _
  | null | bool | int | float | str | arr => exact agrees_violate

end Places

/-! ## §2 Events -/

/-- The members of an object. -/
def membersOf : Json → Dict
  | .obj fields => fields
  | _ => []

/-- The event is valid in the case of this name. -/
def EventOk (lib : Library) (caseId : String) (value : Json) : Prop :=
  validateEventRecord lib 0 caseId value = .ok (membersOf value)

section Events

variable {lib : Library} {caseId : String} {index : Nat} {value : Json} {events : List Json}
variable {seen : List String} {inventory : List Dict}

theorem validateEventRecord_eq_ok {event : Dict} :
    validateEventRecord lib index caseId value = .ok event ↔
      EventOk lib caseId value ∧ event = membersOf value := by
  have hplace : validateEventRecord lib index caseId value = .ok event ↔
      validateEventRecord lib 0 caseId value = .ok event :=
    agrees_validateEventRecord event
  rw [hplace]
  constructor
  · intro h
    obtain ⟨rfl, -⟩ := definedEventId_of_valid h
    exact ⟨h, rfl⟩
  · rintro ⟨h, rfl⟩
    exact h

theorem eventIdOf_eq (value : Json) : eventIdOf value = textOf (membersOf value) "event_id" := by
  cases value with
  | obj event => rfl
  | null | bool | int | float | str | arr => rfl

/-- Events are valid together where each is valid and their identifiers are new. -/
theorem validateEvents_eq_ok :
    validateEvents lib caseId index seen events = .ok inventory ↔
      (∀ value ∈ events, EventOk lib caseId value) ∧ Distinct seen (events.map eventIdOf) ∧
        inventory = events.flatMap fun value => inventoryOf (membersOf value) := by
  -- induction on the events; the identifier of the first one is seen by the others
  induction events generalizing index seen inventory with
  | nil =>
    have hnil : validateEvents lib caseId index seen [] = .ok [] := rfl
    rw [hnil, Except.ok.injEq]
    exact ⟨fun h => ⟨List.forall_mem_nil _, distinct_nil _, h.symm⟩, fun h => h.2.2.symm⟩
  | cons value events ih =>
    rw [List.forall_mem_cons, List.map_cons, distinct_cons, List.flatMap_cons]
    constructor
    · intro h
      obtain ⟨event, hevent, h⟩ := bind_eq_ok.mp h
      obtain ⟨⟨⟩, hnew, h⟩ := bind_eq_ok.mp h
      obtain ⟨rest, hrest, h⟩ := bind_eq_ok.mp h
      cases h
      obtain ⟨hok, rfl⟩ := validateEventRecord_eq_ok.mp hevent
      obtain ⟨hevents, hdistinct, rfl⟩ := ih.mp hrest
      rw [← eventIdOf_eq] at hnew hdistinct
      exact ⟨⟨hok, hevents⟩, ⟨eq_of_ensure hnew, hdistinct⟩, rfl⟩
    · rintro ⟨⟨hok, hevents⟩, ⟨hnewId, hdistinct⟩, rfl⟩
      rw [eventIdOf_eq] at hnewId hdistinct
      refine bind_eq_ok.mpr ⟨_, validateEventRecord_eq_ok.mpr ⟨hok, rfl⟩, ?_⟩
      refine bind_eq_ok.mpr ⟨(), if_pos hnewId, ?_⟩
      exact bind_eq_ok.mpr ⟨_, ih.mpr ⟨hevents, hdistinct, rfl⟩, rfl⟩

theorem checkInventories_eq_ok {assetId privilegeLevel : String} {breakGlass : Bool}
    {criticality : ℚ} :
    checkInventories lib assetId privilegeLevel breakGlass criticality inventory = .ok () ↔
      ∀ attributes ∈ inventory,
        checkInventory lib assetId privilegeLevel breakGlass criticality attributes = .ok () := by
  induction inventory with
  | nil => exact ⟨fun _ => List.forall_mem_nil _, fun _ => rfl⟩
  | cons attributes inventory ih =>
    rw [List.forall_mem_cons, ← ih]
    constructor
    · intro h
      obtain ⟨⟨⟩, hfirst, hrest⟩ := bind_eq_ok.mp h
      exact ⟨hfirst, hrest⟩
    · rintro ⟨hfirst, hrest⟩
      exact bind_eq_ok.mpr ⟨(), hfirst, hrest⟩

/-- What the events of a valid case say together. -/
structure EventsOk (lib : Library) (record : Dict) (head : CaseHead) (events : List Json) : Prop where
  event : ∀ value ∈ events, EventOk lib head.caseId value
  distinct : (events.map eventIdOf).Nodup
  inventory : events.flatMap (fun value => inventoryOf (membersOf value)) ≠ []
  context : ∃ assetId privilegeLevel,
    featureIdentifier "case.asset_id" (Dict.get record "asset_id") = .ok assetId ∧
      featureIdentifier "case.privilege_level" (Dict.get record "privilege_level") =
          .ok privilegeLevel ∧
        ∀ attributes ∈ events.flatMap fun value => inventoryOf (membersOf value),
          checkInventory lib assetId privilegeLevel head.breakGlass head.criticality attributes =
            .ok ()

theorem EventsOk.perm {record : Dict} {head : CaseHead} {events' : List Json}
    (h : EventsOk lib record head events) (hperm : events'.Perm events) :
    EventsOk lib record head events' := by
  have hinventory := hperm.flatMap_right fun value => inventoryOf (membersOf value)
  obtain ⟨assetId, privilegeLevel, hasset, hprivilege, hcheck⟩ := h.context
  refine ⟨fun value hvalue => h.event value (hperm.subset hvalue),
    (hperm.map _).nodup_iff.mpr h.distinct, fun hnil => ?_,
    assetId, privilegeLevel, hasset, hprivilege,
    fun attributes hattributes => hcheck attributes (hinventory.subset hattributes)⟩
  rw [hnil] at hinventory
  exact h.inventory hinventory.symm.eq_nil

/-- A record is valid where its head and its events are. -/
theorem validateCaseRecord_iff {record : Dict} :
    validateCaseRecord lib (.obj record) = .ok () ↔
      ∃ head, validateCaseHead lib record = .ok head ∧ EventsOk lib record head head.events := by
  constructor
  · intro h
    obtain ⟨head, hhead, h⟩ := bind_eq_ok.mp h
    obtain ⟨inventory, hinventory, h⟩ := bind_eq_ok.mp h
    obtain ⟨⟨⟩, hne, h⟩ := bind_eq_ok.mp h
    obtain ⟨assetId, hasset, h⟩ := bind_eq_ok.mp h
    obtain ⟨privilegeLevel, hprivilege, h⟩ := bind_eq_ok.mp h
    obtain ⟨hevents, hdistinct, rfl⟩ := validateEvents_eq_ok.mp hinventory
    exact ⟨head, hhead, hevents, hdistinct.1, eq_of_ensure hne, assetId, privilegeLevel, hasset,
      hprivilege, checkInventories_eq_ok.mp h⟩
  · rintro ⟨head, hhead, hevents, hdistinct, hne, assetId, privilegeLevel, hasset, hprivilege,
      hcheck⟩
    refine bind_eq_ok.mpr ⟨head, hhead, ?_⟩
    refine bind_eq_ok.mpr ⟨_, validateEvents_eq_ok.mpr
      ⟨hevents, ⟨hdistinct, fun _ _ => List.not_mem_nil⟩, rfl⟩, ?_⟩
    refine bind_eq_ok.mpr ⟨(), if_pos hne, ?_⟩
    refine bind_eq_ok.mpr ⟨assetId, hasset, ?_⟩
    exact bind_eq_ok.mpr ⟨privilegeLevel, hprivilege, checkInventories_eq_ok.mpr hcheck⟩

end Events

/-! ## §3 Records with their events in another order -/

/-- The record with these events. -/
def withEvents (events : List Json) : Dict → Dict
  | [] => []
  | (name, value) :: record =>
    if name = "events" then (name, .arr events) :: record
    else (name, value) :: withEvents events record

mutual

/-- Whether a forbidden name occurs does not depend on where the value is. -/
theorem leakage_eq_nil : (value : Json) → (path path' : String) →
    (detectRuntimeLabelLeakage path value = [] ↔ detectRuntimeLabelLeakage path' value = [])
  | .obj fields, path, path' => leakageFields_eq_nil fields path path'
  | .arr xs, path, path' => leakageItems_eq_nil xs path path' 0 0
  | .null, _, _ | .bool _, _, _ | .int _, _, _ | .float _, _, _ | .str _, _, _ => Iff.rfl

theorem leakageFields_eq_nil : (fields : List (String × Json)) → (path path' : String) →
    (leakageFields path fields = [] ↔ leakageFields path' fields = [])
  | [], _, _ => Iff.rfl
  | (key, child) :: fields, path, path' => by
    have hchild := leakage_eq_nil child (path ++ "." ++ key) (path' ++ "." ++ key)
    have hfields := leakageFields_eq_nil fields path path'
    unfold leakageFields
    simp only [List.append_eq_nil_iff, hchild, hfields]
    split <;> simp

theorem leakageItems_eq_nil : (xs : List Json) → (path path' : String) → (i j : Nat) →
    (leakageItems path i xs = [] ↔ leakageItems path' j xs = [])
  | [], _, _, _, _ => Iff.rfl
  | child :: xs, path, path', i, j => by
    have hchild := leakage_eq_nil child (path ++ "[" ++ toString i ++ "]")
      (path' ++ "[" ++ toString j ++ "]")
    have hitems := leakageItems_eq_nil xs path path' (i + 1) (j + 1)
    unfold leakageItems
    simp only [List.append_eq_nil_iff, hchild, hitems]

end

section Reordered

variable {lib : Library} {record : Dict} {events events' : List Json} {head : CaseHead}

theorem leakageItems_perm (hperm : events'.Perm events) {path : String} {i : Nat} :
    leakageItems path i events' = [] ↔ leakageItems path i events = [] := by
  have hall (xs : List Json) (i : Nat) : leakageItems path i xs = [] ↔
      ∀ x ∈ xs, detectRuntimeLabelLeakage path x = [] := by
    induction xs generalizing i with
    | nil => exact iff_of_true rfl (List.forall_mem_nil _)
    | cons x xs ih =>
      rw [leakageItems, List.append_eq_nil_iff, ih, List.forall_mem_cons,
        leakage_eq_nil x _ path]
  rw [hall, hall]
  exact ⟨fun h x hx => h x (hperm.mem_iff.mpr hx), fun h x hx => h x (hperm.mem_iff.mp hx)⟩

theorem allFloatsItems_perm (hperm : events'.Perm events) (p : String → Bool) :
    Json.allFloatsItems p events' = Json.allFloatsItems p events := by
  have hall (xs : List Json) : Json.allFloatsItems p xs = xs.all (Json.allFloats p) := by
    induction xs with
    | nil => rfl
    | cons x xs ih => rw [Json.allFloatsItems, List.all_cons, ih]
  rw [hall, hall, hperm.all_eq]

theorem map_fst_withEvents : (withEvents events' record).map Prod.fst = record.map Prod.fst := by
  induction record with
  | nil => rfl
  | cons field record ih =>
    obtain ⟨name, value⟩ := field
    unfold withEvents
    split
    · rfl
    · rw [List.map_cons, ih, List.map_cons]

theorem lookup_withEvents {name : String} (h : name ≠ "events") :
    (withEvents events' record).lookup name = record.lookup name := by
  induction record with
  | nil => rfl
  | cons field record ih =>
    obtain ⟨key, value⟩ := field
    unfold withEvents
    split
    next hkey =>
      have hne : (name == key) = false := beq_eq_false_iff_ne.mpr fun heq => h (heq.trans hkey)
      rw [List.lookup_cons, List.lookup_cons, hne]
    · rw [List.lookup_cons, List.lookup_cons, ih]

theorem lookup_events_withEvents {value : Json} (h : record.lookup "events" = some value) :
    (withEvents events' record).lookup "events" = some (.arr events') := by
  induction record with
  | nil => cases h
  | cons field record ih =>
    obtain ⟨key, value⟩ := field
    unfold withEvents
    split
    next hkey =>
      subst hkey
      exact List.lookup_cons_self
    next hkey =>
      have hne : ("events" == key) = false := beq_eq_false_iff_ne.mpr fun heq => hkey heq.symm
      rw [List.lookup_cons, hne] at h ⊢
      exact ih h

theorem get_withEvents {name : String} (h : name ≠ "events") :
    Dict.get (withEvents events' record) name = Dict.get record name := by
  rw [Dict.get, Dict.get, lookup_withEvents h]

theorem get_events_withEvents {value : Json} (h : record.lookup "events" = some value) :
    Dict.get (withEvents events' record) "events" = .arr events' := by
  rw [Dict.get, lookup_events_withEvents h]
  rfl

theorem allFloatsFields_withEvents (hperm : events'.Perm events) (p : String → Bool)
    (h : record.lookup "events" = some (.arr events)) :
    Json.allFloatsFields p (withEvents events' record) = Json.allFloatsFields p record := by
  induction record with
  | nil => rfl
  | cons field record ih =>
    obtain ⟨key, value⟩ := field
    unfold withEvents
    split
    next hkey =>
      subst hkey
      rw [List.lookup_cons_self] at h
      cases h
      unfold Json.allFloatsFields Json.allFloats
      rw [allFloatsItems_perm hperm]
    next hkey =>
      have hne : ("events" == key) = false := beq_eq_false_iff_ne.mpr fun heq => hkey heq.symm
      rw [List.lookup_cons, hne] at h
      rw [Json.allFloatsFields, ih h, Json.allFloatsFields]

theorem leakageFields_withEvents (hperm : events'.Perm events) {path : String}
    (h : record.lookup "events" = some (.arr events)) :
    leakageFields path (withEvents events' record) = [] ↔ leakageFields path record = [] := by
  induction record with
  | nil => exact Iff.rfl
  | cons field record ih =>
    obtain ⟨key, value⟩ := field
    unfold withEvents
    split
    next hkey =>
      subst hkey
      rw [List.lookup_cons_self] at h
      cases h
      unfold leakageFields detectRuntimeLabelLeakage
      simp only [List.append_eq_nil_iff, leakageItems_perm hperm]
    next hkey =>
      have hne : ("events" == key) = false := beq_eq_false_iff_ne.mpr fun heq => hkey heq.symm
      rw [List.lookup_cons, hne] at h
      unfold leakageFields
      simp only [List.append_eq_nil_iff, ih h]

theorem lookup_events_of_head (h : validateCaseHead lib record = .ok head) :
    record.lookup "events" = some (.arr head.events) := by
  have hevents := (headOf_of_validateCaseHead h).events
  unfold Dict.get at hevents
  cases hlookup : record.lookup "events" with
  | none =>
    rw [hlookup] at hevents
    cases hevents
  | some value =>
    rw [hlookup] at hevents
    exact congrArg some hevents

theorem requireEvents_perm {value : Json} (hperm : events'.Perm events)
    (h : requireEvents value = .ok events) : requireEvents (.arr events') = .ok events' := by
  obtain rfl := eq_of_requireEvents h
  cases events with
  | nil => cases h
  | cons event events =>
    have hlength : ¬ MAX_EVENTS_PER_CASE < (event :: events).length := by
      intro hlong
      have hif : (if MAX_EVENTS_PER_CASE < (event :: events).length then violate .eventCount
        else .ok (event :: events)) = Except.ok (event :: events) := h
      rw [if_pos hlong] at hif
      cases hif
    rw [← hperm.length_eq] at hlength
    cases events' with
    | nil => exact absurd hperm.symm.eq_nil (List.cons_ne_nil _ _)
    | cons event' events' =>
      show (if MAX_EVENTS_PER_CASE < (event' :: events').length then violate .eventCount
        else .ok (event' :: events')) = Except.ok (event' :: events')
      rw [if_neg hlength]

/-- The head of a record stays valid, with the events in their new order. -/
theorem validateCaseHead_withEvents (h : validateCaseHead lib record = .ok head)
    (hperm : events'.Perm head.events) :
    validateCaseHead lib (withEvents events' record) =
      .ok ⟨head.caseId, head.breakGlass, head.criticality, events'⟩ := by
  have hlookup := lookup_events_of_head h
  obtain ⟨⟨⟩, hfinite, h⟩ := bind_eq_ok.mp h
  obtain ⟨⟨⟩, hclean, h⟩ := bind_eq_ok.mp h
  obtain ⟨⟨⟩, hfields, h⟩ := bind_eq_ok.mp h
  obtain ⟨⟨⟩, hversion, h⟩ := bind_eq_ok.mp h
  obtain ⟨caseId, hcaseId, h⟩ := bind_eq_ok.mp h
  obtain ⟨opened, hopened, h⟩ := bind_eq_ok.mp h
  obtain ⟨subject, hsubject, h⟩ := bind_eq_ok.mp h
  obtain ⟨asset, hasset, h⟩ := bind_eq_ok.mp h
  obtain ⟨privilege, hprivilege, h⟩ := bind_eq_ok.mp h
  obtain ⟨breakGlass, hbreakGlass, h⟩ := bind_eq_ok.mp h
  obtain ⟨criticality, hcriticality, h⟩ := bind_eq_ok.mp h
  obtain ⟨events, hevents, h⟩ := bind_eq_ok.mp h
  cases h
  have hfinite' : isFinite lib (.obj (withEvents events' record)) = true :=
    (allFloatsFields_withEvents hperm _ hlookup).trans (eq_of_ensure hfinite)
  have hclean' : detectRuntimeLabelLeakage "case" (.obj (withEvents events' record)) = [] :=
    (leakageFields_withEvents hperm hlookup).mpr (eq_of_ensure hclean)
  have hfields' : requireExactFields CASE_FIELDS (.ofCase "") (withEvents events' record) = .ok () := by
    unfold requireExactFields
    rw [map_fst_withEvents]
    exact hfields
  have hget (name : String) (hname : name ≠ "events") :
      Dict.get (withEvents events' record) name = Dict.get record name := get_withEvents hname
  -- the same checks in the same order
  refine bind_eq_ok.mpr ⟨(), if_pos hfinite', ?_⟩
  refine bind_eq_ok.mpr ⟨(), if_pos hclean', ?_⟩
  refine bind_eq_ok.mpr ⟨(), hfields', ?_⟩
  refine bind_eq_ok.mpr ⟨(), by rw [hget _ (by decide)]; exact hversion, ?_⟩
  refine bind_eq_ok.mpr ⟨caseId, by rw [hget _ (by decide)]; exact hcaseId, ?_⟩
  refine bind_eq_ok.mpr ⟨opened, by rw [hget _ (by decide)]; exact hopened, ?_⟩
  refine bind_eq_ok.mpr ⟨subject, by rw [hget _ (by decide)]; exact hsubject, ?_⟩
  refine bind_eq_ok.mpr ⟨asset, by rw [hget _ (by decide)]; exact hasset, ?_⟩
  refine bind_eq_ok.mpr ⟨privilege, by rw [hget _ (by decide)]; exact hprivilege, ?_⟩
  refine bind_eq_ok.mpr ⟨breakGlass, by rw [hget _ (by decide)]; exact hbreakGlass, ?_⟩
  refine bind_eq_ok.mpr ⟨criticality, by rw [hget _ (by decide)]; exact hcriticality, ?_⟩
  refine bind_eq_ok.mpr ⟨events', ?_, rfl⟩
  rw [get_events_withEvents hlookup]
  exact requireEvents_perm hperm hevents

/-- A valid record stays valid with its events in another order. -/
theorem validateCaseRecord_withEvents (h : validateCaseRecord lib (.obj record) = .ok ())
    (hlookup : record.lookup "events" = some (.arr events)) (hperm : events'.Perm events) :
    validateCaseRecord lib (.obj (withEvents events' record)) = .ok () := by
  obtain ⟨head, hhead, hok⟩ := validateCaseRecord_iff.mp h
  have heq : events = head.events :=
    Json.arr.inj (Option.some.inj (hlookup.symm.trans (lookup_events_of_head hhead)))
  rw [heq] at hperm
  refine validateCaseRecord_iff.mpr ⟨_, validateCaseHead_withEvents hhead hperm, ?_⟩
  obtain ⟨hevent, hdistinct, hinventory, assetId, privilegeLevel, hasset, hprivilege, hcheck⟩ :=
    hok.perm hperm
  refine ⟨hevent, hdistinct, hinventory, assetId, privilegeLevel, ?_, ?_, hcheck⟩
  · rw [get_withEvents (by decide)]
    exact hasset
  · rw [get_withEvents (by decide)]
    exact hprivilege

end Reordered

/-! ## §4 Files -/

section Files

variable {lib : Library} {records : List Json}

theorem addEventIds_eq_ok {seen seen' ids : List String} :
    addEventIds seen ids = .ok seen' ↔ Distinct seen ids ∧ seen' = ids.reverse ++ seen := by
  constructor
  · intro h
    have hdistinct : Distinct seen ids := by
      induction ids generalizing seen with
      | nil => exact distinct_nil _
      | cons id ids ih =>
        obtain ⟨⟨⟩, hnew, h⟩ := bind_eq_ok.mp h
        exact distinct_cons.mpr ⟨eq_of_ensure hnew, ih h⟩
    rw [addEventIds_of_distinct hdistinct] at h
    cases h
    exact ⟨hdistinct, rfl⟩
  · rintro ⟨hdistinct, rfl⟩
    exact addEventIds_of_distinct hdistinct

theorem distinct_of_validateRecordsFrom {caseIds eventIds : List String}
    (h : validateRecordsFrom lib caseIds eventIds records = .ok ()) :
    (∀ record ∈ records, validateCaseRecord lib record = .ok ()) ∧
      Distinct caseIds (records.map caseIdOf) ∧
        Distinct eventIds (records.flatMap eventIdsOf) := by
  induction records generalizing caseIds eventIds with
  | nil => exact ⟨List.forall_mem_nil _, distinct_nil _, distinct_nil _⟩
  | cons record records ih =>
    obtain ⟨⟨⟩, hrecord, h⟩ := bind_eq_ok.mp h
    obtain ⟨⟨⟩, hnew, h⟩ := bind_eq_ok.mp h
    obtain ⟨seen, hseen, h⟩ := bind_eq_ok.mp h
    obtain ⟨hdistinct, rfl⟩ := addEventIds_eq_ok.mp hseen
    obtain ⟨hrecords, hcases, hevents⟩ := ih h
    refine ⟨List.forall_mem_cons.mpr ⟨hrecord, hrecords⟩,
      distinct_cons.mpr ⟨eq_of_ensure hnew, hcases⟩, ?_⟩
    rw [List.flatMap_cons]
    exact distinct_append.mpr ⟨hdistinct, (distinct_congr fun id => by simp).mp hevents⟩

/-- A file is valid where its records are and no identifier occurs twice. -/
theorem validateCaseRecords_eq_ok :
    validateCaseRecords lib records = .ok records ↔
      (∀ record ∈ records, validateCaseRecord lib record = .ok ()) ∧
        (records.map caseIdOf).Nodup ∧ (records.flatMap eventIdsOf).Nodup := by
  constructor
  · intro h
    unfold validateCaseRecords at h
    cases hfrom : validateRecordsFrom lib [] [] records with
    | error e =>
      rw [hfrom] at h
      cases h
    | ok u =>
      obtain ⟨hrecords, hcases, hevents⟩ := distinct_of_validateRecordsFrom hfrom
      exact ⟨hrecords, hcases.1, hevents.1⟩
  · rintro ⟨hrecords, hcases, hevents⟩
    exact validateCaseRecords_of_valid hrecords hcases hevents

/-- The record with its events in another order. -/
def EventsReordered (record record' : Json) : Prop :=
  ∃ fields events events', record = .obj fields ∧ fields.lookup "events" = some (.arr events) ∧
    events'.Perm events ∧ record' = .obj (withEvents events' fields)

/-- Records in another order, each with its events in another order. -/
def Rearranged (records records' : List Json) : Prop :=
  ∃ middle, List.Forall₂ EventsReordered records middle ∧ records'.Perm middle

theorem EventsReordered.valid {record record' : Json} (h : EventsReordered record record')
    (hvalid : validateCaseRecord lib record = .ok ()) :
    validateCaseRecord lib record' = .ok () := by
  obtain ⟨fields, events, events', rfl, hlookup, hperm, rfl⟩ := h
  exact validateCaseRecord_withEvents hvalid hlookup hperm

theorem EventsReordered.identifiers {record record' : Json} (h : EventsReordered record record') :
    caseIdOf record' = caseIdOf record ∧ (eventIdsOf record').Perm (eventIdsOf record) := by
  obtain ⟨fields, events, events', rfl, hlookup, hperm, rfl⟩ := h
  constructor
  · have hget : Dict.get (withEvents events' fields) "case_id" = Dict.get fields "case_id" :=
      get_withEvents (by decide)
    simp only [caseIdOf, textOf, hget]
  · have hget : Dict.get fields "events" = .arr events := by rw [Dict.get, hlookup]; rfl
    simp only [eventIdsOf, get_events_withEvents hlookup, hget]
    exact hperm.map _

/-- A valid file stays valid when it is rearranged. -/
theorem validateCaseRecords_rearranged {records' : List Json} (h : Rearranged records records')
    (hvalid : validateCaseRecords lib records = .ok records) :
    validateCaseRecords lib records' = .ok records' := by
  obtain ⟨middle, hevents, hperm⟩ := h
  obtain ⟨hrecords, hcases, hids⟩ := validateCaseRecords_eq_ok.mp hvalid
  have hmiddle : (∀ record ∈ middle, validateCaseRecord lib record = .ok ()) ∧
      middle.map caseIdOf = records.map caseIdOf ∧
        (middle.flatMap eventIdsOf).Perm (records.flatMap eventIdsOf) := by
    clear hvalid hcases hids hperm
    induction hevents with
    | nil => exact ⟨List.forall_mem_nil _, rfl, List.Perm.refl _⟩
    | cons hrecord _ ih =>
      obtain ⟨hvalid, hrest⟩ := List.forall_mem_cons.mp hrecords
      obtain ⟨hmiddle, hcases, hids⟩ := ih hrest
      obtain ⟨hcase, hid⟩ := hrecord.identifiers
      refine ⟨List.forall_mem_cons.mpr ⟨hrecord.valid hvalid, hmiddle⟩, ?_, ?_⟩
      · rw [List.map_cons, List.map_cons, hcase, hcases]
      · rw [List.flatMap_cons, List.flatMap_cons]
        exact hid.append hids
  obtain ⟨hmiddleValid, hmiddleCases, hmiddleIds⟩ := hmiddle
  refine validateCaseRecords_eq_ok.mpr
    ⟨fun record hrecord => hmiddleValid record (hperm.subset hrecord), ?_, ?_⟩
  · rw [(hperm.map _).nodup_iff, hmiddleCases]
    exact hcases
  · rw [((hperm.flatMap_right _).trans hmiddleIds).nodup_iff]
    exact hids

end Files

end DecisionFirewall.Replay
