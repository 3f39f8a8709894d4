import DecisionFirewall.Lib.Calendar
import DecisionFirewall.Lib.Sorting
import DecisionFirewall.Replay.Acceptance
import DecisionFirewall.Replay.Accounting

/-!
# Normalized Cases

`replay/normalizer.py`: times are written in UTC, the events of a case are sorted by their
times, source and identifier, and the cases by their identifier. What comes out does not depend
on the order in which cases and events came in.

- §1 values
- §2 events
- §3 cases
- §4 the keys of events
- §5 cases that are normalized already
- §6 chronological order
- §7 rearranged files
-/

namespace DecisionFirewall.Replay

open Lib (sortBy)
open Lib.Calendar (isoformat)

/-! ## §1 Values -/

/-- What the normalizer takes from the standard library besides. -/
structure Floats where
  /-- `repr(float(n))`; `none` is an `OverflowError` -/
  ofInt : Int → Option String
  /-- `repr(float(s))`; `none` is a `ValueError` -/
  ofText : String → Option String

section Values

variable (lib : Library) (floats : Floats)

/-- `normalize_timestamp(value)`; `none` is an exception. -/
def normalizeTimestamp (value : Json) : Option String :=
  match parseTimestamp lib (.ofCase "timestamp") value with
  | .error _ => none
  | .ok instant => isoformat instant

/-- `str(value)`. -/
def strOf (value : Json) : String :=
  match value with
  | .str s => s
  | v => lib.reprOther v

/-- `float(value)`; `none` is an exception. -/
def toFloat : Json → Option Json
  | .float repr => some (.float repr)
  | .int n => (floats.ofInt n).map .float
  | .bool b => (floats.ofInt (if b then 1 else 0)).map .float
  | .str s => (floats.ofText s).map .float
  | _ => none

/-- `list(value)`; `none` is an exception. -/
def toList : Json → Option Json
  | .arr xs => some (.arr xs)
  | .str s => some (.arr (s.toList.map fun c => .str (String.singleton c)))
  | .obj fields => some (.arr (fields.map fun field => .str field.1))
  | _ => none

/-- `dict(value)` of an object. -/
def toDict : Json → Option Json
  | .obj fields => some (.obj fields)
  | _ => none

/-! ## §2 Events -/

/-- `_event_sort_key(event)`. -/
def eventSortKey (event : Dict) : Option (List String) := do
  let observedAt ← event.lookup "observed_at"
  let collectedAt ← event.lookup "collected_at"
  let sourceType ← event.lookup "source_type"
  let sourceInstance ← event.lookup "source_instance"
  let eventId ← event.lookup "event_id"
  let observed ← normalizeTimestamp lib (.str (strOf lib observedAt))
  let collected ← normalizeTimestamp lib (.str (strOf lib collectedAt))
  return [observed, collected, strOf lib sourceType, strOf lib sourceInstance, strOf lib eventId]

/-- An event as `normalize_case` writes it. -/
def normalizeEvent (source : Dict) : Option Dict := do
  let eventId ← source.lookup "event_id"
  let caseId ← source.lookup "case_id"
  let sourceType ← source.lookup "source_type"
  let sourceInstance ← source.lookup "source_instance"
  let observedAt ← (← source.lookup "observed_at") |> normalizeTimestamp lib
  let collectedAt ← (← source.lookup "collected_at") |> normalizeTimestamp lib
  let integrity ← source.lookup "integrity"
  let provenanceId ← source.lookup "provenance_id"
  let trustScore ← (← source.lookup "trust_score") |> toFloat floats
  let entityRefs ← (← source.lookup "entity_refs") |> toList
  let attributes ← (← source.lookup "attributes") |> toDict
  let untrustedText ← source.lookup "untrusted_text"
  let instructional ← source.lookup "contains_instructional_content"
  return [("event_id", eventId), ("case_id", caseId), ("source_type", sourceType),
    ("source_instance", sourceInstance), ("observed_at", .str observedAt),
    ("collected_at", .str collectedAt), ("integrity", integrity), ("provenance_id", provenanceId),
    ("trust_score", trustScore), ("entity_refs", entityRefs), ("attributes", attributes),
    ("untrusted_text", untrustedText), ("contains_instructional_content", instructional)]

/-! ## §3 Cases -/

/-- An event that is an object, with its key. -/
def keyedEvent : Json → Option (List String × Dict)
  | .obj event => (eventSortKey lib event).map fun key => (key, event)
  | _ => none

/-- The events of a case in their order. -/
def normalizeEvents : Json → Option (List Dict)
  | .arr events => do
    let keyed ← events.mapM (keyedEvent lib)
    (sortBy Prod.fst keyed).mapM fun event => normalizeEvent lib floats event.2
  | _ => none

/-- `normalize_case(record)`; `none` is an exception. -/
def normalizeCase (record : Dict) : Option Dict := do
  let events ← (← record.lookup "events") |> normalizeEvents lib floats
  let caseId ← record.lookup "case_id"
  let openedAt ← (← record.lookup "opened_at") |> normalizeTimestamp lib
  let subjectId ← record.lookup "subject_id"
  let privilegeLevel ← record.lookup "privilege_level"
  let breakGlass ← record.lookup "break_glass"
  let assetId ← record.lookup "asset_id"
  let criticality ← (← record.lookup "asset_criticality") |> toFloat floats
  return [("case_id", caseId), ("opened_at", .str openedAt), ("subject_id", subjectId),
    ("privilege_level", privilegeLevel), ("break_glass", breakGlass), ("asset_id", assetId),
    ("asset_criticality", criticality), ("events", .arr (events.map .obj))]

/-- A record that is an object. -/
def normalizeRecord : Json → Option Json
  | .obj record => (normalizeCase lib floats record).map .obj
  | _ => none

/-- A warning of the diagnostics. -/
structure Warning where
  warningType : String
  code : String
  caseId : String
  message : String
  deriving DecidableEq, Repr

/-- The diagnostics of a normalization. -/
structure Diagnostics where
  schemaVersion : String
  caseCount : Nat
  eventCount : Nat
  mappingWarningCount : Nat
  temporalReorderingWarningCount : Nat
  warningCount : Nat
  warnings : List Warning
  deriving DecidableEq, Repr

/-- A warning of the adapter, with the defaults of its members. -/
def mappingWarning (warning : Dict) : Warning :=
  let member (name default : String) : String :=
    ((warning.lookup name).map (strOf lib)).getD default
  ⟨"SOURCE_MAPPING", member "code" "MAPPING_WARNING", member "case_id" "",
    member "message" "Adapter reported a mapping warning."⟩

/-- The warning about a case whose events were out of order. -/
def orderingWarning (caseId : String) : Warning :=
  ⟨"TEMPORAL_ORDERING", "EVENT_ORDER_NORMALIZED", caseId,
    "Evidence events arrived out of canonical order and were sorted by " ++
      "observed_at, collected_at, source, and event_id."⟩

/-- The diagnostics of the sorted records and their normal forms. -/
def diagnose (mappingWarnings : List Dict) (records normalized : List Json) : Diagnostics :=
  let reordered := (records.zip normalized).filter fun pair =>
    eventIdsOf pair.1 ≠ eventIdsOf pair.2
  let warnings := sortBy (fun warning : Warning =>
      [warning.caseId, warning.warningType, warning.code])
    (mappingWarnings.map (mappingWarning lib) ++
      reordered.map fun pair => orderingWarning (caseIdOf pair.1))
  { schemaVersion := "0.2.0"
    caseCount := normalized.length
    eventCount := (records.map fun record => (eventIdsOf record).length).sum
    mappingWarningCount := warnings.countP fun warning => warning.warningType = "SOURCE_MAPPING"
    temporalReorderingWarningCount := reordered.length
    warningCount := warnings.length
    warnings := warnings }

/-- `normalize_cases_with_diagnostics(records, mapping_warnings=…)`; `none` is an exception. -/
def normalizeCasesWithDiagnostics (records : List Json) (mappingWarnings : List Dict) :
    Option (List Json × Diagnostics) :=
  match validateCaseRecords lib records with
  | .error _ => none
  | .ok validated =>
    let sorted := sortBy caseIdOf validated
    (sorted.mapM (normalizeRecord lib floats)).map fun normalized =>
      (normalized, diagnose lib mappingWarnings sorted normalized)

end Values

/-! ## §4 The keys of events -/

section Keys

variable {lib : Library} {floats : Floats} {value : Json} {s : String} {event kept : Dict}
variable {key : List String}

/-- A normalized time is the text of the instant that was parsed. -/
theorem normalizeTimestamp_eq_some :
    normalizeTimestamp lib value = some s ↔
      ∃ instant, parseTimestamp lib (.ofCase "timestamp") value = .ok instant ∧
        isoformat instant = some s := by
  unfold normalizeTimestamp
  cases parseTimestamp lib (.ofCase "timestamp") value with
  | error e => simp
  | ok instant => simp

/-- Only texts are times. -/
theorem str_of_normalizeTimestamp (h : normalizeTimestamp lib value = some s) :
    value = .str (strOf lib value) := by
  obtain ⟨instant, hparse, -⟩ := normalizeTimestamp_eq_some.mp h
  obtain ⟨text, htext, -⟩ := Lib.bind_eq_ok.mp hparse
  cases value with
  | str s => rfl
  | null | bool | int | float | arr | obj => cases htext

/-- What `datetime.isoformat` writes, `datetime.fromisoformat` reads. -/
def ReadsIsoformat (lib : Library) : Prop :=
  ∀ instant s, isoformat instant = some s → lib.fromisoformat s = some (.aware instant)

theorem replaceZulu_eq (h : 'Z' ∉ s.toList) : replaceZulu s = s := by
  have hkeep : ∀ c ∈ s.toList, (if c = 'Z' then ['+', '0', '0', ':', '0', '0'] else [c]) = [c] := by
    intro c hc
    have hne : c ≠ 'Z' := fun heq => h (heq ▸ hc)
    exact if_neg hne
  unfold replaceZulu
  rw [List.flatMap_congr hkeep, List.flatMap_singleton', String.ofList_toList]

/-- The text of an instant is read as it. -/
theorem parseTimestamp_isoformat (hlib : ReadsIsoformat lib) {instant : Int}
    (h : isoformat instant = some s) (site : Site) :
    parseTimestamp lib site (.str s) = .ok instant := by
  have hread := hlib instant s h
  have htext : s.toList = Lib.Calendar.text instant.toNat := by
    unfold isoformat at h
    split_ifs at h
    cases h
    exact String.toList_ofList
  have hzulu : replaceZulu s = s := by
    refine replaceZulu_eq fun hmem => ?_
    have hnot : 'Z' ∉ Lib.Calendar.ALPHABET := by simp [Lib.Calendar.ALPHABET]
    exact hnot (Lib.Calendar.mem_text (htext ▸ hmem))
  have hblank : isBlank s = false := by
    refine Bool.eq_false_iff.mpr fun hall => ?_
    have hplus : '+' ∈ s.toList := by
      rw [htext, Lib.Calendar.text]
      simp
    exact absurd (List.all_eq_true.mp hall '+' hplus) (by decide)
  refine Lib.bind_eq_ok.mpr ⟨s, ?_, ?_⟩
  · show (if isBlank s then violate (.emptyText site) else .ok s) = _
    rw [hblank]
    rfl
  · rw [hzulu, hread]

/-- A normalized time is the normal form of itself. -/
theorem normalizeTimestamp_normalized (hlib : ReadsIsoformat lib)
    (h : normalizeTimestamp lib value = some s) : normalizeTimestamp lib (.str s) = some s := by
  obtain ⟨instant, -, hs⟩ := normalizeTimestamp_eq_some.mp h
  exact normalizeTimestamp_eq_some.mpr ⟨instant, parseTimestamp_isoformat hlib hs _, hs⟩

/-- The members that an event is sorted by. -/
theorem eventSortKey_eq_some :
    eventSortKey lib event = some key ↔
      ∃ observedAt collectedAt sourceType sourceInstance eventId observed collected,
        event.lookup "observed_at" = some observedAt ∧
          event.lookup "collected_at" = some collectedAt ∧
            event.lookup "source_type" = some sourceType ∧
              event.lookup "source_instance" = some sourceInstance ∧
                event.lookup "event_id" = some eventId ∧
                  normalizeTimestamp lib (.str (strOf lib observedAt)) = some observed ∧
                    normalizeTimestamp lib (.str (strOf lib collectedAt)) = some collected ∧
                      key = [observed, collected, strOf lib sourceType, strOf lib sourceInstance,
                        strOf lib eventId] := by
  unfold eventSortKey
  simp only [Option.bind_eq_bind, Option.bind_eq_some_iff, Option.pure_def, Option.some.injEq]
  constructor
  · rintro ⟨o, ho, c, hc, t, ht, i, hi, e, he, on, hon, cn, hcn, rfl⟩
    exact ⟨o, c, t, i, e, on, cn, ho, hc, ht, hi, he, hon, hcn, rfl⟩
  · rintro ⟨o, c, t, i, e, on, cn, ho, hc, ht, hi, he, hon, hcn, rfl⟩
    exact ⟨o, ho, c, hc, t, ht, i, hi, e, he, on, hon, cn, hcn, rfl⟩

theorem toFloat_idem {v w : Json} (h : toFloat floats v = some w) : toFloat floats w = some w := by
  cases v with
  | float repr =>
    cases h
    rfl
  | int n =>
    obtain ⟨repr, -, rfl⟩ := Option.map_eq_some_iff.mp h
    rfl
  | bool b =>
    obtain ⟨repr, -, rfl⟩ := Option.map_eq_some_iff.mp h
    rfl
  | str s =>
    obtain ⟨repr, -, rfl⟩ := Option.map_eq_some_iff.mp h
    rfl
  | null | arr | obj => cases h

theorem toList_idem {v w : Json} (h : toList v = some w) : toList w = some w := by
  cases v with
  | arr | str | obj =>
    cases h
    rfl
  | null | bool | int | float => cases h

theorem toDict_idem {v w : Json} (h : toDict v = some w) : toDict w = some w := by
  cases v with
  | obj fields =>
    cases h
    rfl
  | null | bool | int | float | str | arr => cases h

/-- What is written of an event. -/
structure WrittenEvent (lib : Library) (floats : Floats) (event kept : Dict) : Prop where
  again : normalizeEvent lib floats kept = some kept
  eventId : kept.lookup "event_id" = event.lookup "event_id"
  sourceType : kept.lookup "source_type" = event.lookup "source_type"
  sourceInstance : kept.lookup "source_instance" = event.lookup "source_instance"
  observedAt : ∃ v s, event.lookup "observed_at" = some v ∧ normalizeTimestamp lib v = some s ∧
    kept.lookup "observed_at" = some (.str s)
  collectedAt : ∃ v s, event.lookup "collected_at" = some v ∧ normalizeTimestamp lib v = some s ∧
    kept.lookup "collected_at" = some (.str s)

/-- A normalized event is the normal form of itself. -/
theorem writtenEvent_of_normalizeEvent (hlib : ReadsIsoformat lib)
    (h : normalizeEvent lib floats event = some kept) : WrittenEvent lib floats event kept := by
  obtain ⟨eventId, heventId, h⟩ := Option.bind_eq_some_iff.mp h
  obtain ⟨caseId, hcaseId, h⟩ := Option.bind_eq_some_iff.mp h
  obtain ⟨sourceType, hsourceType, h⟩ := Option.bind_eq_some_iff.mp h
  obtain ⟨sourceInstance, hsourceInstance, h⟩ := Option.bind_eq_some_iff.mp h
  obtain ⟨observedAt, hobservedAt, h⟩ := Option.bind_eq_some_iff.mp h
  obtain ⟨observed, hobserved, h⟩ := Option.bind_eq_some_iff.mp h
  obtain ⟨collectedAt, hcollectedAt, h⟩ := Option.bind_eq_some_iff.mp h
  obtain ⟨collected, hcollected, h⟩ := Option.bind_eq_some_iff.mp h
  obtain ⟨integrity, hintegrity, h⟩ := Option.bind_eq_some_iff.mp h
  obtain ⟨provenanceId, hprovenanceId, h⟩ := Option.bind_eq_some_iff.mp h
  obtain ⟨trust, htrust, h⟩ := Option.bind_eq_some_iff.mp h
  obtain ⟨trustScore, htrustScore, h⟩ := Option.bind_eq_some_iff.mp h
  obtain ⟨refs, hrefs, h⟩ := Option.bind_eq_some_iff.mp h
  obtain ⟨entityRefs, hentityRefs, h⟩ := Option.bind_eq_some_iff.mp h
  obtain ⟨given, hgiven, h⟩ := Option.bind_eq_some_iff.mp h
  obtain ⟨attributes, hattributes, h⟩ := Option.bind_eq_some_iff.mp h
  obtain ⟨untrustedText, huntrustedText, h⟩ := Option.bind_eq_some_iff.mp h
  obtain ⟨instructional, hinstructional, h⟩ := Option.bind_eq_some_iff.mp h
  cases h
  refine ⟨?_, heventId.symm, hsourceType.symm, hsourceInstance.symm,
    ⟨observedAt, observed, hobservedAt, hobserved, rfl⟩,
    ⟨collectedAt, collected, hcollectedAt, hcollected, rfl⟩⟩
  -- every member is there and is converted to itself
  unfold normalizeEvent
  refine Option.bind_eq_some_iff.mpr ⟨eventId, rfl, ?_⟩
  refine Option.bind_eq_some_iff.mpr ⟨caseId, rfl, ?_⟩
  refine Option.bind_eq_some_iff.mpr ⟨sourceType, rfl, ?_⟩
  refine Option.bind_eq_some_iff.mpr ⟨sourceInstance, rfl, ?_⟩
  refine Option.bind_eq_some_iff.mpr ⟨.str observed, rfl, ?_⟩
  refine Option.bind_eq_some_iff.mpr ⟨observed, normalizeTimestamp_normalized hlib hobserved, ?_⟩
  refine Option.bind_eq_some_iff.mpr ⟨.str collected, rfl, ?_⟩
  refine Option.bind_eq_some_iff.mpr ⟨collected, normalizeTimestamp_normalized hlib hcollected, ?_⟩
  refine Option.bind_eq_some_iff.mpr ⟨integrity, rfl, ?_⟩
  refine Option.bind_eq_some_iff.mpr ⟨provenanceId, rfl, ?_⟩
  refine Option.bind_eq_some_iff.mpr ⟨trustScore, rfl, ?_⟩
  refine Option.bind_eq_some_iff.mpr ⟨trustScore, toFloat_idem htrustScore, ?_⟩
  refine Option.bind_eq_some_iff.mpr ⟨entityRefs, rfl, ?_⟩
  refine Option.bind_eq_some_iff.mpr ⟨entityRefs, toList_idem hentityRefs, ?_⟩
  refine Option.bind_eq_some_iff.mpr ⟨attributes, rfl, ?_⟩
  refine Option.bind_eq_some_iff.mpr ⟨attributes, toDict_idem hattributes, ?_⟩
  refine Option.bind_eq_some_iff.mpr ⟨untrustedText, rfl, ?_⟩
  exact Option.bind_eq_some_iff.mpr ⟨instructional, rfl, rfl⟩

/-- A normalized event is sorted as it was. -/
theorem eventSortKey_normalized (hlib : ReadsIsoformat lib) (h : WrittenEvent lib floats event kept)
    (hkey : eventSortKey lib event = some key) : eventSortKey lib kept = some key := by
  obtain ⟨observedAt, collectedAt, sourceType, sourceInstance, eventId, observed, collected,
    hobservedAt, hcollectedAt, hsourceType, hsourceInstance, heventId, hobserved, hcollected,
    rfl⟩ := eventSortKey_eq_some.mp hkey
  obtain ⟨v, s, hv, hs, hkeptObserved⟩ := h.observedAt
  obtain ⟨w, t, hw, ht, hkeptCollected⟩ := h.collectedAt
  obtain rfl := Option.some.inj (hobservedAt.symm.trans hv)
  obtain rfl := Option.some.inj (hcollectedAt.symm.trans hw)
  rw [← str_of_normalizeTimestamp hs, hs] at hobserved
  rw [← str_of_normalizeTimestamp ht, ht] at hcollected
  obtain rfl := Option.some.inj hobserved
  obtain rfl := Option.some.inj hcollected
  exact eventSortKey_eq_some.mpr ⟨.str s, .str t, sourceType, sourceInstance, eventId, s, t,
    hkeptObserved, hkeptCollected, h.sourceType.trans hsourceType,
    h.sourceInstance.trans hsourceInstance, h.eventId.trans heventId,
    normalizeTimestamp_normalized hlib hs, normalizeTimestamp_normalized hlib ht, rfl⟩

end Keys

/-! ## §5 Cases that are normalized already -/

section Again

variable {lib : Library} {floats : Floats} {value : Json} {record case : Dict} {kept : List Dict}

theorem keyedEvent_eq_some {keyed : List String × Dict} :
    keyedEvent lib value = some keyed ↔
      value = .obj keyed.2 ∧ eventSortKey lib keyed.2 = some keyed.1 := by
  obtain ⟨key, event⟩ := keyed
  cases value with
  | obj fields =>
    rw [keyedEvent, Option.map_eq_some_iff]
    constructor
    · rintro ⟨_, hkey, heq⟩
      cases heq
      exact ⟨rfl, hkey⟩
    · rintro ⟨heq, hkey⟩
      cases heq
      exact ⟨key, hkey, rfl⟩
  | null | bool | int | float | str | arr =>
    exact ⟨fun h => (by cases h), fun h => (by cases h.1)⟩

/-- The events of a case, in the order of their keys. -/
theorem normalizeEvents_eq_some :
    normalizeEvents lib floats value = some kept ↔
      ∃ events keyed, value = .arr events ∧
        List.Forall₂ (fun v k => keyedEvent lib v = some k) events keyed ∧
          List.Forall₂ (fun k e => normalizeEvent lib floats k.2 = some e)
            (sortBy Prod.fst keyed) kept := by
  cases value with
  | arr events =>
    constructor
    · intro h
      obtain ⟨keyed, hkeyed, h⟩ := Option.bind_eq_some_iff.mp h
      exact ⟨events, keyed, rfl, Lib.mapM_eq_some.mp hkeyed, Lib.mapM_eq_some.mp h⟩
    · rintro ⟨_, keyed, ⟨⟩, hkeyed, hkept⟩
      exact Option.bind_eq_some_iff.mpr
        ⟨keyed, Lib.mapM_eq_some.mpr hkeyed, Lib.mapM_eq_some.mpr hkept⟩
  | null | bool | int | float | str | obj =>
    exact ⟨fun h => (by cases h), fun ⟨_, _, h, _⟩ => (by cases h)⟩

/-- Normalized events have the keys that they were sorted by. -/
theorem keys_normalized (hlib : ReadsIsoformat lib) {sorted : List (List String × Dict)}
    (hkeys : ∀ k ∈ sorted, eventSortKey lib k.2 = some k.1)
    (hkept : List.Forall₂ (fun k e => normalizeEvent lib floats k.2 = some e) sorted kept) :
    ∃ again : List (List String × Dict), again.map Prod.fst = sorted.map Prod.fst ∧
      again.map Prod.snd = kept ∧
        List.Forall₂ (fun v k => keyedEvent lib v = some k) (kept.map .obj) again ∧
          List.Forall₂ (fun k e => normalizeEvent lib floats k.2 = some e) again kept := by
  induction hkept with
  | nil => exact ⟨[], rfl, rfl, .nil, .nil⟩
  | @cons k e sorted kept hevent _ ih =>
    obtain ⟨hkey, hrest⟩ := List.forall_mem_cons.mp hkeys
    obtain ⟨again, hfst, hsnd, hkeyed, hagain⟩ := ih hrest
    have hwritten := writtenEvent_of_normalizeEvent hlib hevent
    refine ⟨(k.1, e) :: again, ?_, ?_, .cons ?_ hkeyed, .cons hwritten.again hagain⟩
    · rw [List.map_cons, List.map_cons, hfst]
    · rw [List.map_cons, hsnd]
    · exact keyedEvent_eq_some.mpr ⟨rfl, eventSortKey_normalized hlib hwritten hkey⟩

/-- The events of a normalized case, with their keys in order. -/
theorem keyed_of_normalizeEvents (hlib : ReadsIsoformat lib)
    (h : normalizeEvents lib floats value = some kept) :
    ∃ again : List (List String × Dict), again.map Prod.snd = kept ∧
      again.Pairwise (fun a b => a.1 ≤ b.1) ∧
        (∀ k ∈ again, eventSortKey lib k.2 = some k.1) ∧
          normalizeEvents lib floats (.arr (kept.map .obj)) = some kept := by
  obtain ⟨events, keyed, rfl, hkeyed, hkept⟩ := normalizeEvents_eq_some.mp h
  have hkeys : ∀ k ∈ sortBy Prod.fst keyed, eventSortKey lib k.2 = some k.1 := by
    intro k hk
    have hmem : k ∈ keyed := (Lib.sortBy_perm keyed).mem_iff.mp hk
    obtain ⟨v, -, hv⟩ := Lib.exists_of_mem_right hkeyed hmem
    exact (keyedEvent_eq_some.mp hv).2
  obtain ⟨again, hfst, hsnd, hagainKeyed, hagain⟩ := keys_normalized hlib hkeys hkept
  have hpairwise : again.Pairwise fun a b => a.1 ≤ b.1 := by
    have hsorted : ((sortBy Prod.fst keyed).map Prod.fst).Pairwise (· ≤ ·) :=
      List.pairwise_map.mpr (Lib.pairwise_sortBy keyed)
    rw [← hfst] at hsorted
    exact List.pairwise_map.mp hsorted
  refine ⟨again, hsnd, hpairwise, fun k hk => ?_,
    normalizeEvents_eq_some.mpr ⟨_, again, rfl, hagainKeyed, ?_⟩⟩
  · obtain ⟨v, -, hv⟩ := Lib.exists_of_mem_right hagainKeyed hk
    exact (keyedEvent_eq_some.mp hv).2
  · rw [Lib.sortBy_of_pairwise hpairwise]
    exact hagain

/-- What is written of a case. -/
structure WrittenCase (lib : Library) (floats : Floats) (record case : Dict) : Prop where
  again : normalizeCase lib floats case = some case
  caseId : case.lookup "case_id" = record.lookup "case_id"
  events : ∃ value kept, record.lookup "events" = some value ∧
    normalizeEvents lib floats value = some kept ∧
      case.lookup "events" = some (.arr (kept.map .obj))

/-- A normalized case is the normal form of itself. -/
theorem writtenCase_of_normalizeCase (hlib : ReadsIsoformat lib)
    (h : normalizeCase lib floats record = some case) : WrittenCase lib floats record case := by
  obtain ⟨value, hvalue, h⟩ := Option.bind_eq_some_iff.mp h
  obtain ⟨kept, hkept, h⟩ := Option.bind_eq_some_iff.mp h
  obtain ⟨caseId, hcaseId, h⟩ := Option.bind_eq_some_iff.mp h
  obtain ⟨openedAt, -, h⟩ := Option.bind_eq_some_iff.mp h
  obtain ⟨opened, hopened, h⟩ := Option.bind_eq_some_iff.mp h
  obtain ⟨subjectId, -, h⟩ := Option.bind_eq_some_iff.mp h
  obtain ⟨privilegeLevel, -, h⟩ := Option.bind_eq_some_iff.mp h
  obtain ⟨breakGlass, -, h⟩ := Option.bind_eq_some_iff.mp h
  obtain ⟨assetId, -, h⟩ := Option.bind_eq_some_iff.mp h
  obtain ⟨given, -, h⟩ := Option.bind_eq_some_iff.mp h
  obtain ⟨criticality, hcriticality, h⟩ := Option.bind_eq_some_iff.mp h
  cases h
  obtain ⟨-, -, -, -, hagain⟩ := keyed_of_normalizeEvents hlib hkept
  refine ⟨?_, hcaseId.symm, value, kept, hvalue, hkept, rfl⟩
  unfold normalizeCase
  refine Option.bind_eq_some_iff.mpr ⟨.arr (kept.map .obj), rfl, ?_⟩
  refine Option.bind_eq_some_iff.mpr ⟨kept, hagain, ?_⟩
  refine Option.bind_eq_some_iff.mpr ⟨caseId, rfl, ?_⟩
  refine Option.bind_eq_some_iff.mpr ⟨.str opened, rfl, ?_⟩
  refine Option.bind_eq_some_iff.mpr ⟨opened, normalizeTimestamp_normalized hlib hopened, ?_⟩
  refine Option.bind_eq_some_iff.mpr ⟨subjectId, rfl, ?_⟩
  refine Option.bind_eq_some_iff.mpr ⟨privilegeLevel, rfl, ?_⟩
  refine Option.bind_eq_some_iff.mpr ⟨breakGlass, rfl, ?_⟩
  refine Option.bind_eq_some_iff.mpr ⟨assetId, rfl, ?_⟩
  refine Option.bind_eq_some_iff.mpr ⟨criticality, rfl, ?_⟩
  exact Option.bind_eq_some_iff.mpr ⟨criticality, toFloat_idem hcriticality, rfl⟩

end Again

/-! ## §6 Chronological order -/

section Chronological

variable {lib : Library} {floats : Floats}

/-- The instant that a member of an event names. -/
def instantOf (lib : Library) (event : Json) (name : String) : Option Int :=
  (parseTimestamp lib (.ofCase "timestamp") ((membersOf event).get name)).toOption

/-- The first event was observed before the second one, or at the same instant and collected
not later. -/
def Chronological (lib : Library) (event later : Json) : Prop :=
  ∃ observed collected observed' collected',
    instantOf lib event "observed_at" = some observed ∧
      instantOf lib event "collected_at" = some collected ∧
        instantOf lib later "observed_at" = some observed' ∧
          instantOf lib later "collected_at" = some collected' ∧
            (observed < observed' ∨ observed = observed' ∧ collected ≤ collected')

/-- The instants of an event, with the texts that stand for them in its key. -/
theorem instants_of_key {event : Dict} {key : List String}
    (h : eventSortKey lib event = some key) :
    ∃ observed collected rest o c, key = o :: c :: rest ∧
      isoformat observed = some o ∧ isoformat collected = some c ∧
        (∀ v, event.lookup "observed_at" = some (.str v) →
          instantOf lib (.obj event) "observed_at" = some observed) ∧
        ∀ v, event.lookup "collected_at" = some (.str v) →
          instantOf lib (.obj event) "collected_at" = some collected := by
  obtain ⟨observedAt, collectedAt, sourceType, sourceInstance, eventId, o, c, hobservedAt,
    hcollectedAt, -, -, -, ho, hc, rfl⟩ := eventSortKey_eq_some.mp h
  obtain ⟨observed, hobserved, ho⟩ := normalizeTimestamp_eq_some.mp ho
  obtain ⟨collected, hcollected, hc⟩ := normalizeTimestamp_eq_some.mp hc
  refine ⟨observed, collected, _, o, c, rfl, ho, hc, fun v hv => ?_, fun v hv => ?_⟩
  · obtain rfl := Option.some.inj (hobservedAt.symm.trans hv)
    show (parseTimestamp lib _ ((event.lookup "observed_at").getD .null)).toOption = _
    rw [hv]
    exact congrArg Except.toOption hobserved
  · obtain rfl := Option.some.inj (hcollectedAt.symm.trans hv)
    show (parseTimestamp lib _ ((event.lookup "collected_at").getD .null)).toOption = _
    rw [hv]
    exact congrArg Except.toOption hcollected

/-- The order of keys is the order of instants. -/
theorem chronological_of_key_le {event later : Dict} {key key' : List String} {s t s' t' : String}
    (hs : event.lookup "observed_at" = some (.str s))
    (ht : event.lookup "collected_at" = some (.str t))
    (hs' : later.lookup "observed_at" = some (.str s'))
    (ht' : later.lookup "collected_at" = some (.str t'))
    (hkey : eventSortKey lib event = some key) (hkey' : eventSortKey lib later = some key')
    (hle : key ≤ key') : Chronological lib (.obj event) (.obj later) := by
  obtain ⟨observed, collected, rest, o, c, rfl, ho, hc, hobserved, hcollected⟩ :=
    instants_of_key hkey
  obtain ⟨observed', collected', rest', o', c', rfl, ho', hc', hobserved', hcollected'⟩ :=
    instants_of_key hkey'
  refine ⟨observed, collected, observed', collected', hobserved s hs, hcollected t ht,
    hobserved' s' hs', hcollected' t' ht', ?_⟩
  have hinstant : ∀ {i j : Int} {t : String}, isoformat i = some t → isoformat j = some t →
      i = j := by
    intro i j t hi hj
    rcases lt_trichotomy i j with hlt | heq | hgt
    · exact absurd ((Lib.Calendar.isoformat_lt hi hj).mpr hlt) (lt_irrefl _)
    · exact heq
    · exact absurd ((Lib.Calendar.isoformat_lt hj hi).mpr hgt) (lt_irrefl _)
  rcases hle.lt_or_eq with hlt | heq
  · rcases List.cons_lt_cons_iff.mp hlt with hlt | ⟨hsame, hlt⟩
    · exact .inl ((Lib.Calendar.isoformat_lt ho ho').mp hlt)
    · refine .inr ⟨hinstant ho (hsame ▸ ho'), ?_⟩
      rcases List.cons_lt_cons_iff.mp hlt with hlt | ⟨hsame, -⟩
      · exact ((Lib.Calendar.isoformat_lt hc hc').mp hlt).le
      · exact (hinstant hc (hsame ▸ hc')).le
  · injection heq with hsame heq
    injection heq with hsame' heq
    exact .inr ⟨hinstant ho (hsame ▸ ho'), (hinstant hc (hsame' ▸ hc')).le⟩

/-- Normalized events are in chronological order. -/
theorem chronological_of_normalizeEvents (hlib : ReadsIsoformat lib) {value : Json}
    {kept : List Dict} (h : normalizeEvents lib floats value = some kept) :
    (kept.map Json.obj).Pairwise (Chronological lib) := by
  obtain ⟨events, keyed, -, -, hkept⟩ := normalizeEvents_eq_some.mp h
  have htimes : ∀ event ∈ kept, (∃ s, event.lookup "observed_at" = some (.str s)) ∧
      ∃ s, event.lookup "collected_at" = some (.str s) := by
    intro event hevent
    obtain ⟨source, -, hsource⟩ := Lib.exists_of_mem_right hkept hevent
    have hwritten := writtenEvent_of_normalizeEvent hlib hsource
    obtain ⟨_, s, -, -, hs⟩ := hwritten.observedAt
    obtain ⟨_, t, -, -, ht⟩ := hwritten.collectedAt
    exact ⟨⟨s, hs⟩, t, ht⟩
  obtain ⟨again, rfl, hpairwise, hkeys, -⟩ := keyed_of_normalizeEvents hlib h
  rw [List.map_map]
  refine List.pairwise_map.mpr (hpairwise.imp_of_mem ?_)
  intro a b ha hb hle
  obtain ⟨⟨s, hs⟩, t, ht⟩ := htimes a.2 (List.mem_map_of_mem ha)
  obtain ⟨⟨s', hs'⟩, t', ht'⟩ := htimes b.2 (List.mem_map_of_mem hb)
  exact chronological_of_key_le hs ht hs' ht' (hkeys a ha) (hkeys b hb) hle

end Chronological

/-! ## §7 Rearranged files -/

section Canonical

variable {lib : Library} {floats : Floats} {value : Json} {records records' : List Json}
variable {record record' normalizedRecord : Json} {fields case : Dict} {events events' : List Json}

/-- A valid event has a text for its identifier. -/
theorem eventId_of_valid {caseId : String} {event : Dict} (h : EventOk lib caseId (.obj event)) :
    event.lookup "event_id" = some (.str (eventIdOf (.obj event))) := by
  obtain ⟨-, hdefined⟩ := definedEventId_of_valid h
  change definedText event "event_id" = some (textOf event "event_id") at hdefined
  show _ = some (Json.str (textOf event "event_id"))
  unfold definedText at hdefined
  unfold textOf at hdefined ⊢
  unfold Dict.get at hdefined ⊢
  cases hlookup : event.lookup "event_id" with
  | none =>
    rw [hlookup] at hdefined
    cases hdefined
  | some v =>
    cases v with
    | str s => rfl
    | null | bool | int | float | arr | obj =>
      rw [hlookup] at hdefined
      cases hdefined

/-- The identifier of an event is the last part of its key. -/
theorem getLast?_key {caseId : String} {keyed : List String × Dict} (h : EventOk lib caseId value)
    (hkeyed : keyedEvent lib value = some keyed) : keyed.1.getLast? = some (eventIdOf value) := by
  obtain ⟨rfl, hkey⟩ := keyedEvent_eq_some.mp hkeyed
  obtain ⟨_, _, _, _, eventId, _, _, -, -, -, -, heventId, -, -, hparts⟩ :=
    eventSortKey_eq_some.mp hkey
  obtain rfl := Option.some.inj (heventId.symm.trans (eventId_of_valid h))
  rw [hparts]
  rfl

/-- The events of a valid case have different keys. -/
theorem keys_nodup {caseId : String} {keyed : List (List String × Dict)}
    (hevents : ∀ value ∈ events, EventOk lib caseId value)
    (hdistinct : (events.map eventIdOf).Nodup)
    (hkeyed : List.Forall₂ (fun v k => keyedEvent lib v = some k) events keyed) :
    (keyed.map Prod.fst).Nodup := by
  have hids : (keyed.map Prod.fst).map List.getLast? = (events.map eventIdOf).map some := by
    clear hdistinct
    induction hkeyed with
    | nil => rfl
    | cons hkey _ ih =>
      obtain ⟨hok, hrest⟩ := List.forall_mem_cons.mp hevents
      simp only [List.map_cons, ih hrest, getLast?_key hok hkey]
  refine List.Nodup.of_map List.getLast? ?_
  rw [hids]
  exact hdistinct.map (Option.some_injective _)

/-- Valid events are normalized alike in every order. -/
theorem normalizeEvents_perm {caseId : String} {kept : List Dict}
    (hevents : ∀ value ∈ events, EventOk lib caseId value)
    (hdistinct : (events.map eventIdOf).Nodup) (hperm : events'.Perm events)
    (h : normalizeEvents lib floats (.arr events) = some kept) :
    normalizeEvents lib floats (.arr events') = some kept := by
  obtain ⟨_, keyed, ⟨⟩, hkeyed, hkept⟩ := normalizeEvents_eq_some.mp h
  obtain ⟨keyed', hkeyed', hsame⟩ := Lib.mapM_perm hperm (Lib.mapM_eq_some.mpr hkeyed)
  refine normalizeEvents_eq_some.mpr ⟨events', keyed', rfl, Lib.mapM_eq_some.mp hkeyed', ?_⟩
  have hnodup := keys_nodup hevents hdistinct hkeyed
  rw [Lib.sortBy_eq_of_perm hsame ((hsame.map _).nodup_iff.mpr hnodup)]
  exact hkept

/-- The events of a valid record. -/
theorem events_of_valid (h : validateCaseRecord lib (.obj fields) = .ok ()) :
    ∃ caseId events, fields.lookup "events" = some (.arr events) ∧
      (∀ value ∈ events, EventOk lib caseId value) ∧ (events.map eventIdOf).Nodup := by
  obtain ⟨head, hhead, hok⟩ := validateCaseRecord_iff.mp h
  exact ⟨head.caseId, head.events, lookup_events_of_head hhead, hok.event, hok.distinct⟩

/-- A valid record is normalized alike with its events in every order. -/
theorem normalizeCase_withEvents (hvalid : validateCaseRecord lib (.obj fields) = .ok ())
    (hlookup : fields.lookup "events" = some (.arr events)) (hperm : events'.Perm events)
    (h : normalizeCase lib floats fields = some case) :
    normalizeCase lib floats (withEvents events' fields) = some case := by
  obtain ⟨caseId, _, hlookup', hevents, hdistinct⟩ := events_of_valid hvalid
  obtain ⟨⟩ := Option.some.inj (hlookup.symm.trans hlookup')
  obtain ⟨value, hvalue, hmembers⟩ := Option.bind_eq_some_iff.mp h
  obtain ⟨kept, hkept, hothers⟩ := Option.bind_eq_some_iff.mp hmembers
  obtain rfl := Option.some.inj (hlookup.symm.trans hvalue)
  unfold normalizeCase
  refine Option.bind_eq_some_iff.mpr ⟨.arr events', lookup_events_withEvents hlookup, ?_⟩
  refine Option.bind_eq_some_iff.mpr ⟨kept, normalizeEvents_perm hevents hdistinct hperm hkept, ?_⟩
  have hother : ∀ name, name ≠ "events" →
      (withEvents events' fields).lookup name = fields.lookup name :=
    fun name hname => lookup_withEvents hname
  rw [hother "case_id" (by decide), hother "opened_at" (by decide),
    hother "subject_id" (by decide), hother "privilege_level" (by decide),
    hother "break_glass" (by decide), hother "asset_id" (by decide),
    hother "asset_criticality" (by decide)]
  exact hothers

theorem normalizeRecord_obj (h : normalizeCase lib floats fields = some case) :
    normalizeRecord lib floats (.obj fields) = some (.obj case) :=
  Option.map_eq_some_iff.mpr ⟨case, h, rfl⟩

theorem normalizeRecord_reordered (hvalid : validateCaseRecord lib record = .ok ())
    (h : EventsReordered record record')
    (hnormalized : normalizeRecord lib floats record = some normalizedRecord) :
    normalizeRecord lib floats record' = some normalizedRecord := by
  obtain ⟨fields, events, events', rfl, hlookup, hperm, rfl⟩ := h
  obtain ⟨case, hcase, rfl⟩ := Option.map_eq_some_iff.mp hnormalized
  exact normalizeRecord_obj (normalizeCase_withEvents hvalid hlookup hperm hcase)

/-- A normalization is one of valid records, sorted by their identifiers. -/
theorem normalizeCasesWithDiagnostics_eq_some {warnings : List Dict} {normalized : List Json}
    {diagnostics : Diagnostics} :
    normalizeCasesWithDiagnostics lib floats records warnings = some (normalized, diagnostics) ↔
      validateCaseRecords lib records = .ok records ∧
        List.Forall₂ (fun r n => normalizeRecord lib floats r = some n) (sortBy caseIdOf records)
          normalized ∧
          diagnostics = diagnose lib warnings (sortBy caseIdOf records) normalized := by
  unfold normalizeCasesWithDiagnostics
  cases hvalid : validateCaseRecords lib records with
  | error e => simp
  | ok validated =>
    obtain rfl : validated = records := by
      unfold validateCaseRecords at hvalid
      cases hfrom : validateRecordsFrom lib [] [] records with
      | error e =>
        rw [hfrom] at hvalid
        cases hvalid
      | ok u =>
        rw [hfrom] at hvalid
        exact (Except.ok.inj hvalid).symm
    rw [← Lib.mapM_eq_some]
    simp only [Option.map_eq_some_iff, Prod.mk.injEq, true_and]
    constructor
    · rintro ⟨n, hn, rfl, rfl⟩
      exact ⟨hn, rfl⟩
    · rintro ⟨hn, rfl⟩
      exact ⟨normalized, hn, rfl, rfl⟩

/-- Rearranged files have the same normal form. -/
theorem normalizeCasesWithDiagnostics_rearranged {warnings warnings' : List Dict}
    {normalized : List Json} {diagnostics : Diagnostics} (hrearranged : Rearranged records records')
    (h : normalizeCasesWithDiagnostics lib floats records warnings =
      some (normalized, diagnostics)) :
    ∃ diagnostics', normalizeCasesWithDiagnostics lib floats records' warnings' =
      some (normalized, diagnostics') := by
  obtain ⟨hvalid, hnormalized, -⟩ := normalizeCasesWithDiagnostics_eq_some.mp h
  have hvalid' := validateCaseRecords_rearranged hrearranged hvalid
  obtain ⟨middle, hmiddle, hperm⟩ := hrearranged
  obtain ⟨hrecords, -, -⟩ := validateCaseRecords_eq_ok.mp hvalid
  obtain ⟨-, hcases, -⟩ := validateCaseRecords_eq_ok.mp hvalid'
  refine ⟨_, normalizeCasesWithDiagnostics_eq_some.mpr ⟨hvalid', ?_, rfl⟩⟩
  rw [Lib.sortBy_eq_of_perm hperm hcases]
  -- the records with their events in another order are sorted as the records are
  have hsorted : List.Forall₂ EventsReordered (sortBy caseIdOf records)
      (sortBy caseIdOf middle) :=
    Lib.forall₂_sortBy hmiddle fun _ _ hrecord => hrecord.identifiers.1.symm
  have hvalidSorted : ∀ record ∈ sortBy caseIdOf records, validateCaseRecord lib record = .ok () :=
    fun record hrecord => hrecords record ((Lib.sortBy_perm records).subset hrecord)
  clear hmiddle hperm h hvalid hvalid' hrecords hcases
  generalize sortBy caseIdOf records = sorted at hsorted hvalidSorted hnormalized
  generalize sortBy caseIdOf middle = sorted' at hsorted
  induction hsorted generalizing normalized with
  | nil => exact hnormalized
  | cons hrecord _ ih =>
    obtain ⟨hok, hrest⟩ := List.forall_mem_cons.mp hvalidSorted
    cases hnormalized with
    | cons hfirst hothers =>
      exact .cons (normalizeRecord_reordered hok hrecord hfirst) (ih hrest hothers)

/-- The events of a case. -/
def eventsOf (case : Json) : List Json :=
  match (membersOf case).get "events" with
  | .arr events => events
  | _ => []

/-- The event that is written for an event. -/
structure KeepsEvent (lib : Library) (floats : Floats) (value kept : Json) : Prop where
  written : (normalizeEvent lib floats (membersOf value)).map Json.obj = some kept
  eventId : eventIdOf kept = eventIdOf value

/-- The case that is written for a record: every event of the record is in it once. -/
structure KeepsCase (lib : Library) (floats : Floats) (record case : Json) : Prop where
  caseId : caseIdOf case = caseIdOf record
  events : ∃ events, events.Perm (eventsOf record) ∧
    List.Forall₂ (KeepsEvent lib floats) events (eventsOf case)

theorem textOf_congr {d e : Dict} {name : String} (h : d.lookup name = e.lookup name) :
    textOf d name = textOf e name := by
  rw [textOf, textOf, Dict.get, Dict.get, h]

theorem keepsCase_of_normalizeRecord (hlib : ReadsIsoformat lib)
    (h : normalizeRecord lib floats record = some normalizedRecord) :
    KeepsCase lib floats record normalizedRecord := by
  cases record with
  | obj fields =>
    obtain ⟨case, hcase, rfl⟩ := Option.map_eq_some_iff.mp h
    obtain ⟨-, hcaseId, value, kept, hvalue, hkept, hwritten⟩ :=
      writtenCase_of_normalizeCase hlib hcase
    obtain ⟨events, keyed, rfl, hkeyed, hsorted⟩ := normalizeEvents_eq_some.mp hkept
    refine ⟨textOf_congr hcaseId, ?_⟩
    have hevents : eventsOf (.obj fields) = events := by
      simp only [eventsOf, membersOf, Dict.get, hvalue, Option.getD_some]
    have hevents' : eventsOf (.obj case) = kept.map .obj := by
      simp only [eventsOf, membersOf, Dict.get, hwritten, Option.getD_some]
    rw [hevents, hevents']
    have hsources : events = keyed.map fun k => Json.obj k.2 := by
      clear hvalue hkept hsorted hevents
      induction hkeyed with
      | nil => rfl
      | cons hkey _ ih =>
        obtain ⟨rfl, -⟩ := keyedEvent_eq_some.mp hkey
        rw [List.map_cons, ih]
    refine ⟨(sortBy Prod.fst keyed).map fun k => .obj k.2, ?_, ?_⟩
    · rw [hsources]
      exact (Lib.sortBy_perm keyed).map _
    · refine List.forall₂_map_left_iff.mpr (List.forall₂_map_right_iff.mpr ?_)
      refine hsorted.imp fun k e hevent => ⟨?_, ?_⟩
      · exact Option.map_eq_some_iff.mpr ⟨e, hevent, rfl⟩
      · exact textOf_congr (writtenEvent_of_normalizeEvent hlib hevent).eventId
  | null | bool | int | float | str | arr => cases h

/-- A normalized case is in chronological order and is the normal form of itself. -/
theorem ordered_of_normalizeRecord (hlib : ReadsIsoformat lib)
    (h : normalizeRecord lib floats record = some normalizedRecord) :
    (eventsOf normalizedRecord).Pairwise (Chronological lib) ∧
      normalizeRecord lib floats normalizedRecord = some normalizedRecord := by
  cases record with
  | obj fields =>
    obtain ⟨case, hcase, rfl⟩ := Option.map_eq_some_iff.mp h
    obtain ⟨hagain, -, value, kept, -, hkept, hwritten⟩ := writtenCase_of_normalizeCase hlib hcase
    refine ⟨?_, normalizeRecord_obj hagain⟩
    have hevents : eventsOf (.obj case) = kept.map .obj := by
      simp only [eventsOf, membersOf, Dict.get, hwritten, Option.getD_some]
    rw [hevents]
    exact chronological_of_normalizeEvents hlib hkept
  | null | bool | int | float | str | arr => cases h

/-- Normalization is canonical: the normal form does not depend on the order of cases and events,
keeps each of them once, is in chronological order, and is the normal form of itself. -/
theorem normalization_is_canonical (hlib : ReadsIsoformat lib) {warnings : List Dict}
    {normalized : List Json} {diagnostics : Diagnostics}
    (h : normalizeCasesWithDiagnostics lib floats records warnings =
      some (normalized, diagnostics)) :
    (∀ records' warnings', Rearranged records records' →
      ∃ diagnostics', normalizeCasesWithDiagnostics lib floats records' warnings' =
        some (normalized, diagnostics')) ∧
      (∃ order, order.Perm records ∧ List.Forall₂ (KeepsCase lib floats) order normalized) ∧
        (∀ case ∈ normalized, (eventsOf case).Pairwise (Chronological lib)) ∧
          ∀ case ∈ normalized, normalizeRecord lib floats case = some case := by
  obtain ⟨-, hnormalized, -⟩ := normalizeCasesWithDiagnostics_eq_some.mp h
  have hordered : ∀ case ∈ normalized, (eventsOf case).Pairwise (Chronological lib) ∧
      normalizeRecord lib floats case = some case := by
    intro case hcase
    obtain ⟨record, -, hrecord⟩ := Lib.exists_of_mem_right hnormalized hcase
    exact ordered_of_normalizeRecord hlib hrecord
  refine ⟨fun records' warnings' hrearranged => ?_, ⟨sortBy caseIdOf records, ?_, ?_⟩,
    fun case hcase => (hordered case hcase).1, fun case hcase => (hordered case hcase).2⟩
  · exact normalizeCasesWithDiagnostics_rearranged hrearranged h
  · exact Lib.sortBy_perm records
  · exact hnormalized.imp fun _ _ hrecord => keepsCase_of_normalizeRecord hlib hrecord

end Canonical

/-- The texts that `datetime.isoformat` writes are read. -/
def isoformatLibrary : Library where
  fromisoformat s := (Lib.Calendar.readIsoformat s).map .aware
  floatValue _ := none
  isPrintable _ := true
  reprOther _ := ""

/-- The number one is converted. -/
def sampleFloats : Floats where
  ofInt n := if n = 1 then some "1.0" else none
  ofText _ := none

/-- An event that was observed half a second after the other one. -/
def laterEvent : Dict :=
  (sampleEvent (.str "verified")).update
    [("observed_at", .str "2025-12-31T23:59:59.500000+00:00")]

def earlierEvent : Dict :=
  (sampleEvent (.str "verified")).update
    [("event_id", .str "event-2"), ("observed_at", .str "2025-12-31T23:59:59+00:00")]

/-- A case whose events are not in the order of their times. -/
def unorderedCase : Dict :=
  (sampleCase "subject-1" (.str "verified")).update
    [("events", .arr [.obj laterEvent, .obj earlierEvent])]

/-- The events of that case trade places. -/
theorem normalization_is_canonical_example :
    ∃ normalized diagnostics,
      normalizeCasesWithDiagnostics isoformatLibrary sampleFloats [.obj unorderedCase] [] =
          some (normalized, diagnostics) ∧
        normalized.flatMap eventIdsOf = ["event-2", "event-1"] ∧
          ∀ case ∈ normalized, (eventsOf case).Pairwise (Chronological isoformatLibrary) := by
  have hlib : ReadsIsoformat isoformatLibrary := by
    intro instant s h
    simp only [isoformatLibrary, Lib.Calendar.readIsoformat_isoformat h, Option.map_some]
  have hfacts : (validateCaseRecords isoformatLibrary [.obj unorderedCase]).isOk = true ∧
      eventSortKey isoformatLibrary laterEvent = some ["2025-12-31T23:59:59.500000+00:00",
          "2026-01-01T00:00:00+00:00", "asset_inventory", "cmdb", "event-1"] ∧
        eventSortKey isoformatLibrary earlierEvent = some ["2025-12-31T23:59:59+00:00",
            "2026-01-01T00:00:00+00:00", "asset_inventory", "cmdb", "event-2"] ∧
          (normalizeEvent isoformatLibrary sampleFloats laterEvent).isSome = true ∧
            (normalizeEvent isoformatLibrary sampleFloats earlierEvent).isSome = true ∧
              normalizeTimestamp isoformatLibrary (.str "2026-01-01T00:00:00+00:00") =
                some "2026-01-01T00:00:00+00:00" := by
    decide +kernel
  obtain ⟨hok, hlater, hearlier, hlaterSome, hearlierSome, hopened⟩ := hfacts
  obtain ⟨later, hlaterKept⟩ := Option.isSome_iff_exists.mp hlaterSome
  obtain ⟨earlier, hearlierKept⟩ := Option.isSome_iff_exists.mp hearlierSome
  have hvalid : validateCaseRecords isoformatLibrary [.obj unorderedCase] =
      .ok [.obj unorderedCase] := by
    unfold validateCaseRecords at hok ⊢
    cases hfrom : validateRecordsFrom isoformatLibrary [] [] [.obj unorderedCase] with
    | error e =>
      rw [hfrom] at hok
      cases hok
    | ok u => rfl
  have hevents : normalizeEvents isoformatLibrary sampleFloats
      (.arr [.obj laterEvent, .obj earlierEvent]) = some [earlier, later] := by
    refine normalizeEvents_eq_some.mpr ⟨_, [(_, laterEvent), (_, earlierEvent)], rfl,
      .cons (keyedEvent_eq_some.mpr ⟨rfl, hlater⟩)
        (.cons (keyedEvent_eq_some.mpr ⟨rfl, hearlier⟩) .nil), ?_⟩
    have hlt : "2025-12-31T23:59:59+00:00" < "2025-12-31T23:59:59.500000+00:00" := by
      decide +kernel
    rw [Lib.sortBy_pair (List.cons_lt_cons_iff.mpr (.inl hlt))]
    exact .cons hearlierKept (.cons hlaterKept .nil)
  obtain ⟨case, hcase, hids⟩ : ∃ case : Dict,
      normalizeCase isoformatLibrary sampleFloats unorderedCase = some case ∧
        eventIdsOf (.obj case) = [eventIdOf (.obj earlier), eventIdOf (.obj later)] := by
    refine ⟨[("case_id", .str "case-1"), ("opened_at", .str "2026-01-01T00:00:00+00:00"),
      ("subject_id", .str "subject-1"), ("privilege_level", .str "user"),
      ("break_glass", .bool false), ("asset_id", .str "host-1"),
      ("asset_criticality", .float "1.0"), ("events", .arr [.obj earlier, .obj later])], ?_, rfl⟩
    unfold normalizeCase
    refine Option.bind_eq_some_iff.mpr ⟨.arr [.obj laterEvent, .obj earlierEvent], rfl, ?_⟩
    refine Option.bind_eq_some_iff.mpr ⟨[earlier, later], hevents, ?_⟩
    refine Option.bind_eq_some_iff.mpr ⟨.str "case-1", rfl, ?_⟩
    refine Option.bind_eq_some_iff.mpr ⟨.str "2026-01-01T00:00:00+00:00", rfl, ?_⟩
    exact Option.bind_eq_some_iff.mpr ⟨_, hopened, rfl⟩
  have hsorted : sortBy caseIdOf [Json.obj unorderedCase] = [.obj unorderedCase] :=
    Lib.sortBy_of_pairwise (List.pairwise_singleton _ _)
  have hnormalized : List.Forall₂
      (fun r n => normalizeRecord isoformatLibrary sampleFloats r = some n)
      (sortBy caseIdOf [.obj unorderedCase]) [.obj case] := by
    rw [hsorted]
    exact .cons (normalizeRecord_obj hcase) .nil
  obtain ⟨diagnostics, hrun⟩ : ∃ diagnostics,
      normalizeCasesWithDiagnostics isoformatLibrary sampleFloats [.obj unorderedCase] [] =
        some ([.obj case], diagnostics) :=
    ⟨_, normalizeCasesWithDiagnostics_eq_some.mpr ⟨hvalid, hnormalized, rfl⟩⟩
  obtain ⟨-, -, hordered, -⟩ := normalization_is_canonical hlib hrun
  refine ⟨_, _, hrun, ?_, hordered⟩
  have hlaterId : eventIdOf (.obj later) = "event-1" :=
    textOf_congr (writtenEvent_of_normalizeEvent hlib hlaterKept).eventId
  have hearlierId : eventIdOf (.obj earlier) = "event-2" :=
    textOf_congr (writtenEvent_of_normalizeEvent hlib hearlierKept).eventId
  rw [List.flatMap_singleton, hids, hlaterId, hearlierId]

end DecisionFirewall.Replay
