import DecisionFirewall.Reference.Stages

/-!
# The Reference Computes What the Engine Does

Stage by stage: where a stage of the engine returns for a case, a model and a policy that the
reference accepts, the stage of the reference returns the same.

- §1 dictionaries
- §2 attributes
- §3 features
- §4 evidence
-/

namespace DecisionFirewall.Reference

open Engine (EngineFloat LawfulEngineFloat EvidenceEvent IdentityCase Values Extraction EventFacts
  EvidenceAssessment floatOf MODELED_BOOLEAN_ATTRIBUTE_NAMES modeledAttributes evidenceAttributes)
open Engine.EngineFloat (le lt lit ratio)
open Lib (bind_eq_ok map_eq_ok)

/-! ## §1 Dictionaries -/

section Dictionaries

variable {α : Type} {values : Values α} {name other : String} {value : α}

theorem keys_set (h : name ∈ values.map Prod.fst) :
    (values.set name value).map Prod.fst = values.map Prod.fst := by
  unfold Values.set
  rw [if_pos h, List.map_map]
  refine List.map_congr_left fun entry _ => ?_
  show (if entry.1 = name then (name, value) else entry).1 = entry.1
  split
  · rename_i heq
    exact heq.symm
  · rfl

/-- Replacing a value leaves the other values. -/
theorem lookup_replace_ne (h : other ≠ name) :
    (values.map fun entry => if entry.1 = name then (name, value) else entry).lookup other =
      values.lookup other := by
  induction values with
  | nil => rfl
  | cons entry values ih =>
    rw [List.map_cons, List.lookup_cons, List.lookup_cons]
    by_cases hentry : entry.1 = name
    · rw [if_pos hentry, beq_eq_false_iff_ne.mpr h, hentry, beq_eq_false_iff_ne.mpr h]
      exact ih
    · rw [if_neg hentry, ih]

theorem lookup_replace_self (h : name ∈ values.map Prod.fst) :
    (values.map fun entry => if entry.1 = name then (name, value) else entry).lookup name =
      some value := by
  induction values with
  | nil => cases h
  | cons entry values ih =>
    rw [List.map_cons, List.lookup_cons]
    by_cases hentry : entry.1 = name
    · rw [if_pos hentry, beq_self_eq_true]
    · have hne : name ≠ entry.1 := fun heq => hentry heq.symm
      rw [if_neg hentry, beq_eq_false_iff_ne.mpr hne]
      refine ih ?_
      rw [List.map_cons, List.mem_cons] at h
      exact h.resolve_left hne

theorem lookup_set_ne (h : other ≠ name) :
    (values.set name value).lookup other = values.lookup other := by
  unfold Values.set
  split
  · exact lookup_replace_ne h
  · rw [List.lookup_append, List.lookup_cons, beq_eq_false_iff_ne.mpr h]
    exact Option.or_none

theorem lookup_set_self : (values.set name value).lookup name = some value := by
  unfold Values.set
  split
  · rename_i hmem
    exact lookup_replace_self hmem
  · rename_i hnot
    have hnone : values.lookup name = none := by
      rw [List.lookup_eq_none_iff]
      exact fun entry hentry => bne_iff_ne.mpr fun heq =>
        hnot (heq ▸ List.mem_map_of_mem hentry)
    rw [List.lookup_append, hnone, List.lookup_cons, beq_self_eq_true]
    rfl

end Dictionaries

/-! ## §2 Attributes -/

section Attributes

variable {lib : Engine.Library} {F : Type} [EngineFloat F]
variable {index : Nat} {sourceType : String} {attributes selected : Dict}
variable {read : String → Json → Replay.Checked Json} {entries : List (String × List String)}

/-- A selected attribute is what was read of it. -/
theorem selectAttribute_eq_ok {entry : String × List String}
    (h : Replay.selectAttribute index sourceType attributes read entry = .ok selected) :
    attributes.lookup entry.1 = none ∧ selected = [] ∨
      ∃ value v, attributes.lookup entry.1 = some value ∧ read entry.1 value = .ok v ∧
        selected = [(entry.1, v)] := by
  unfold Replay.selectAttribute at h
  cases hlookup : attributes.lookup entry.1 with
  | none =>
    rw [hlookup] at h
    cases h
    exact .inl ⟨rfl, rfl⟩
  | some value =>
    rw [hlookup] at h
    dsimp only at h
    split at h
    · cases h
    · obtain ⟨v, hv, rfl⟩ := map_eq_ok.mp h
      exact .inr ⟨value, v, rfl, hv, rfl⟩

/-- Nothing else is selected. -/
theorem lookup_collect_other
    (h : Replay.collect (Replay.selectAttribute index sourceType attributes read) entries =
      .ok selected) {name : String} (hname : name ∉ entries.map Prod.fst) :
    selected.lookup name = none := by
  induction entries generalizing selected with
  | nil =>
    cases h
    rfl
  | cons entry entries ih =>
    obtain ⟨xs, hxs, h⟩ := bind_eq_ok.mp h
    obtain ⟨rest, hrest, h⟩ := bind_eq_ok.mp h
    cases h
    rw [List.map_cons, List.mem_cons, not_or] at hname
    rw [List.lookup_append, ih hrest hname.2]
    rcases selectAttribute_eq_ok hxs with ⟨-, rfl⟩ | ⟨value, v, -, -, rfl⟩
    · rfl
    · rw [List.lookup_cons, beq_eq_false_iff_ne.mpr hname.1]
      rfl

/-- Of the listed attributes, those that occur are selected. -/
theorem lookup_collect (hnodup : (entries.map Prod.fst).Nodup)
    (h : Replay.collect (Replay.selectAttribute index sourceType attributes read) entries =
      .ok selected) {name : String} (hname : name ∈ entries.map Prod.fst) :
    attributes.lookup name = none ∧ selected.lookup name = none ∨
      ∃ value v, attributes.lookup name = some value ∧ read name value = .ok v ∧
        selected.lookup name = some v := by
  induction entries generalizing selected with
  | nil => cases hname
  | cons entry entries ih =>
    obtain ⟨xs, hxs, h⟩ := bind_eq_ok.mp h
    obtain ⟨rest, hrest, h⟩ := bind_eq_ok.mp h
    cases h
    rw [List.map_cons, List.nodup_cons] at hnodup
    rw [List.map_cons, List.mem_cons] at hname
    rw [List.lookup_append]
    by_cases heq : name = entry.1
    · subst heq
      rcases selectAttribute_eq_ok hxs with ⟨hnone, rfl⟩ | ⟨value, v, hvalue, hv, rfl⟩
      · exact .inl ⟨hnone, lookup_collect_other hrest hnodup.1⟩
      · refine .inr ⟨value, v, hvalue, hv, ?_⟩
        rw [List.lookup_cons, beq_self_eq_true]
        rfl
    · have hfirst : xs.lookup name = none := by
        rcases selectAttribute_eq_ok hxs with ⟨-, rfl⟩ | ⟨value, v, -, -, rfl⟩
        · rfl
        · rw [List.lookup_cons, beq_eq_false_iff_ne.mpr heq]
          rfl
      rw [hfirst, Option.none_or]
      exact ih hnodup.2 hrest (hname.resolve_left heq)

/-- A Boolean attribute is selected as it is. -/
theorem lookup_collect_boolean (hnodup : (entries.map Prod.fst).Nodup)
    (h : Replay.collect (Replay.selectAttribute index sourceType attributes
      (Replay.readBoolean index)) entries = .ok selected) {name : String}
    (hname : name ∈ entries.map Prod.fst) :
    selected.lookup name = attributes.lookup name := by
  rcases lookup_collect hnodup h hname with ⟨hnone, hselected⟩ | ⟨value, v, hvalue, hread, hv⟩
  · rw [hselected, hnone]
  · rw [hv, hvalue]
    cases value with
    | bool b =>
      cases hread
      rfl
    | null | int | float | str | arr | obj => cases hread

/-- What a check of the feature contract returns. -/
theorem contractCheck_eq_ok {α : Type} {check : Replay.Checked α} {a : α}
    (h : Engine.contractCheck check = .ok a) : check = .ok a := by
  cases check with
  | error e => cases h
  | ok b =>
    cases h
    rfl

variable {event : EvidenceEvent} {modeled : Dict}

theorem selectModeled_of_modeledAttributes (h : modeledAttributes lib F event = .ok modeled) :
    Replay.selectModeledAttributes (lib.contract F) 0 event.sourceType event.attributes =
      .ok modeled := by
  obtain ⟨_, -, hselect⟩ := bind_eq_ok.mp (contractCheck_eq_ok h)
  exact hselect

/-- The model sees the Boolean attributes as they are. -/
theorem lookup_modeled_boolean (h : modeledAttributes lib F event = .ok modeled) {name : String}
    (hname : name ∈ BOOLEAN_FEATURE_SOURCES.map Prod.fst) :
    modeled.lookup name = event.attributes.lookup name := by
  obtain ⟨booleans, hbooleans, h⟩ := bind_eq_ok.mp (selectModeled_of_modeledAttributes h)
  obtain ⟨integers, hintegers, h⟩ := bind_eq_ok.mp h
  cases h
  have hother : name ∉ Replay.MODELED_INTEGER_ATTRIBUTE_SOURCES.map Prod.fst := by
    intro hcount
    have hlogins : name = "failed_logins" := List.mem_singleton.mp hcount
    subst hlogins
    exact absurd hname (by decide)
  rw [List.lookup_append, lookup_collect_other hintegers hother, Option.or_none]
  exact lookup_collect_boolean (by decide) hbooleans hname

variable [LawfulEngineFloat F]

/-- The count that the model sees is the one that the reference reads. -/
theorem lookup_modeled_logins (h : modeledAttributes lib F event = .ok modeled)
    (hlogins : ∀ value, event.attributes.lookup "failed_logins" = some value →
      ∃ n, failedLogins F value = .ok n) :
    event.attributes.lookup "failed_logins" = none ∧ modeled.lookup "failed_logins" = none ∨
      ∃ value n, event.attributes.lookup "failed_logins" = some value ∧
        failedLogins F value = .ok n ∧ modeled.lookup "failed_logins" = some (.int n) := by
  obtain ⟨booleans, hbooleans, h⟩ := bind_eq_ok.mp (selectModeled_of_modeledAttributes h)
  obtain ⟨integers, hintegers, h⟩ := bind_eq_ok.mp h
  cases h
  have hother : booleans.lookup "failed_logins" = none :=
    lookup_collect_other hbooleans (by decide)
  rw [List.lookup_append, hother, Option.none_or]
  rcases lookup_collect (by decide) hintegers (by decide : "failed_logins" ∈ _) with
    ⟨hnone, hselected⟩ | ⟨value, v, hvalue, hread, hv⟩
  · exact .inl ⟨hnone, hselected⟩
  · obtain ⟨n, hn⟩ := hlogins value hvalue
    refine .inr ⟨value, n, hvalue, hn, ?_⟩
    rw [hv]
    cases value with
    | int k =>
      have hsame : Engine.intOf F lib (.int k) = .ok n :=
        intOf_of_exactInteger (by norm_num) (by decide) hn
      cases hsame
      unfold Replay.readCount at hread
      dsimp only at hread
      split at hread
      · cases hread
        rfl
      · cases hread
    | float text =>
      obtain ⟨x, q, hx, hq, hden, rfl, -, -⟩ := exactInteger_eq_ok.mp hn
      obtain ⟨rfl, -⟩ := finite_eq_ok.mp hx
      have hvalue : (lib.contract F).floatValue text = some q := hq
      unfold Replay.readCount at hread
      dsimp only at hread
      rw [hvalue] at hread
      dsimp only at hread
      split at hread
      · cases hread
      · split at hread
        · cases hread
          rfl
        · cases hread
    | null | bool | str | arr | obj => cases hread

end Attributes

/-! ## §3 Features -/

/-- The names of the Boolean features. -/
abbrev FLAG_NAMES : List String := BOOLEAN_FEATURE_SOURCES.map Prod.fst

/-- The features that are no attribute of an event. -/
abbrev CASE_NAMES : List String := ["privilege_global_admin", "asset_criticality"]

section CaseFeatures

variable {α : Type}

end CaseFeatures

section Features

variable {lib : Engine.Library} {F : Type} [EngineFloat F]

/-- The values of the engine beside those of the reference: but for the features of the case,
which the engine sets first, they are the same, and a flag is zero or one. -/
structure Alike (admin criticality : F) (x y : Extraction F) : Prop where
  trace : x.trace = y.trace
  traced : ∀ name ∈ CASE_NAMES, y.trace.lookup name = none
  keys : x.values.map Prod.fst = FEATURE_NAMES
  keys' : y.values.map Prod.fst = FEATURE_NAMES
  values : ∀ name, name ∉ CASE_NAMES → x.values.lookup name = y.values.lookup name
  admin : x.values.lookup "privilege_global_admin" = some admin
  criticality : x.values.lookup "asset_criticality" = some criticality
  binary : ∀ name ∈ FLAG_NAMES, x.value name = lit 0 ∨ x.value name = lit 1

variable {admin criticality : F} {x y : Extraction F}

theorem Alike.value (h : Alike admin criticality x y) {name : String} (hname : name ∉ CASE_NAMES) :
    x.value name = y.value name := by
  unfold Extraction.value
  rw [h.values name hname]

/-- Both set a feature of an event. -/
theorem Alike.set (h : Alike admin criticality x y) {name : String} {value : F}
    (hname : name ∈ FEATURE_NAMES) (hother : name ∉ CASE_NAMES)
    (hvalue : name ∈ FLAG_NAMES → value = lit 0 ∨ value = lit 1) :
    Alike admin criticality ⟨x.values.set name value, x.trace⟩ ⟨y.values.set name value, y.trace⟩ where
  trace := h.trace
  traced := h.traced
  keys := (keys_set (h.keys ▸ hname)).trans h.keys
  keys' := (keys_set (h.keys' ▸ hname)).trans h.keys'
  values := by
    intro other hcase
    show (x.values.set name value).lookup other = (y.values.set name value).lookup other
    by_cases heq : other = name
    · rw [heq, lookup_set_self, lookup_set_self]
    · rw [lookup_set_ne heq, lookup_set_ne heq, h.values other hcase]
  admin := by
    have hne : "privilege_global_admin" ≠ name := fun heq => hother (heq ▸ by decide)
    exact (lookup_set_ne hne).trans h.admin
  criticality := by
    have hne : "asset_criticality" ≠ name := fun heq => hother (heq ▸ by decide)
    exact (lookup_set_ne hne).trans h.criticality
  binary := by
    intro other hflag
    by_cases heq : other = name
    · subst heq
      have hset : (⟨x.values.set other value, x.trace⟩ : Extraction F).value other = value := by
        show ((x.values.set other value).lookup other).getD (lit 0) = value
        rw [lookup_set_self]
        rfl
      rw [hset]
      exact hvalue hflag
    · have hset : (⟨x.values.set name value, x.trace⟩ : Extraction F).value other =
          x.value other := by
        show ((x.values.set name value).lookup other).getD (lit 0) = _
        rw [lookup_set_ne heq]
        rfl
      rw [hset]
      exact h.binary other hflag

/-- Both name an event for a feature. -/
theorem Alike.extend (h : Alike admin criticality x y) {name id : String}
    (hother : name ∉ CASE_NAMES) :
    Alike admin criticality ⟨x.values, x.trace.extend name [id]⟩
      ⟨y.values, y.trace.extend name [id]⟩ where
  trace := by rw [h.trace]
  traced := by
    intro other hcase
    have hne : other ≠ name := fun heq => hother (heq ▸ hcase)
    exact (lookup_set_ne hne).trans (h.traced other hcase)
  keys := h.keys
  keys' := h.keys'
  values := h.values
  admin := h.admin
  criticality := h.criticality
  binary := h.binary

theorem mem_featureNames_of_flag {name : String} (h : name ∈ FLAG_NAMES) :
    name ∈ FEATURE_NAMES ∧ name ∉ CASE_NAMES := by
  revert name
  decide

variable [LawfulEngineFloat F]

theorem lt_lit {m n : Int} (hm : |m| < 2 ^ 53) (hn : |n| < 2 ^ 53) :
    lt (lit m : F) (lit n) = true ↔ m < n := by
  rw [LawfulEngineFloat.lt_iff _ _ _ _ (LawfulEngineFloat.exact_lit m hm)
    (LawfulEngineFloat.exact_lit n hn)]
  exact Int.cast_lt

/-- A flag that is not above what is there is not set. -/
theorem Alike.flag (h : Alike admin criticality x y) {name : String} (hflag : name ∈ FLAG_NAMES)
    (b : Bool) :
    Alike admin criticality
      ⟨if lt (x.value name) (lit (if b then 1 else 0)) then
        x.values.set name (lit (if b then 1 else 0)) else x.values, x.trace⟩
      ⟨if b then y.values.set name (lit 1) else y.values, y.trace⟩ := by
  obtain ⟨hname, hother⟩ := mem_featureNames_of_flag hflag
  have hzero : lt (lit 0 : F) (lit 0) = false :=
    Bool.eq_false_iff.mpr fun hlt => absurd ((lt_lit (by decide) (by decide)).mp hlt) (by decide)
  have hone : lt (lit 1 : F) (lit 1) = false :=
    Bool.eq_false_iff.mpr fun hlt => absurd ((lt_lit (by decide) (by decide)).mp hlt) (by decide)
  have hdown : lt (lit 1 : F) (lit 0) = false :=
    Bool.eq_false_iff.mpr fun hlt => absurd ((lt_lit (by decide) (by decide)).mp hlt) (by decide)
  have hup : lt (lit 0 : F) (lit 1) = true := (lt_lit (by decide) (by decide)).mpr (by decide)
  cases b with
  | false =>
    have hnot : lt (x.value name) (lit 0) = false := by
      rcases h.binary name hflag with hvalue | hvalue
      · rw [hvalue, hzero]
      · rw [hvalue, hdown]
    show Alike admin criticality
      ⟨if lt (x.value name) (lit 0) = true then x.values.set name (lit 0) else x.values, x.trace⟩ y
    rw [if_neg (Bool.eq_false_iff.mp hnot)]
    exact h
  | true =>
    have hset : Alike admin criticality ⟨x.values.set name (lit 1), x.trace⟩
        ⟨y.values.set name (lit 1), y.trace⟩ := h.set hname hother fun _ => .inr rfl
    show Alike admin criticality
      ⟨if lt (x.value name) (lit 1) = true then x.values.set name (lit 1) else x.values, x.trace⟩
        ⟨y.values.set name (lit 1), y.trace⟩
    rcases h.binary name hflag with hvalue | hvalue
    · rw [hvalue, if_pos hup]
      exact hset
    · -- the flag is there already
      rw [hvalue, if_neg (Bool.eq_false_iff.mp hone)]
      have hthere : x.values.lookup name = some (lit 1) := by
        have hkey : name ∈ x.values.map Prod.fst := h.keys ▸ hname
        cases hlookup : x.values.lookup name with
        | none =>
          rw [List.lookup_eq_none_iff] at hlookup
          obtain ⟨entry, hentry, rfl⟩ := List.mem_map.mp hkey
          exact absurd rfl (bne_iff_ne.mp (hlookup entry hentry))
        | some v =>
          unfold Extraction.value at hvalue
          rw [hlookup] at hvalue
          exact congrArg some hvalue
      refine { h with keys' := hset.keys', values := fun other hcase => ?_ }
      show x.values.lookup other = (y.values.set name (lit 1)).lookup other
      by_cases heq : other = name
      · rw [heq, hthere, lookup_set_self]
      · rw [lookup_set_ne heq, h.values other hcase]

variable {event : EvidenceEvent} {modeled : Dict}

/-- One Boolean attribute of an event. -/
theorem Alike.addFlag (h : Alike admin criticality x y) {name : String} (hflag : name ∈ FLAG_NAMES)
    (hmodeled : modeled.lookup name = event.attributes.lookup name)
    (hboolean : ∀ value, event.attributes.lookup name = some value → ∃ b, value = .bool b) :
    Alike admin criticality (Extraction.addFlag event.eventId modeled x name)
      (addFlag event y name) := by
  unfold Extraction.addFlag Reference.addFlag
  rw [hmodeled]
  cases hlookup : event.attributes.lookup name with
  | none => exact h
  | some value =>
    obtain ⟨b, rfl⟩ := hboolean value hlookup
    exact (h.flag hflag b).extend (mem_featureNames_of_flag hflag).2

/-- The loop over the Boolean attributes of an event. -/
theorem Alike.addFlags {names : List String} (h : Alike admin criticality x y)
    (hflags : ∀ name ∈ names, name ∈ FLAG_NAMES ∧
      modeled.lookup name = event.attributes.lookup name ∧
        ∀ value, event.attributes.lookup name = some value → ∃ b, value = .bool b) :
    Alike admin criticality (names.foldl (Extraction.addFlag event.eventId modeled) x)
      (names.foldl (Reference.addFlag event) y) := by
  -- induction on the names that are left
  induction names generalizing x y with
  | nil => exact h
  | cons name names ih =>
    obtain ⟨⟨hflag, hmodeled, hboolean⟩, hrest⟩ := List.forall_mem_cons.mp hflags
    exact ih (h.addFlag hflag hmodeled hboolean) hrest

/-- The failed logins of an event. -/
theorem Alike.addFailedLogins (h : Alike admin criticality x y)
    (hmodeled : modeledAttributes lib F event = .ok modeled)
    (hlogins : ∀ value, event.attributes.lookup "failed_logins" = some value →
      ∃ n, failedLogins F value = .ok n) :
    ∃ y', addFailedLogins y event = .ok y' ∧
      Alike admin criticality (x.addFailedLogins event.eventId modeled) y' := by
  unfold Reference.addFailedLogins Extraction.addFailedLogins
  rcases lookup_modeled_logins hmodeled hlogins with ⟨hnone, hselected⟩ | ⟨value, n, hvalue, hn, hv⟩
  · rw [hnone, hselected]
    exact ⟨y, rfl, h⟩
  · rw [hvalue, hv]
    refine ⟨_, map_eq_ok.mpr ⟨n, hn, rfl⟩, ?_⟩
    have hvalue' : x.value "failed_login_intensity" = y.value "failed_login_intensity" :=
      h.value (by decide)
    rw [hvalue']
    exact (h.set (by decide) (by decide) fun hflag => absurd hflag (by decide)).extend (by decide)

/-- One event. -/
theorem Alike.addEvent {record : Dict} (h : Alike admin criticality x y)
    (hevent : ValidEvent lib F record event)
    (hmodeled : modeledAttributes lib F event = .ok modeled) :
    ∃ y', addEvent y event = .ok y' ∧
      Alike admin criticality (x.addEvent event.eventId modeled) y' := by
  obtain ⟨y', hy', hlogins⟩ := h.addFailedLogins hmodeled fun value hvalue =>
    (hevent.logins value hvalue).2
  refine ⟨_, map_eq_ok.mpr ⟨y', hy', rfl⟩, hlogins.addFlags fun name hname => ?_⟩
  refine ⟨hname, lookup_modeled_boolean hmodeled hname, fun value hvalue => ?_⟩
  obtain ⟨entry, hentry, rfl⟩ := List.mem_map.mp hname
  exact (hevent.flags entry hentry value hvalue).2

/-- The loop over the events. -/
theorem Alike.addEvents {events : List EvidenceEvent} {x' : Extraction F}
    (h : Alike admin criticality x y)
    (hevents : ∀ event ∈ events, ∃ record, ValidEvent lib F record event)
    (hx : Engine.extractEvents lib x events = .ok x') :
    ∃ y', addEvents y events = .ok y' ∧ Alike admin criticality x' y' := by
  induction events generalizing x y with
  | nil =>
    cases hx
    exact ⟨y, rfl, h⟩
  | cons event events ih =>
    obtain ⟨⟨record, hrecord⟩, hrest⟩ := List.forall_mem_cons.mp hevents
    obtain ⟨modeled, hmodeled, hx⟩ := bind_eq_ok.mp hx
    obtain ⟨y', hy', hstep⟩ := h.addEvent hrecord hmodeled
    obtain ⟨y'', hy'', hdone⟩ := ih hstep hrest hx
    exact ⟨y'', bind_eq_ok.mpr ⟨y', hy', hy''⟩, hdone⟩

/-- The values before the first event. -/
def zeros (F : Type) [EngineFloat F] : Values F := FEATURE_NAMES.map fun name => (name, lit 0)

end Features

/-! ## §4 Evidence -/

section Evidence

variable {lib : Engine.Library} {F : Type} [EngineFloat F]
variable {event : EvidenceEvent} {facts : EventFacts F}

/-- The interpreter reads a time with and without the replacement of its `Z`. -/
def ReadsAlike (lib : Engine.Library) (s : String) : Prop :=
  lib.fromisoformat (Replay.replaceZulu s) = lib.fromisoformat s

/-- The times of an event are read alike by both, so that a `Z` needs no replacement. -/
def PlainTimes (lib : Engine.Library) (event : EvidenceEvent) : Prop :=
  ReadsAlike lib event.observedAt ∧ ReadsAlike lib event.collectedAt

end Evidence

end DecisionFirewall.Reference
