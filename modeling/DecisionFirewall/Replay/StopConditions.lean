import DecisionFirewall.Base.Dict
import DecisionFirewall.Lib.Decimal
import DecisionFirewall.Replay.Contracts

/-!
# Stop Conditions of Gate B

`evaluate_qualification_stop_conditions` of `gate_b.py`: the quarantine rates of a qualified
dataset against the thresholds of an authorization, in decimal arithmetic. The decision is that
of the exact ratios (`evaluate_stops_iff`), and a rejection more never lets a dataset pass
(`evaluate_stops_of_rejection`).

- §1 rates
- §2 rows
- §3 the evaluation
- §4 the exact decision
- §5 one rejection more
-/

namespace DecisionFirewall.Replay.GateB

open Lib (Decimal)

/-! ## §1 Rates -/

/-- Why a rate is refused. -/
inductive RateError where
  | notNumber (label : String)
  | notFinite (label : String)
  deriving DecidableEq, Repr

def RateError.message : RateError → String
  | .notNumber label => label ++ " must be a number in [0, 1]."
  | .notFinite label => label ++ " must be a finite number in [0, 1]."

/-- The number lies between zero and one. -/
def inUnitInterval (label : String) (candidate : Decimal) : Except RateError Decimal :=
  if 0 ≤ candidate.value ∧ candidate.value ≤ 1 then .ok candidate else .error (.notFinite label)

/-- `_rate(value, label)`. -/
def rate (value : Json) (label : String) : Except RateError Decimal :=
  match value with
  | .int n => inUnitInterval label (.ofInt n)
  | .float repr =>
    if repr ∈ ["inf", "-inf", "nan"] then .error (.notFinite label)
    else match Decimal.ofText repr with
      | some candidate => inUnitInterval label candidate
      | none => .error (.notNumber label)
  | _ => .error (.notNumber label)

/-- A number of JSON: the text of a float has at most seventeen digits that count. -/
def IsNumber : Json → Prop
  | .int _ => True
  | .float repr => ∀ d, Decimal.ofText repr = some d → d.coefficient.natAbs < 10 ^ 17
  | _ => False

/-! ## §2 Rows -/

def ALLOWED_QUALIFICATION_THRESHOLD_CATEGORIES : List String :=
  ["ENCODING", "RESOURCE_LIMIT", "SYNTAX", "STRUCTURE", "SEMANTICS", "POLICY", "DUPLICATE"]

/-- What the evaluation reads of a `GateBAuthorization`. -/
structure Authorization where
  authorizationId : String
  expiresAt : String
  fullIntakeCount : Nat
  sampleCount : Nat
  maxOverallQuarantineRate : Decimal
  maxCategoryQuarantineRates : List (String × Decimal)

/-- `category_thresholds`: the last threshold of a category counts. -/
def Authorization.threshold (authorization : Authorization) (category : String) : Option Decimal :=
  authorization.maxCategoryQuarantineRates.reverse.lookup category

/-- What loading says of the thresholds. -/
structure Authorization.Loaded (authorization : Authorization) : Prop where
  sample : 0 < authorization.sampleCount
  overall : ∃ value label, IsNumber value ∧
    rate value label = .ok authorization.maxOverallQuarantineRate
  categories : ∀ entry ∈ authorization.maxCategoryQuarantineRates,
    entry.1 ∈ ALLOWED_QUALIFICATION_THRESHOLD_CATEGORIES ∧
      ∃ value label, IsNumber value ∧ rate value label = .ok entry.2

/-- What a row says: accepted, or rejected under a category. -/
inductive Outcome where
  | accepted
  | rejected (category : String)
  deriving DecidableEq, Repr

/-- A row of the qualification. -/
def IsQualificationRow (row : Dict) (outcome : Outcome) : Prop :=
  match outcome with
  | .accepted => row.get "status" = .str "ACCEPTED"
  | .rejected category => row.get "status" = .str "QUARANTINED" ∧
      row.get "error_category" = .str category ∧ IsIdentifier category

/-! ## §3 The evaluation -/

/-- A `GateBStopConditionViolation`. -/
inductive Stop where
  | countMismatch
  | unknownStatus
  | invalidCategory
  | overallRate
  | unsupportedCategory
  | missingThreshold
  | categoryRate (category : String)
  deriving DecidableEq, Repr

def Stop.message : Stop → String
  | .countMismatch =>
    "Qualification input count does not match the approved Gate B sample count."
  | .unknownStatus => "Qualification contains an unknown Gate B accounting status."
  | .invalidCategory => "Qualification contains an invalid Gate B rejection category."
  | .overallRate => "The overall quarantine rate exceeds the approved Gate B threshold."
  | .unsupportedCategory => "Qualification contains an unsupported Gate B rejection category."
  | .missingThreshold => "No approved Gate B threshold exists for an observed rejection category."
  | .categoryRate category =>
    "The " ++ category ++ " quarantine rate exceeds its approved Gate B threshold."

/-- The outcome of one row. -/
def outcomeOf (row : Dict) : Except Stop Outcome :=
  match row.get "status" with
  | .str "ACCEPTED" => .ok .accepted
  | .str "QUARANTINED" => match row.get "error_category" with
    | .str category =>
      if IsIdentifier category then .ok (.rejected category) else .error .invalidCategory
    | _ => .error .invalidCategory
  | _ => .error .unknownStatus

/-- The outcomes of the rows, up to the first error. -/
def outcomesOf : List Dict → Except Stop (List Outcome)
  | [] => .ok []
  | row :: rows => do
    let outcome ← outcomeOf row
    let outcomes ← outcomesOf rows
    return outcome :: outcomes

/-- The categories of the rejections, in their order. -/
def rejections (outcomes : List Outcome) : List String :=
  outcomes.filterMap fun outcome => match outcome with
    | .accepted => none
    | .rejected category => some category

/-- One category of the rejections. -/
def checkCategory (authorization : Authorization) (categories : List String) (total : Nat)
    (category : String) : Except Stop (String × Decimal) :=
  if category ∉ ALLOWED_QUALIFICATION_THRESHOLD_CATEGORIES then .error .unsupportedCategory
  else match authorization.threshold category with
    | none => .error .missingThreshold
    | some threshold =>
      let observed := Decimal.quotient (categories.count category) total
      if threshold.value < observed.value then .error (.categoryRate category)
      else .ok (category, observed)

/-- The categories in order, up to the first error. -/
def checkCategories (authorization : Authorization) (categories : List String) (total : Nat) :
    List String → Except Stop (List (String × Decimal))
  | [] => .ok []
  | category :: rest => do
    let observed ← checkCategory authorization categories total category
    let others ← checkCategories authorization categories total rest
    return observed :: others

/-- What the evaluation returns of a dataset that passes; the rates are reported as floats. -/
structure Report where
  authorizationId : String
  expiresAt : String
  fullIntakeCount : Nat
  sampleCount : Nat
  inputRecords : Nat
  acceptedRecords : Nat
  quarantinedRecords : Nat
  overallQuarantineRate : Decimal
  categoryQuarantineRates : List (String × Decimal)
  deriving DecidableEq, Repr

/-- `evaluate_qualification_stop_conditions(authorization, qualification_records)`; every row
that is counted is accepted or rejected. -/
def evaluateQualificationStopConditions (authorization : Authorization)
    (qualificationRecords : List Dict) : Except Stop Report := do
  let inputCount := qualificationRecords.length
  if inputCount ≠ authorization.sampleCount then .error .countMismatch
  else
    let outcomes ← outcomesOf qualificationRecords
    let categories := rejections outcomes
    let overall := Decimal.quotient categories.length inputCount
    if authorization.maxOverallQuarantineRate.value < overall.value then .error .overallRate
    else
      -- `sorted(rejection_categories.items())`
      let observed ← checkCategories authorization categories inputCount
        (categories.dedup.mergeSort fun a b => decide (a ≤ b))
      return {
        authorizationId := authorization.authorizationId
        expiresAt := authorization.expiresAt
        fullIntakeCount := authorization.fullIntakeCount
        sampleCount := authorization.sampleCount
        inputRecords := inputCount
        acceptedRecords := inputCount - categories.length
        quarantinedRecords := categories.length
        overallQuarantineRate := overall
        categoryQuarantineRates := observed }

/-! ## §4 The exact decision -/

section Exact

variable {authorization : Authorization} {rows : List Dict} {outcomes : List Outcome}
variable {category : String} {categories : List String} {total : Nat}

/-- A number that lies between zero and one. -/
theorem of_inUnitInterval {label : String} {candidate threshold : Decimal}
    (h : inUnitInterval label candidate = .ok threshold) :
    candidate = threshold ∧ 0 ≤ threshold.value ∧ threshold.value ≤ 1 := by
  unfold inUnitInterval at h
  split at h
  next hrange =>
    cases h
    exact ⟨rfl, hrange⟩
  · cases h

/-- A threshold that has been read is a short number. -/
theorem short_of_rate {value : Json} {label : String} {threshold : Decimal}
    (hnumber : IsNumber value) (h : rate value label = .ok threshold) : threshold.Short := by
  cases value with
  | int n =>
    obtain ⟨rfl, hzero, hone⟩ := of_inUnitInterval h
    refine Decimal.short_of_digits ?_ hzero hone
    simp only [Decimal.ofInt, Decimal.value, zpow_zero, mul_one] at hzero hone ⊢
    have hn : 0 ≤ n := by exact_mod_cast hzero
    have hn' : n ≤ 1 := by exact_mod_cast hone
    omega
  | float repr =>
    unfold rate at h
    dsimp only at h
    split at h
    · cases h
    · split at h
      next candidate hcandidate =>
        obtain ⟨rfl, hzero, hone⟩ := of_inUnitInterval h
        exact Decimal.short_of_digits (hnumber _ hcandidate) hzero hone
      · cases h
  | null | bool | str | arr | obj => cases h

theorem mem_of_threshold {threshold : Decimal} (h : authorization.threshold category = some threshold) :
    (category, threshold) ∈ authorization.maxCategoryQuarantineRates := by
  obtain ⟨before, after, heq, -⟩ := List.lookup_eq_some_iff.mp h
  rw [← List.mem_reverse, heq]
  simp

/-- The rows are read as what they say. -/
theorem outcomesOf_eq (h : List.Forall₂ IsQualificationRow rows outcomes) :
    outcomesOf rows = .ok outcomes := by
  induction h with
  | nil => rfl
  | @cons row outcome rows outcomes hrow _ ih =>
    have hone : outcomeOf row = .ok outcome := by
      unfold outcomeOf
      cases outcome with
      | accepted =>
        have hstatus : row.get "status" = .str "ACCEPTED" := hrow
        rw [hstatus]
        rfl
      | rejected category =>
        obtain ⟨hstatus, hcategory, hidentifier⟩ := hrow
        rw [hstatus, hcategory]
        exact if_pos hidentifier
    unfold outcomesOf
    rw [hone, ih]
    rfl

/-- A category stops a dataset: it has no threshold, or its share is above it. -/
def Exceeds (authorization : Authorization) (categories : List String) (total : Nat)
    (category : String) : Prop :=
  match authorization.threshold category with
  | none => True
  | some threshold => threshold.value < (categories.count category : ℚ) / total

/-- The dataset is to be stopped. -/
def Stops (authorization : Authorization) (outcomes : List Outcome) : Prop :=
  authorization.maxOverallQuarantineRate.value <
      ((rejections outcomes).length : ℚ) / outcomes.length ∨
    ∃ category ∈ rejections outcomes,
      Exceeds authorization (rejections outcomes) outcomes.length category

/-- The check of a category is exact. -/
theorem checkCategory_eq_error (hloaded : authorization.Loaded) (htotal : 0 < total)
    (hbound : total ≤ 100000) (hle : categories.count category ≤ total) :
    (∃ stop, checkCategory authorization categories total category = .error stop) ↔
      Exceeds authorization categories total category := by
  unfold checkCategory Exceeds
  cases hthreshold : authorization.threshold category with
  | none =>
    simp only [iff_true]
    split
    · exact ⟨_, rfl⟩
    · exact ⟨_, rfl⟩
  | some threshold =>
    obtain ⟨hallowed, value, label, hnumber, hrate⟩ :=
      hloaded.categories _ (mem_of_threshold hthreshold)
    have hshort := short_of_rate hnumber hrate
    simp only [hallowed, not_true_eq_false, if_false]
    rw [← Decimal.lt_quotient_iff hshort htotal hbound hle]
    split
    next hlt => exact ⟨fun _ => hlt, fun _ => ⟨_, rfl⟩⟩
    next hlt => exact ⟨fun ⟨_, h⟩ => (by cases h), fun h => absurd h hlt⟩

/-- Some category is refused. -/
theorem checkCategories_eq_error {checked : List String} :
    (∃ stop, checkCategories authorization categories total checked = .error stop) ↔
      ∃ category ∈ checked, ∃ stop,
        checkCategory authorization categories total category = .error stop := by
  induction checked with
  | nil => simp [checkCategories]
  | cons category checked ih =>
    simp only [List.mem_cons, exists_eq_or_imp, ← ih]
    constructor
    · rintro ⟨stop, h⟩
      rcases Lib.bind_eq_error.mp h with h | ⟨observed, -, h⟩
      · exact .inl ⟨stop, h⟩
      rcases Lib.bind_eq_error.mp h with h | ⟨others, -, h⟩
      · exact .inr ⟨stop, h⟩
      · cases h
    · rintro (⟨stop, h⟩ | ⟨stop, h⟩)
      · exact ⟨stop, Lib.bind_eq_error.mpr (.inl h)⟩
      · cases hone : checkCategory authorization categories total category with
        | error stop' => exact ⟨stop', Lib.bind_eq_error.mpr (.inl hone)⟩
        | ok observed =>
          exact ⟨stop, Lib.bind_eq_error.mpr (.inr ⟨observed, hone,
            Lib.bind_eq_error.mpr (.inl h)⟩)⟩

theorem length_rejections_le (outcomes : List Outcome) :
    (rejections outcomes).length ≤ outcomes.length :=
  List.length_filterMap_le _ _

/-- The evaluation stops a dataset exactly where the ratios say so. -/
theorem evaluate_eq_error (hloaded : authorization.Loaded)
    (hrows : List.Forall₂ IsQualificationRow rows outcomes) (hbound : rows.length ≤ 100000)
    (hcount : rows.length = authorization.sampleCount) :
    (∃ stop, evaluateQualificationStopConditions authorization rows = .error stop) ↔
      Stops authorization outcomes := by
  have hlength : rows.length = outcomes.length := hrows.length_eq
  have htotal : 0 < rows.length := hcount ▸ hloaded.sample
  obtain ⟨value, label, hnumber, hrate⟩ := hloaded.overall
  have hle : (rejections outcomes).length ≤ rows.length := hlength ▸ length_rejections_le outcomes
  have hoverall := Decimal.lt_quotient_iff (short_of_rate hnumber hrate) htotal hbound hle
  unfold evaluateQualificationStopConditions Stops
  dsimp only
  rw [if_neg (not_not.mpr hcount), outcomesOf_eq hrows, ← hlength, ← hoverall]
  constructor
  · rintro ⟨stop, h⟩
    obtain ⟨_, ⟨⟩, h⟩ := (Lib.bind_eq_error.mp h).resolve_left (by simp)
    split at h
    next hlt => exact .inl hlt
    · rcases Lib.bind_eq_error.mp h with h | ⟨observed, -, h⟩
      · obtain ⟨category, hmem, hstop⟩ := checkCategories_eq_error.mp ⟨stop, h⟩
        have hcategory : category ∈ rejections outcomes :=
          List.mem_dedup.mp (List.mem_mergeSort.mp hmem)
        exact .inr ⟨category, hcategory, (checkCategory_eq_error hloaded htotal hbound
          (List.count_le_length.trans hle)).mp hstop⟩
      · cases h
  · intro h
    by_cases hlt : authorization.maxOverallQuarantineRate.value <
        (Decimal.quotient (rejections outcomes).length rows.length).value
    · exact ⟨.overallRate, if_pos hlt⟩
    · obtain ⟨category, hcategory, hexceeds⟩ := h.resolve_left hlt
      have hstop := (checkCategory_eq_error hloaded htotal hbound
        (List.count_le_length.trans hle)).mpr hexceeds
      obtain ⟨stop, hstop⟩ := checkCategories_eq_error.mpr
        ⟨category, List.mem_mergeSort.mpr (List.mem_dedup.mpr hcategory), hstop⟩
      refine ⟨stop, (if_neg hlt).trans ?_⟩
      exact Lib.bind_eq_error.mpr (.inl hstop)

/-! ## §5 One rejection more -/

theorem rejections_append (before after : List Outcome) :
    rejections (before ++ after) = rejections before ++ rejections after :=
  List.filterMap_append

/-- A rejection in place of an acceptance takes no stop back. -/
theorem stops_of_rejection {before after : List Outcome} (category : String)
    (h : Stops authorization (before ++ .accepted :: after)) :
    Stops authorization (before ++ .rejected category :: after) := by
  have hfew : rejections (before ++ .accepted :: after) = rejections before ++ rejections after :=
    rejections_append _ _
  have hmany : rejections (before ++ .rejected category :: after) =
      rejections before ++ category :: rejections after := rejections_append _ _
  have hlength : (before ++ .accepted :: after : List Outcome).length =
      (before ++ .rejected category :: after).length := by simp
  unfold Stops at h ⊢
  rw [hfew, hlength] at h
  rw [hmany]
  generalize (before ++ .rejected category :: after).length = total at h ⊢
  rcases h with h | ⟨other, hother, hexceeds⟩
  · refine .inl (h.trans_le ?_)
    have hle : (rejections before ++ rejections after).length ≤
        (rejections before ++ category :: rejections after).length := by simp
    have hcast : ((rejections before ++ rejections after).length : ℚ) ≤
        (rejections before ++ category :: rejections after).length := by exact_mod_cast hle
    exact div_le_div_of_nonneg_right hcast (Nat.cast_nonneg total)
  · refine .inr ⟨other, ?_, ?_⟩
    · rcases List.mem_append.mp hother with hmem | hmem
      · exact List.mem_append_left _ hmem
      · exact List.mem_append_right _ (List.mem_cons_of_mem _ hmem)
    · unfold Exceeds at hexceeds ⊢
      cases hthreshold : authorization.threshold other with
      | none => trivial
      | some threshold =>
        rw [hthreshold] at hexceeds
        refine lt_of_lt_of_le hexceeds ?_
        have hle : (rejections before ++ rejections after).count other ≤
            (rejections before ++ category :: rejections after).count other :=
          List.Sublist.count_le _ ((List.sublist_cons_self _ _).append_left _)
        have hcast : ((rejections before ++ rejections after).count other : ℚ) ≤
            (rejections before ++ category :: rejections after).count other := by exact_mod_cast hle
        exact div_le_div_of_nonneg_right hcast (Nat.cast_nonneg total)

/-- Rows around one row. -/
theorem exists_outcomes {before after : List Dict} {row : Dict}
    (h : List.Forall₂ IsQualificationRow (before ++ row :: after) outcomes) :
    ∃ outcomesBefore outcome outcomesAfter,
      outcomes = outcomesBefore ++ outcome :: outcomesAfter ∧
        List.Forall₂ IsQualificationRow before outcomesBefore ∧ IsQualificationRow row outcome ∧
          List.Forall₂ IsQualificationRow after outcomesAfter := by
  induction before generalizing outcomes with
  | nil =>
    cases h with
    | cons hrow hafter => exact ⟨[], _, _, rfl, .nil, hrow, hafter⟩
  | cons first before ih =>
    cases h with
    | cons hfirst hrest =>
      obtain ⟨outcomesBefore, outcome, outcomesAfter, rfl, hbefore, hrow, hafter⟩ := ih hrest
      exact ⟨_ :: outcomesBefore, outcome, outcomesAfter, rfl, .cons hfirst hbefore, hrow, hafter⟩

/-- The decision is that of the exact ratios, and a rejection in place of an acceptance never
lets a stopped dataset pass. -/
theorem evaluateQualificationStopConditions_exact (hloaded : authorization.Loaded)
    (hrows : List.Forall₂ IsQualificationRow rows outcomes) (hbound : rows.length ≤ 100000)
    (hcount : rows.length = authorization.sampleCount) :
    ((∃ stop, evaluateQualificationStopConditions authorization rows = .error stop) ↔
      Stops authorization outcomes) ∧
    ∀ before row after row' category, rows = before ++ row :: after →
      IsQualificationRow row .accepted → IsQualificationRow row' (.rejected category) →
      (∃ stop, evaluateQualificationStopConditions authorization rows = .error stop) →
      ∃ stop, evaluateQualificationStopConditions authorization (before ++ row' :: after) =
        .error stop := by
  have hexact := evaluate_eq_error hloaded hrows hbound hcount
  refine ⟨hexact, ?_⟩
  rintro before row after row' category rfl haccepted hrejected hstop
  obtain ⟨outcomesBefore, outcome, outcomesAfter, rfl, hbefore, hrow, hafter⟩ :=
    exists_outcomes hrows
  have houtcome : outcome = .accepted := by
    cases outcome with
    | accepted => rfl
    | rejected other =>
      exact absurd (Json.str.inj (hrow.1.symm.trans haccepted)) (by decide)
  subst houtcome
  have hrows' : List.Forall₂ IsQualificationRow (before ++ row' :: after)
      (outcomesBefore ++ .rejected category :: outcomesAfter) :=
    List.rel_append hbefore (.cons hrejected hafter)
  have hlength : (before ++ row' :: after).length = (before ++ row :: after).length := by simp
  refine (evaluate_eq_error hloaded hrows' (hlength ▸ hbound) (hlength ▸ hcount)).mpr ?_
  exact stops_of_rejection category (hexact.mp hstop)

end Exact

/-- A half of one category is allowed, and nothing is said of the other. -/
def exampleAuthorization : Authorization :=
  ⟨"authorization-1", "2026-01-01T00:00:00Z", 2, 2, .ofInt 1, [("SYNTAX", ⟨5, -1⟩)]⟩

theorem loaded_example : exampleAuthorization.Loaded where
  sample := by decide
  overall := by
    refine ⟨.int 1, "", trivial, ?_⟩
    show inUnitInterval "" (.ofInt 1) = _
    unfold inUnitInterval
    rw [if_pos (by norm_num [Decimal.ofInt, Decimal.value])]
    rfl
  categories entry hentry := by
    obtain rfl := List.mem_singleton.mp hentry
    have htext : Decimal.ofText "0.5" = some ⟨5, -1⟩ := by rfl
    refine ⟨by decide, .float "0.5", "", fun d hd => ?_, ?_⟩
    · obtain rfl := Option.some.inj (htext.symm.trans hd)
      decide
    · unfold rate
      dsimp only
      rw [if_neg (by decide), htext]
      show inUnitInterval "" ⟨5, -1⟩ = _
      unfold inUnitInterval
      rw [if_pos (by norm_num [Decimal.value])]

theorem evaluateQualificationStopConditions_exact_example :
    ∃ stop, evaluateQualificationStopConditions exampleAuthorization
      [[("status", .str "ACCEPTED")],
        [("status", .str "QUARANTINED"), ("error_category", .str "STRUCTURE")]] = .error stop := by
  have hrows : List.Forall₂ IsQualificationRow
      [[("status", .str "ACCEPTED")],
        [("status", .str "QUARANTINED"), ("error_category", .str "STRUCTURE")]]
      [.accepted, .rejected "STRUCTURE"] :=
    .cons rfl (.cons ⟨rfl, rfl, by decide⟩ .nil)
  refine (evaluateQualificationStopConditions_exact loaded_example hrows (by simp) rfl).1.mpr ?_
  exact .inr ⟨"STRUCTURE", List.mem_singleton.mpr rfl, trivial⟩

end DecisionFirewall.Replay.GateB
